/-!
# Values

A value is what a node produces and what a template or a condition reads. Most values are JSON:
records keep the order in which their keys first appeared, and integers are exact. A condition can
also produce a byte string, a complex number or the ellipsis; those have no JSON form of their own.
-/

namespace Flowline

/-- What a node can produce. `IsJson` says which values a JSON text can spell. -/
inductive Value where
  | null
  | bool (b : Bool)
  | int (n : Int)
  | float (x : Float)
  | text (s : String)
  | bytes (octets : List UInt8)
  | complex (re im : Float)
  | ellipsis
  | list (items : List Value)
  | record (fields : List (String × Value))
  deriving Inhabited

/-- Keyed values in the order in which their keys first appeared. -/
abbrev Fields (α : Type) := List (String × α)

namespace Fields

/-- A key that is already there keeps its place and takes the new value. -/
def put (fields : Fields α) (key : String) (value : α) : Fields α :=
  match fields with
  | [] => [(key, value)]
  | (k, v) :: rest => if k = key then (key, value) :: rest else (k, v) :: put rest key value

def find? (fields : Fields α) (key : String) : Option α :=
  match fields with
  | [] => none
  | (k, v) :: rest => if k = key then some v else find? rest key

def keys (fields : Fields α) : List String := fields.map (·.1)

def contains (fields : Fields α) (key : String) : Bool := (find? fields key).isSome

def merge (fields more : Fields α) : Fields α :=
  more.foldl (fun acc entry => put acc entry.1 entry.2) fields

@[simp] theorem find?_put_self (fields : Fields α) (key : String) (value : α) :
    find? (put fields key value) key = some value := by
  induction fields with
  | nil => simp [put, find?]
  | cons entry rest ih =>
    obtain ⟨k, v⟩ := entry
    by_cases h : k = key <;> simp [put, find?, h, ih]

@[simp] theorem find?_put_of_ne (fields : Fields α) {key other : String} (value : α)
    (h : other ≠ key) : find? (put fields key value) other = find? fields other := by
  induction fields with
  | nil => simp [put, find?, Ne.symm h]
  | cons entry rest ih =>
    obtain ⟨k, v⟩ := entry
    by_cases hk : k = key
    · subst hk; simp [put, find?, Ne.symm h]
    · simp [put, find?, hk, ih]

theorem keys_put (fields : Fields α) (key : String) (value : α) :
    keys (put fields key value) =
      if key ∈ keys fields then keys fields else keys fields ++ [key] := by
  induction fields with
  | nil => simp [put, keys]
  | cons entry rest ih =>
    obtain ⟨k, v⟩ := entry
    simp only [keys] at ih
    by_cases hk : k = key
    · simp [put, keys, hk]
    · by_cases hm : key ∈ rest.map (·.1) <;> simp_all [put, keys, Ne.symm hk]

theorem nodup_keys_put (fields : Fields α) (key : String) (value : α)
    (distinct : (keys fields).Nodup) : (keys (put fields key value)).Nodup := by
  rw [keys_put]
  split
  · exact distinct
  · rename_i absent
    exact List.nodup_append.2 ⟨distinct, by simp, by grind⟩

end Fields

namespace Value

mutual
def IsJson : Value → Prop
  | .null | .bool _ | .int _ | .float _ | .text _ => True
  | .bytes _ | .complex .. | .ellipsis => False
  | .list items => AllJson items
  | .record fields => FieldsJson fields
def AllJson : List Value → Prop
  | [] => True
  | item :: rest => item.IsJson ∧ AllJson rest
def FieldsJson : List (String × Value) → Prop
  | [] => True
  | (_, item) :: rest => item.IsJson ∧ FieldsJson rest
end

def isNull : Value → Bool
  | .null => true
  | _ => false

/-- Zero, an empty text or collection and null count as no. A NaN counts as yes. -/
def truthy : Value → Bool
  | .null => false
  | .bool b => b
  | .int n => n != 0
  | .float x => !(x == 0)
  | .text s => !s.isEmpty
  | .bytes octets => !octets.isEmpty
  | .complex re im => !(re == 0 && im == 0)
  | .ellipsis => true
  | .list items => !items.isEmpty
  | .record fields => !fields.isEmpty

end Value

end Flowline

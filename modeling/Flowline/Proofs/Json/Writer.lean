import Flowline.Proofs.Json.Number
import Flowline.Service.Response

/-!
# The characters of written JSON

A value of well-formed texts is written as well-formed text, and every value is written on one line,
without control characters. Whatever else is written, of digits, escapes and words, is printable
ASCII, which has neither halves of surrogate pairs nor controls.
-/

namespace Flowline

-- ---------------------------------------------------------------------------
-- Characters that are whole
-- ---------------------------------------------------------------------------

namespace Text

def AreWhole (cs : List Char) : Prop := ∀ c ∈ cs, isHalf c = false

-- given by name, for there is also an instance that goes through all characters
instance : DecidablePred AreWhole := fun cs => List.decidableBAll (isHalf · = false) cs

theorem isWellFormed_iff {s : String} : isWellFormed s = true ↔ AreWhole s.toList := by
  simp [isWellFormed, AreWhole]

@[simp] theorem areWhole_nil : AreWhole [] := nofun

@[simp] theorem areWhole_cons {c : Char} {cs : List Char} :
    AreWhole (c :: cs) ↔ isHalf c = false ∧ AreWhole cs :=
  List.forall_mem_cons

@[simp] theorem areWhole_append {cs ds : List Char} :
    AreWhole (cs ++ ds) ↔ AreWhole cs ∧ AreWhole ds :=
  List.forall_mem_append

theorem AreWhole.flatMap {cs : List Char} {f : Char → List Char} (whole : AreWhole cs)
    (each : ∀ c, isHalf c = false → AreWhole (f c)) : AreWhole (cs.flatMap f) := by
  intro d h
  obtain ⟨c, mem, inside⟩ := List.mem_flatMap.mp h
  exact each c (whole c mem) d inside

-- ---------------------------------------------------------------------------
-- Printable ASCII
-- ---------------------------------------------------------------------------

def AreInLine (cs : List Char) : Prop := ∀ c ∈ cs, 0x20 ≤ c.toNat

@[simp] theorem areInLine_nil : AreInLine [] := nofun

@[simp] theorem areInLine_cons {c : Char} {cs : List Char} :
    AreInLine (c :: cs) ↔ 0x20 ≤ c.toNat ∧ AreInLine cs :=
  List.forall_mem_cons

@[simp] theorem areInLine_append {cs ds : List Char} :
    AreInLine (cs ++ ds) ↔ AreInLine cs ∧ AreInLine ds :=
  List.forall_mem_append

def ArePlain (cs : List Char) : Prop := ∀ c ∈ cs, 0x20 ≤ c.toNat ∧ c.toNat < 0x7F

instance : DecidablePred ArePlain := fun cs =>
  List.decidableBAll (fun c : Char => 0x20 ≤ c.toNat ∧ c.toNat < 0x7F) cs

@[simp] theorem arePlain_nil : ArePlain [] := nofun

@[simp] theorem arePlain_cons {c : Char} {cs : List Char} :
    ArePlain (c :: cs) ↔ (0x20 ≤ c.toNat ∧ c.toNat < 0x7F) ∧ ArePlain cs :=
  List.forall_mem_cons

@[simp] theorem arePlain_append {cs ds : List Char} :
    ArePlain (cs ++ ds) ↔ ArePlain cs ∧ ArePlain ds :=
  List.forall_mem_append

theorem ArePlain.of_subset {cs ds : List Char} (plain : ArePlain ds) (inside : cs ⊆ ds) :
    ArePlain cs :=
  fun c h => plain c (inside h)

theorem ArePlain.areInLine {cs : List Char} (plain : ArePlain cs) : AreInLine cs :=
  fun c h => (plain c h).1

theorem ArePlain.areWhole {cs : List Char} (plain : ArePlain cs) : AreWhole cs := by
  intro c h
  have low : c.toNat < halfBase := Nat.lt_trans (plain c h).2 (by decide)
  simp [isHalf, half?, Nat.not_le.mpr low]

theorem arePlain_replicate (n : Nat) : ArePlain (List.replicate n '0') := by
  intro d h
  rw [List.eq_of_mem_replicate h]
  decide

theorem arePlain_toDigits (n : Nat) : ArePlain (Nat.toDigits 10 n) := by
  intro c h
  have digit : c.isDigit = true := Nat.isDigit_of_mem_toDigits (by decide) (by decide) h
  simp only [Char.isDigit, Bool.and_eq_true, decide_eq_true_eq] at digit
  exact ⟨Nat.le_trans (by decide) (UInt32.le_iff_toNat_le.mp digit.1),
    Nat.lt_of_le_of_lt (UInt32.le_iff_toNat_le.mp digit.2) (by decide)⟩

theorem arePlain_integerText (n : Int) : ArePlain (integerText n).toList := by
  have sign (negative : Bool) : ArePlain (Json.minus negative) := by
    cases negative <;> decide
  rw [Json.toList_integerText, arePlain_append]
  exact ⟨sign _, arePlain_toDigits _⟩

theorem arePlain_hexText (width n : Nat) : ArePlain (hexText width n) := by
  have digits : ArePlain "0123456789abcdef".toList := by decide
  have digit (k : Nat) : 0x20 ≤ (hexDigit k).toNat ∧ (hexDigit k).toNat < 0x7F := by
    rw [hexDigit, List.getD_eq_getElem?_getD]
    cases found : "0123456789abcdef".toList[k]? with
    | none => decide
    | some c => exact digits c (List.mem_of_getElem? found)
  induction width generalizing n with
  | zero => exact arePlain_nil
  | succ width ih => simp [hexText, ih, digit]

end Text

open Text (AreWhole AreInLine ArePlain arePlain_toDigits arePlain_replicate)

-- ---------------------------------------------------------------------------
-- Numbers
-- ---------------------------------------------------------------------------

namespace Decimal

theorem arePlain_digits_shortest (m : Nat) (e : Int) : ArePlain (shortest m e).digits := by
  have trimmed (digits : List Char) : trimZeros digits ⊆ digits := fun c h => by
    rw [trimZeros, List.mem_reverse] at h
    exact List.mem_reverse.mp ((List.dropWhile_sublist _).subset h)
  exact (arePlain_toDigits _).of_subset (trimmed _)

theorem arePlain_exponentText (width : Nat) (e : Int) :
    ArePlain (exponentText width e).toList := by
  have mark : ArePlain (if e < 0 then "-" else "+").toList := by
    split <;> decide
  simp only [exponentText, padLeft, String.toList_append, String.toList_ofList]
  exact Text.arePlain_append.mpr
    ⟨mark, Text.arePlain_append.mpr ⟨arePlain_replicate _, arePlain_toDigits _⟩⟩

theorem arePlain_render {s : Scientific} (plain : ArePlain s.digits) :
    ArePlain (Layout.float.render s).toList := by
  have front (n : Nat) : ArePlain (s.digits.take n) := plain.of_subset (List.take_subset _ _)
  have back (n : Nat) : ArePlain (s.digits.drop n) := plain.of_subset (List.drop_subset _ _)
  have tail : ArePlain s.digits.tail := plain.of_subset (List.tail_sublist _).subset
  have zeros := arePlain_replicate
  have mark : ArePlain Layout.float.exponentMark.toList := by decide
  simp only [Layout.render]
  split
  · split <;> simp [*, arePlain_exponentText]
  · split
    · simp [*]
    · split
      · split <;> simp [*]
      · simp [*]

theorem arePlain_text (x : Float) : ArePlain (text x).toList := by
  have sign (negative : Bool) : ArePlain (sign negative).toList := by
    cases negative <;> decide
  unfold text
  split
  · decide
  · rw [String.toList_append, Text.arePlain_append]
    exact ⟨sign _, by decide⟩
  · rw [String.toList_append, Text.arePlain_append]
    refine ⟨sign _, ?_⟩
    split
    · decide
    · exact arePlain_render (arePlain_digits_shortest _ _)

end Decimal

-- ---------------------------------------------------------------------------
-- Values
-- ---------------------------------------------------------------------------

namespace Json

theorem areWhole_escapedChar {c : Char} (whole : Text.isHalf c = false) :
    AreWhole (escapedChar c) := by
  unfold escapedChar
  split_ifs <;> try decide
  · exact Text.areWhole_cons.mpr
      ⟨rfl, Text.areWhole_cons.mpr ⟨rfl, (Text.arePlain_hexText _ _).areWhole⟩⟩
  · exact Text.areWhole_cons.mpr ⟨whole, Text.areWhole_nil⟩

theorem areWhole_writeText {s : String} (whole : Text.isWellFormed s = true) :
    AreWhole (writeText s) := by
  have quote : Text.isHalf '"' = false := rfl
  have escaped := (Text.isWellFormed_iff.mp whole).flatMap fun c => areWhole_escapedChar
  simp [writeText, quote, escaped]

theorem arePlain_writeFloat (x : Float) : ArePlain (writeFloat x) := by
  unfold writeFloat
  split
  · decide
  · next negative _ => cases negative <;> decide
  · exact Decimal.arePlain_text x

structure Separators.AreWhole (sep : Separators) : Prop where
  item : Text.AreWhole sep.item.toList
  key : Text.AreWhole sep.key.toList

variable {sep : Separators}

mutual
theorem areWhole_write (apart : sep.AreWhole) :
    (v : Value) → v.IsJson → Service.Plain.isWellFormed v = true → AreWhole (write sep v)
  | .null, _, _ => show AreWhole "null".toList by decide
  | .bool true, _, _ => show AreWhole "true".toList by decide
  | .bool false, _, _ => show AreWhole "false".toList by decide
  | .int n, _, _ => (Text.arePlain_integerText n).areWhole
  | .float x, _, _ => (arePlain_writeFloat x).areWhole
  | .text s, _, whole => areWhole_writeText whole
  | .bytes _, json, _ | .complex .., json, _ | .ellipsis, json, _ => json.elim
  | .list [], _, _ => show AreWhole ['[', ']'] by decide
  | .list (item :: rest), json, whole => by
    obtain ⟨first, further⟩ := Bool.and_eq_true_iff.mp whole
    rw [write, Text.areWhole_cons, Text.areWhole_append]
    exact ⟨rfl, areWhole_write apart item json.1 first,
      areWhole_writeItems apart rest json.2 further⟩
  | .record [], _, _ => show AreWhole ['\x7b', '\x7d'] by decide
  | .record ((key, item) :: rest), json, whole => by
    obtain ⟨entry, further⟩ := Bool.and_eq_true_iff.mp whole
    obtain ⟨name, first⟩ := Bool.and_eq_true_iff.mp entry
    simp only [write, Text.areWhole_cons, Text.areWhole_append]
    exact ⟨rfl, ⟨⟨areWhole_writeText name, apart.key⟩, areWhole_write apart item json.1 first⟩,
      areWhole_writeFields apart rest json.2 further⟩
theorem areWhole_writeItems (apart : sep.AreWhole) :
    (rest : List Value) → Value.AllJson rest → Service.Plain.areWellFormed rest = true →
      AreWhole (writeItems sep rest)
  | [], _, _ => show AreWhole [']'] by decide
  | item :: rest, json, whole => by
    obtain ⟨first, further⟩ := Bool.and_eq_true_iff.mp whole
    simp only [writeItems, Text.areWhole_append]
    exact ⟨⟨apart.item, areWhole_write apart item json.1 first⟩,
      areWhole_writeItems apart rest json.2 further⟩
theorem areWhole_writeFields (apart : sep.AreWhole) :
    (rest : List (String × Value)) → Value.FieldsJson rest →
      Service.Plain.fieldsWellFormed rest = true → AreWhole (writeFields sep rest)
  | [], _, _ => show AreWhole ['\x7d'] by decide
  | (key, item) :: rest, json, whole => by
    obtain ⟨entry, further⟩ := Bool.and_eq_true_iff.mp whole
    obtain ⟨name, first⟩ := Bool.and_eq_true_iff.mp entry
    simp only [writeFields, Text.areWhole_append]
    exact ⟨⟨⟨⟨apart.item, areWhole_writeText name⟩, apart.key⟩,
      areWhole_write apart item json.1 first⟩, areWhole_writeFields apart rest json.2 further⟩
end

-- ---------------------------------------------------------------------------
-- One line
-- ---------------------------------------------------------------------------

theorem areInLine_escapedChar (c : Char) : AreInLine (escapedChar c) := by
  unfold escapedChar
  split_ifs with _ _ _ _ _ _ _ control <;> try exact ArePlain.areInLine (by decide)
  · have digits : AreInLine (Text.hexText 4 c.toNat) := (Text.arePlain_hexText 4 c.toNat).areInLine
    exact Text.areInLine_cons.mpr ⟨by decide, Text.areInLine_cons.mpr ⟨by decide, digits⟩⟩
  · exact Text.areInLine_cons.mpr ⟨Nat.not_lt.mp control, nofun⟩

theorem areInLine_writeText (s : String) : AreInLine (writeText s) := by
  have escaped : AreInLine (s.toList.flatMap escapedChar) := by
    intro d h
    obtain ⟨c, -, inside⟩ := List.mem_flatMap.mp h
    exact areInLine_escapedChar c d inside
  simp [writeText, escaped]

structure Separators.AreInLine (sep : Separators) : Prop where
  item : Text.AreInLine sep.item.toList
  key : Text.AreInLine sep.key.toList

mutual
theorem areInLine_write (inside : sep.AreInLine) : (v : Value) → AreInLine (write sep v)
  | .null => show AreInLine "null".toList from ArePlain.areInLine (by decide)
  | .bool true => show AreInLine "true".toList from ArePlain.areInLine (by decide)
  | .bool false => show AreInLine "false".toList from ArePlain.areInLine (by decide)
  | .int n => (Text.arePlain_integerText n).areInLine
  | .float x => (arePlain_writeFloat x).areInLine
  | .text s => areInLine_writeText s
  | .bytes _ | .complex .. | .ellipsis => areInLine_writeText _
  | .list [] => show AreInLine ['[', ']'] from ArePlain.areInLine (by decide)
  | .record [] => show AreInLine ['\x7b', '\x7d'] from ArePlain.areInLine (by decide)
  | .list (item :: rest) => by
    rw [write, Text.areInLine_cons, Text.areInLine_append]
    exact ⟨by decide, areInLine_write inside item, areInLine_writeItems inside rest⟩
  | .record ((key, item) :: rest) => by
    simp only [write, Text.areInLine_cons, Text.areInLine_append]
    exact ⟨by decide, ⟨⟨areInLine_writeText key, inside.key⟩, areInLine_write inside item⟩,
      areInLine_writeFields inside rest⟩
theorem areInLine_writeItems (inside : sep.AreInLine) :
    (rest : List Value) → AreInLine (writeItems sep rest)
  | [] => show AreInLine [']'] from ArePlain.areInLine (by decide)
  | item :: rest => by
    simp only [writeItems, Text.areInLine_append]
    exact ⟨⟨inside.item, areInLine_write inside item⟩, areInLine_writeItems inside rest⟩
theorem areInLine_writeFields (inside : sep.AreInLine) :
    (rest : List (String × Value)) → AreInLine (writeFields sep rest)
  | [] => show AreInLine ['\x7d'] from ArePlain.areInLine (by decide)
  | (key, item) :: rest => by
    simp only [writeFields, Text.areInLine_append]
    exact ⟨⟨⟨⟨inside.item, areInLine_writeText key⟩, inside.key⟩, areInLine_write inside item⟩,
      areInLine_writeFields inside rest⟩
end

end Json

end Flowline

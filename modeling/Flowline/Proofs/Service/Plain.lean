import Flowline.Proofs.Act.Done
import Flowline.Service.Response
import Mathlib.Tactic.Common

/-!
# Plain values

A value is plain if JSON can spell it and a client gets it as it is: its numbers are finite, its
integers have a text, its texts are well formed and no key of it is hidden.
-/

namespace Flowline

open Service (isHidden Plain.ofValue Plain.ofItems Plain.ofFields)

namespace Value

mutual
def IsPlain : Value → Prop
  | .null | .bool _ => True
  | .int n => integerFits n = true
  | .float x => x.isFinite = true
  | .text s => Text.isWellFormed s = true
  | .bytes _ | .complex .. | .ellipsis => False
  | .list items => AllPlain items
  | .record fields => FieldsPlain fields
def AllPlain : List Value → Prop
  | [] => True
  | item :: rest => item.IsPlain ∧ AllPlain rest
def FieldsPlain : List (String × Value) → Prop
  | [] => True
  | (key, item) :: rest =>
    (Text.isWellFormed key = true ∧ isHidden key = false ∧ item.IsPlain) ∧ FieldsPlain rest
end

def IsPlainField (field : String × Value) : Prop :=
  Text.isWellFormed field.1 = true ∧ isHidden field.1 = false ∧ field.2.IsPlain

theorem isPlainField_iff {key : String} {v : Value}
    (plain : Text.isWellFormed key = true ∧ isHidden key = false) :
    IsPlainField (key, v) ↔ v.IsPlain := by
  simp [IsPlainField, plain]

theorem isPlain_text_iff {s : String} : (Value.text s).IsPlain ↔ Text.isWellFormed s = true := Iff.rfl

theorem isPlain_list_iff {items : List Value} :
    (Value.list items).IsPlain ↔ ∀ item ∈ items, item.IsPlain := by
  show AllPlain items ↔ _
  induction items with
  | nil => simp [AllPlain]
  | cons item rest ih => simp [AllPlain, ih]

theorem isPlain_record_iff {fields : List (String × Value)} :
    (Value.record fields).IsPlain ↔ ∀ field ∈ fields, IsPlainField field := by
  show FieldsPlain fields ↔ _
  induction fields with
  | nil => simp [FieldsPlain]
  | cons field rest ih => rw [List.forall_mem_cons, ← ih]; rfl

end Value

namespace Service.Plain

theorem length_ofFields_le {fields sent : List (String × Value)}
    (spelled : ofFields fields = .ok sent) : sent.length ≤ fields.length := by
  induction fields generalizing sent with
  | nil =>
    cases spelled
    exact Nat.le_refl 0
  | cons field rest ih =>
    obtain ⟨key, item⟩ := field
    rw [ofFields] at spelled
    split at spelled
    · exact Nat.le_succ_of_le (ih spelled)
    · obtain ⟨value, -, spelled⟩ := Except.bind_eq_ok_iff.mp spelled
      obtain ⟨further, left, spelled⟩ := Except.bind_eq_ok_iff.mp spelled
      cases spelled
      exact Nat.succ_le_succ (ih left)

theorem ofItems_cons_eq_iff {item : Value} {rest : List Value} :
    ofItems (item :: rest) = .ok (item :: rest) ↔
      ofValue item = .ok item ∧ ofItems rest = .ok rest := by
  simp [ofItems, Except.bind_eq_ok_iff, pure, Except.pure]

theorem ofFields_cons_eq_iff {key : String} {item : Value} {rest : List (String × Value)} :
    ofFields ((key, item) :: rest) = .ok ((key, item) :: rest) ↔
      isHidden key = false ∧ ofValue item = .ok item ∧ ofFields rest = .ok rest := by
  rw [ofFields]
  split
  · next hidden =>
    have dropped : ofFields rest ≠ .ok ((key, item) :: rest) :=
      fun spelled => Nat.not_succ_le_self _ (length_ofFields_le spelled)
    simp [hidden, dropped]
  · next shown => simp [shown, Except.bind_eq_ok_iff, pure, Except.pure]

end Service.Plain

namespace Value

open Service.Plain

mutual
theorem isPlain_iff : (v : Value) →
    (v.IsPlain ↔ ofValue v = .ok v ∧ isFinite v = true ∧ v.fits = true ∧ isWellFormed v = true)
  | .null | .bool _ | .int _ | .float _ | .text _ => by
    simp [IsPlain, ofValue, isFinite, fits, isWellFormed]
  | .bytes octets => by
    simp only [IsPlain, ofValue, false_iff]
    split <;> simp
  | .complex .. | .ellipsis => by simp [IsPlain, ofValue]
  | .list items => by
    simpa [IsPlain, ofValue, Except.map_eq_ok_iff, isFinite, fits, isWellFormed] using
      allPlain_iff items
  | .record fields => by
    simpa [IsPlain, ofValue, Except.map_eq_ok_iff, isFinite, fits, isWellFormed] using
      fieldsPlain_iff fields
theorem allPlain_iff : (items : List Value) →
    (AllPlain items ↔ ofItems items = .ok items ∧ areFinite items = true ∧ allFit items = true ∧
      areWellFormed items = true)
  | [] => by simp [AllPlain, ofItems, areFinite, allFit, areWellFormed]
  | item :: rest => by
    simp only [AllPlain, isPlain_iff item, allPlain_iff rest, ofItems_cons_eq_iff, areFinite,
      allFit, areWellFormed, Bool.and_eq_true]
    tauto
theorem fieldsPlain_iff : (fields : List (String × Value)) →
    (FieldsPlain fields ↔ ofFields fields = .ok fields ∧ fieldsFinite fields = true ∧
      fieldsFit fields = true ∧ fieldsWellFormed fields = true)
  | [] => by simp [FieldsPlain, ofFields, fieldsFinite, fieldsFit, fieldsWellFormed]
  | (key, item) :: rest => by
    simp only [FieldsPlain, isPlain_iff item, fieldsPlain_iff rest, ofFields_cons_eq_iff,
      fieldsFinite, fieldsFit, fieldsWellFormed, Bool.and_eq_true]
    tauto
end

mutual
theorem IsPlain.isJson : {v : Value} → v.IsPlain → v.IsJson
  | .null, _ | .bool _, _ | .int _, _ | .float _, _ | .text _, _ => trivial
  | .bytes _, plain | .complex .., plain | .ellipsis, plain => plain.elim
  | .list _, plain => allJson_of_allPlain plain
  | .record _, plain => fieldsJson_of_fieldsPlain plain
theorem allJson_of_allPlain : {items : List Value} → AllPlain items → AllJson items
  | [], _ => trivial
  | _ :: _, plain => ⟨plain.1.isJson, allJson_of_allPlain plain.2⟩
theorem fieldsJson_of_fieldsPlain : {fields : List (String × Value)} → FieldsPlain fields →
    FieldsJson fields
  | [], _ => trivial
  | (_, _) :: _, plain => ⟨plain.1.2.2.isJson, fieldsJson_of_fieldsPlain plain.2⟩
end

end Value

namespace Service

theorem sendable_eq_ok_iff {v sent : Value} : sendable v = .ok sent ↔
    Plain.ofValue v = .ok sent ∧ Plain.isFinite sent = true ∧ sent.fits = true ∧
      Plain.isWellFormed sent = true := by
  rw [sendable, Except.bind_eq_ok_iff]
  constructor
  · rintro ⟨spell, spelled, checked⟩
    split at checked
    · split at checked <;> nomatch checked
    · split at checked
      · nomatch checked
      · next whole numbers =>
        cases checked
        obtain ⟨finite, fit⟩ : Plain.isFinite sent = true ∧ sent.fits = true := by
          simpa using numbers
        exact ⟨spelled, finite, fit, by simpa using whole⟩
  · rintro ⟨spelled, finite, fit, whole⟩
    exact ⟨sent, spelled, by simp [finite, fit, whole, pure, Except.pure]⟩

/-- A value is sent as it is exactly if it is plain. -/
theorem sendable_eq_self_iff {v : Value} : sendable v = .ok v ↔ v.IsPlain := by
  rw [sendable_eq_ok_iff, Value.isPlain_iff]

end Service

end Flowline

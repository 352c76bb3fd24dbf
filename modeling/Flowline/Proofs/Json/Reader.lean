import Flowline.Proofs.Fields
import Flowline.Proofs.Json.Number

/-!
# Reading what is written

A value whose numbers read back and whose records have distinct keys is read off the front of its
text, whatever follows. The separators may have spaces behind the comma and the colon.
-/

namespace Flowline

-- ---------------------------------------------------------------------------
-- Values that can be read back
-- ---------------------------------------------------------------------------

namespace Value

mutual
/-- Integers have at most 4300 digits, doubles read back, and the keys of each record differ. -/
def IsReadable : Value → Prop
  | .null | .bool _ | .text _ => True
  | .int n => integerFits n = true
  | .float x => Decimal.ReadsBack x
  | .bytes _ | .complex .. | .ellipsis => False
  | .list items => AllReadable items
  | .record fields => (Fields.keys fields).Nodup ∧ FieldsReadable fields
def AllReadable : List Value → Prop
  | [] => True
  | item :: rest => item.IsReadable ∧ AllReadable rest
def FieldsReadable : List (String × Value) → Prop
  | [] => True
  | (_, item) :: rest => item.IsReadable ∧ FieldsReadable rest
end

mutual
theorem IsReadable.fits : {v : Value} → v.IsReadable → v.fits = true
  | .int _, fits => fits
  | .null, _ | .bool _, _ | .float _, _ | .text _, _ => rfl
  | .list _, readable => AllReadable.allFit readable
  | .record _, readable => FieldsReadable.fieldsFit readable.2
theorem AllReadable.allFit : {items : List Value} → AllReadable items → allFit items = true
  | [], _ => rfl
  | _ :: _, readable => Bool.and_eq_true_iff.mpr
      ⟨IsReadable.fits readable.1, AllReadable.allFit readable.2⟩
theorem FieldsReadable.fieldsFit : {fields : List (String × Value)} → FieldsReadable fields →
    fieldsFit fields = true
  | [], _ => rfl
  | (_, _) :: _, readable => Bool.and_eq_true_iff.mpr
      ⟨IsReadable.fits readable.1, FieldsReadable.fieldsFit readable.2⟩
end

end Value

namespace Json

-- ---------------------------------------------------------------------------
-- Text literals
-- ---------------------------------------------------------------------------

section

variable {opening more left text : List Char} {c d : Char}

theorem chars_simple (known : simpleEscape? d = some c)
    (behind : chars opening more = .ok (text, left)) :
    chars opening ('\\' :: d :: more) = .ok (c :: text, left) := by
  have other : d ≠ 'u' := by
    rintro rfl
    cases known
  simp [chars, other, known, behind, Except.map]

theorem chars_plain (quote : c ≠ '"') (slash : c ≠ '\\') (control : ¬c.toNat < 0x20)
    (behind : chars opening more = .ok (text, left)) :
    chars opening (c :: more) = .ok (c :: text, left) := by
  simp [chars, slash, control, behind, Except.map]

theorem ofHex?_hexText_control : ∀ n < 0x20, Text.ofHex? (Text.hexText 4 n) = some n := by
  decide

theorem chars_unit {n : Nat} (control : n < 0x20)
    (behind : chars opening more = .ok (text, left)) :
    chars opening ('\\' :: 'u' :: (Text.hexText 4 n ++ more)) =
      .ok (Char.ofNat n :: text, left) := by
  have value := ofHex?_hexText_control n control
  obtain ⟨a, b, c, d, digits⟩ : ∃ a b c d, Text.hexText 4 n = [a, b, c, d] := ⟨_, _, _, _, rfl⟩
  rw [digits] at value ⊢
  have alone : Text.Utf16.isHigh n = false := by simp [Text.Utf16.isHigh]; omega
  have char : Text.ofUnit n = Char.ofNat n := by simp [Text.ofUnit, Text.isHalfUnit]; omega
  -- the escape behind might be the other half of a pair
  by_cases pair : ∃ e f g h i rest, more = '\\' :: 'u' :: e :: f :: g :: h :: i :: rest
  · obtain ⟨e, f, g, h, i, rest, rfl⟩ := pair
    simp only [List.cons_append, List.nil_append]
    rw [chars]
    simp [unit?, value, alone, char, behind, Except.map]
  · cases more with
    | nil => simp [chars] at behind
    | cons e more =>
      simp only [List.cons_append, List.nil_append]
      rw [chars]
      · simp [unit?, value, char, behind, Except.map]
      · rintro e' f g h i rest rfl rfl
        exact pair ⟨_, _, _, _, _, _, rfl⟩

theorem chars_escapedChar (c : Char) (behind : chars opening more = .ok (text, left)) :
    chars opening (escapedChar c ++ more) = .ok (c :: text, left) := by
  unfold escapedChar
  split_ifs with quote slash feed back tab erase page control
  · subst quote
    exact chars_simple rfl behind
  · subst slash
    exact chars_simple rfl behind
  · subst feed
    exact chars_simple rfl behind
  · subst back
    exact chars_simple rfl behind
  · subst tab
    exact chars_simple rfl behind
  · subst erase
    exact chars_simple rfl behind
  · subst page
    exact chars_simple rfl behind
  · simpa using chars_unit control behind
  · exact chars_plain quote slash control behind

theorem chars_escaped (s : List Char) :
    chars opening (s.flatMap escapedChar ++ '"' :: left) = .ok (s, left) := by
  induction s with
  | nil => simp [chars]
  | cons c s ih =>
    rw [List.flatMap_cons, List.append_assoc]
    exact chars_escapedChar c ih

theorem text_escaped (s : String) :
    Json.text (s.toList.flatMap escapedChar ++ '"' :: left) = .ok (s, left) := by
  simp [Json.text, chars_escaped, Except.map]

end

-- ---------------------------------------------------------------------------
-- Separators
-- ---------------------------------------------------------------------------

structure Separators.AreMarks (sep : Separators) : Prop where
  item : ∃ spaces, sep.item.toList = ',' :: spaces ∧ ∀ c ∈ spaces, isSpace c = true
  key : ∃ spaces, sep.key.toList = ':' :: spaces ∧ ∀ c ∈ spaces, isSpace c = true

theorem areMarks_spaced : Separators.spaced.AreMarks :=
  ⟨⟨[' '], rfl, by decide⟩, ⟨[' '], rfl, by decide⟩⟩

section

variable {sep : Separators} {rest : List Char}

def Opens (cs : List Char) : Prop :=
  ∃ c rest, cs = c :: rest ∧ isSpace c = false ∧ c ≠ ']' ∧ c ≠ '\x7d'

theorem opens_of_beginsNumber {cs : List Char} (begins : BeginsNumber cs) : Opens cs := by
  obtain ⟨negative, c, rest, rfl, digit⟩ := begins
  cases negative with
  | true => exact ⟨_, _, rfl, by decide⟩
  | false =>
    have marks : ∀ d ∈ " \t\n\r]\x7d".toList, Text.isDigit d = false := by decide
    have other : ∀ d ∈ " \t\n\r]\x7d".toList, c ≠ d :=
      fun d h => Text.ne_of_isDigit digit (marks d h)
    simp only [String.reduceToList, List.forall_mem_cons] at other
    exact ⟨c, rest, rfl, by simp [isSpace, other]⟩

theorem opens_writeText (s : String) : Opens (writeText s) := ⟨_, _, rfl, by decide⟩

theorem opens_write (sep : Separators) (v : Value) (readable : v.IsReadable) :
    Opens (write sep v) := by
  cases v with
  | int n => exact opens_of_beginsNumber (beginsNumber_integerText n)
  | float x => exact opens_of_beginsNumber (beginsNumber_writeFloat readable)
  | bool b => cases b <;> exact ⟨_, _, rfl, by decide⟩
  | list items => cases items <;> exact ⟨_, _, rfl, by decide⟩
  | record fields => cases fields <;> exact ⟨_, _, rfl, by decide⟩
  | null | text | bytes | complex | ellipsis => exact ⟨_, _, rfl, by decide⟩

theorem skipSpace_of_opens {spaces cs : List Char} (rest : List Char)
    (blank : ∀ c ∈ spaces, isSpace c = true)
    (opens : Opens cs) : skipSpace (spaces ++ (cs ++ rest)) = cs ++ rest := by
  obtain ⟨c, more, rfl, other, -⟩ := opens
  exact Text.dropWhile_run blank (by rintro d ⟨⟩; exact other)

-- ---------------------------------------------------------------------------
-- Values
-- ---------------------------------------------------------------------------

variable {fuel : Nat}

theorem value_null : value (fuel + 1) ("null".toList ++ rest) = .ok (.null, rest) := rfl

theorem value_bool (b : Bool) :
    value (fuel + 1) ((if b then "true".toList else "false".toList) ++ rest) =
      .ok (.bool b, rest) := by
  cases b <;> rfl

theorem value_writeText (s : String) :
    value (fuel + 1) (writeText s ++ rest) = .ok (.text s, rest) := by
  simp [writeText, value, text_escaped, Except.map]

theorem value_integerText {n : Int} (fits : integerFits n = true) (ends : EndsNumber rest) :
    value (fuel + 1) ((integerText n).toList ++ rest) = .ok (.int n, rest) := by
  rw [value_eq_number ((beginsNumber_integerText n).append rest), number_integerText fits ends]

theorem value_writeFloat {x : Float} (back : Decimal.ReadsBack x) (ends : EndsNumber rest) :
    value (fuel + 1) (writeFloat x ++ rest) = .ok (.float x, rest) := by
  rw [value_eq_number ((beginsNumber_writeFloat back).append rest), number_writeFloat back ends]

/-- With so much fuel, what is no longer than that is read. -/
structure Reads (sep : Separators) (fuel : Nat) : Prop where
  value {v : Value} (rest : List Char) (readable : v.IsReadable)
    (enough : (write sep v).length ≤ fuel) (ends : EndsNumber rest) :
    value fuel (write sep v ++ rest) = .ok (v, rest)
  items {item : Value} {more : List Value} (rest : List Char) (readable : item.IsReadable)
    (further : Value.AllReadable more)
    (enough : (write sep item).length + (writeItems sep more).length ≤ fuel) :
    items fuel (write sep item ++ (writeItems sep more ++ rest)) = .ok (item :: more, rest)
  fields (before : Fields Value) (key : String) {item : Value} {more : Fields Value}
    (rest : List Char) (readable : item.IsReadable) (further : Value.FieldsReadable more)
    (distinct : (Fields.keys (before ++ (key, item) :: more)).Nodup)
    (enough : (write sep item).length + (writeFields sep more).length ≤ fuel) :
    fields fuel before (writeText key ++ (sep.key.toList ++
      (write sep item ++ (writeFields sep more ++ rest)))) =
        .ok (before ++ (key, item) :: more, rest)

theorem endsNumber_cons {c : Char} (other : Text.isDigit c = false ∧ c ∉ ['.', 'e', 'E']) :
    EndsNumber (c :: rest) := by
  rintro d ⟨⟩
  exact other

theorem key_writeText (marks : sep.AreMarks) (name : String) {cs : List Char} (opens : Opens cs)
    (rest : List Char) :
    key (writeText name ++ (sep.key.toList ++ (cs ++ rest))) = .ok (name, cs ++ rest) := by
  obtain ⟨spaces, colon, blank⟩ := marks.key
  have left := skipSpace_of_opens rest blank opens
  have here (more : List Char) : skipSpace (':' :: more) = ':' :: more := rfl
  simp [writeText, key, text_escaped, colon, here, left, bind, Except.bind, pure, Except.pure]

namespace Reads

theorem value_succ (reads : Reads sep fuel) {v : Value} (readable : v.IsReadable)
    (enough : (write sep v).length ≤ fuel + 1) (ends : EndsNumber rest) :
    Json.value (fuel + 1) (write sep v ++ rest) = .ok (v, rest) := by
  cases v with
  | null => exact value_null
  | bool b => exact value_bool b
  | int n => exact value_integerText readable ends
  | float x => exact value_writeFloat readable ends
  | text s => exact value_writeText s
  | bytes | complex | ellipsis => exact readable.elim
  | list items =>
    cases items with
    | nil => rfl
    | cons item more =>
      simp only [write, List.length_cons, List.length_append] at enough
      have taken := reads.items rest readable.1 readable.2 (by omega)
      obtain ⟨c, cs, front, blank, close, -⟩ := opens_write sep item readable.1
      rw [front] at taken
      simp only [List.cons_append] at taken
      simp [write, front, Json.value, skipSpace, blank, close, taken, Except.map]
  | record fields =>
    cases fields with
    | nil => rfl
    | cons entry more =>
      obtain ⟨key, item⟩ := entry
      obtain ⟨distinct, first, further⟩ := readable
      simp only [write, List.length_cons, List.length_append] at enough
      have taken := reads.fields [] key rest first further distinct (by omega)
      simp only [writeText, List.cons_append, List.append_assoc, List.nil_append] at taken
      simp [write, writeText, Json.value, skipSpace, isSpace, taken, Except.map]

theorem items_succ (marks : sep.AreMarks) (reads : Reads sep fuel) {item : Value}
    {more : List Value} (readable : item.IsReadable) (further : Value.AllReadable more)
    (enough : (write sep item).length + (writeItems sep more).length ≤ fuel + 1) :
    Json.items (fuel + 1) (write sep item ++ (writeItems sep more ++ rest)) =
      .ok (item :: more, rest) := by
  cases more with
  | nil =>
    simp only [writeItems, List.length_singleton] at enough
    have taken := reads.value (']' :: rest) readable (by omega) (endsNumber_cons (by decide))
    simp [writeItems, Json.items, taken, skipSpace, isSpace, bind, Except.bind, pure, Except.pure]
  | cons next more =>
    obtain ⟨spaces, comma, blank⟩ := marks.item
    simp only [writeItems, comma, List.length_cons, List.length_append] at enough
    have taken := reads.value (',' :: (spaces ++ (write sep next ++ (writeItems sep more ++ rest))))
      readable (by omega) (endsNumber_cons (by decide))
    have left := skipSpace_of_opens (writeItems sep more ++ rest) blank
      (opens_write sep next further.1)
    have others := reads.items rest further.1 further.2 (by omega)
    have here (cs : List Char) : skipSpace (',' :: cs) = ',' :: cs := rfl
    simp [writeItems, Json.items, comma, taken, here, left, others, bind, Except.bind, pure,
      Except.pure]

theorem fields_succ (marks : sep.AreMarks) (reads : Reads sep fuel) {before more : Fields Value}
    {key : String} {item : Value} (readable : item.IsReadable)
    (further : Value.FieldsReadable more)
    (distinct : (Fields.keys (before ++ (key, item) :: more)).Nodup)
    (enough : (write sep item).length + (writeFields sep more).length ≤ fuel + 1) :
    Json.fields (fuel + 1) before (writeText key ++ (sep.key.toList ++
      (write sep item ++ (writeFields sep more ++ rest)))) =
        .ok (before ++ (key, item) :: more, rest) := by
  have named := key_writeText marks key (opens_write sep item readable)
    (writeFields sep more ++ rest)
  have new : before.put key item = before ++ [(key, item)] := by
    refine Fields.put_of_notMem item fun old => ?_
    simp only [Fields.keys, List.map_append, List.map_cons] at distinct old
    exact (List.nodup_append.mp distinct).2.2 _ old _ List.mem_cons_self rfl
  cases more with
  | nil =>
    simp only [writeFields, List.length_singleton] at enough
    have taken := reads.value ('\x7d' :: rest) readable (by omega) (endsNumber_cons (by decide))
    simp only [writeFields, List.singleton_append] at named ⊢
    simp [Json.fields, named, taken, new, skipSpace, isSpace, bind, Except.bind, pure, Except.pure]
  | cons entry more =>
    obtain ⟨next, value⟩ := entry
    obtain ⟨spaces, comma, blank⟩ := marks.item
    simp only [writeFields, comma, List.length_cons, List.length_append] at enough
    have taken := reads.value (',' :: (spaces ++ (writeText next ++ (sep.key.toList ++
      (write sep value ++ (writeFields sep more ++ rest)))))) readable (by omega)
      (endsNumber_cons (by decide))
    have left := skipSpace_of_opens (sep.key.toList ++
      (write sep value ++ (writeFields sep more ++ rest))) blank (opens_writeText next)
    have others := reads.fields (before ++ [(key, item)]) next rest further.1 further.2
      (by simpa using distinct) (by omega)
    have here (cs : List Char) : skipSpace (',' :: cs) = ',' :: cs := rfl
    simp only [writeFields, comma, List.cons_append, List.append_assoc] at named ⊢
    simp [Json.fields, named, taken, new, here, left, others, bind, Except.bind]

end Reads

/-- Each step keeps one unit of fuel for each character that is left to read. -/
theorem reads (marks : sep.AreMarks) (fuel : Nat) : Reads sep fuel := by
  induction fuel with
  | zero =>
    refine ⟨fun _ readable enough _ => ?_, fun _ readable _ enough => ?_,
      fun _ _ _ _ _ readable _ _ enough => ?_⟩
    all_goals
      obtain ⟨c, cs, front, -⟩ := opens_write sep _ readable
      simp [front] at enough
  | succ fuel ih =>
    exact ⟨fun _ => ih.value_succ, fun _ => ih.items_succ marks,
      fun _ _ _ _ _ => ih.fields_succ marks⟩

/-- A value is read back from its text. -/
theorem read_write (marks : sep.AreMarks) {v : Value} (readable : v.IsReadable) :
    read (String.ofList (write sep v)) = .ok v := by
  obtain ⟨c, cs, front, blank, -⟩ := opens_write sep v readable
  have left : skipSpace (write sep v) = write sep v := by simp [front, skipSpace, blank]
  have taken := (reads marks (2 * (write sep v).length + 2)).value [] readable (by omega) nofun
  rw [List.append_nil] at taken
  have done : skipSpace [] = [] := rfl
  simp [read, left, taken, done, bind, Except.bind, pure, Except.pure]

end

end Json

end Flowline

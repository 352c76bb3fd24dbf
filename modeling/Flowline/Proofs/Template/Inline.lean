import Flowline.Json.Nesting
import Flowline.Proofs.Json.Reader
import Flowline.Template

/-!
# Lists and records in templates

A list or a record is put into a template as JSON on which nothing is lost: it is read back as it
was, with its keys in their order, and no blank stands outside of its text literals. So different
values are put in as different texts.
-/

namespace Flowline

namespace Json

-- ---------------------------------------------------------------------------
-- Outside of text literals
-- ---------------------------------------------------------------------------

def Region.next : Region → Char → Region
  | .outside, c => if c = '"' then .literal else .outside
  | .literal, c => if c = '\\' then .escape else if c = '"' then .outside else .literal
  | .escape, _ => .literal

def between (region : Region) : List Char → List Char
  | [] => []
  | c :: rest => (if region = .outside then [c] else []) ++ between (region.next c) rest

theorem between_append (region : Region) (cs ds : List Char) :
    between region (cs ++ ds) = between region cs ++ between (cs.foldl Region.next region) ds := by
  induction cs generalizing region with
  | nil => rfl
  | cons c cs ih => simp [between, ih]

/-- All literals are closed, and there are no blanks outside of them. -/
structure IsTight (cs : List Char) : Prop where
  closed : cs.foldl Region.next .outside = .outside
  solid : ∀ c ∈ between .outside cs, Text.isBlank c = false

structure IsInner (cs : List Char) : Prop where
  stays : cs.foldl Region.next .literal = .literal
  covered : between .literal cs = []

section

variable {cs ds : List Char} {c : Char}

theorem isTight_nil : IsTight [] := ⟨rfl, nofun⟩

theorem IsTight.append (tight : IsTight cs) (tight' : IsTight ds) : IsTight (cs ++ ds) where
  closed := by rw [List.foldl_append, tight.closed, tight'.closed]
  solid := by
    rw [between_append, tight.closed]
    exact List.forall_mem_append.mpr ⟨tight.solid, tight'.solid⟩

theorem isTight_singleton (bare : c ≠ '"' ∧ Text.isBlank c = false) : IsTight [c] :=
  ⟨by simp [Region.next, bare.1], by simp [between, bare.2]⟩

theorem IsTight.cons (bare : c ≠ '"' ∧ Text.isBlank c = false) (tight : IsTight cs) :
    IsTight (c :: cs) :=
  (isTight_singleton bare).append tight

theorem isTight_of_forall (bare : ∀ c ∈ cs, c ≠ '"' ∧ Text.isBlank c = false) : IsTight cs := by
  induction cs with
  | nil => exact isTight_nil
  | cons c cs ih =>
    obtain ⟨here, further⟩ := List.forall_mem_cons.mp bare
    exact (ih further).cons here

theorem IsInner.append (inner : IsInner cs) (inner' : IsInner ds) : IsInner (cs ++ ds) where
  stays := by rw [List.foldl_append, inner.stays, inner'.stays]
  covered := by rw [between_append, inner.stays, inner.covered, inner'.covered, List.nil_append]

theorem isInner_hexText_control : ∀ n < 0x20,
    (Text.hexText 4 n).foldl Region.next .literal = .literal ∧
      between .literal (Text.hexText 4 n) = [] := by
  decide

theorem isInner_escapedChar (c : Char) : IsInner (escapedChar c) := by
  unfold escapedChar
  split_ifs with quote slash _ _ _ _ _ control
  · exact ⟨rfl, rfl⟩
  · exact ⟨rfl, rfl⟩
  · exact ⟨rfl, rfl⟩
  · exact ⟨rfl, rfl⟩
  · exact ⟨rfl, rfl⟩
  · exact ⟨rfl, rfl⟩
  · exact ⟨rfl, rfl⟩
  · obtain ⟨still, covered⟩ := isInner_hexText_control c.toNat control
    have marked : IsInner ['\\', 'u'] := ⟨rfl, rfl⟩
    exact marked.append ⟨still, covered⟩
  · exact ⟨by simp [Region.next, quote, slash], rfl⟩

theorem isTight_writeText (s : String) : IsTight (writeText s) := by
  have inner : IsInner (s.toList.flatMap escapedChar) := by
    induction s.toList with
    | nil => exact ⟨rfl, rfl⟩
    | cons c cs ih => exact (isInner_escapedChar c).append ih
  have opening : Region.outside.next '"' = .literal := rfl
  have closing : Region.literal.next '"' = .outside := rfl
  have quote : Text.isBlank '"' = false := rfl
  refine ⟨?_, ?_⟩
  · simp [writeText, opening, inner.stays, closing]
  · simp [writeText, between, opening, between_append, inner.stays, inner.covered, quote]

-- ---------------------------------------------------------------------------
-- Numbers
-- ---------------------------------------------------------------------------

def IsNumeral (c : Char) : Prop := Text.isDigit c = true ∨ c ∈ ['.', 'e', '+', '-']

theorem IsNumeral.bare (numeral : IsNumeral c) : c ≠ '"' ∧ Text.isBlank c = false := by
  rcases numeral with digit | mark
  · exact ⟨Text.ne_of_isDigit digit rfl,
      Text.isBlank_of_isAsciiWord (by simp [Text.isAsciiWord, digit])⟩
  · have each : ∀ c ∈ ['.', 'e', '+', '-'], c ≠ '"' ∧ Text.isBlank c = false := by decide
    exact each c mark

theorem isTight_of_numerals (numerals : ∀ c ∈ cs, IsNumeral c) : IsTight cs :=
  isTight_of_forall fun c mem => (numerals c mem).bare

theorem isTight_minus (negative : Bool) : IsTight (minus negative) := by
  cases negative with
  | true => exact isTight_singleton (by decide)
  | false => exact isTight_nil

theorem AreDigits.isTight (digits : AreDigits cs) : IsTight cs :=
  isTight_of_numerals fun c mem => .inl (digits c mem)

theorem IsReal.isTight (real : IsReal cs) : IsTight cs := by
  obtain ⟨shape, shape', shape'', -⟩ := real
  refine .append ?_ (.append ?_ ?_)
  · obtain ⟨c, rest, rfl, all⟩ := shape.exists_cons
    exact all.isTight
  · cases shape' with
    | none => exact isTight_nil
    | digits _ all => exact all.isTight.cons (by decide)
  · cases shape'' with
    | none => exact isTight_nil
    | @digits sign _ signed _ all =>
      have numeral : IsNumeral sign := .inr (by rcases signed with rfl | rfl <;> decide)
      exact (all.isTight.cons numeral.bare).cons (by decide)

theorem isTight_integerText (n : Int) : IsTight (integerText n).toList := by
  rw [toList_integerText]
  exact (isTight_minus _).append (areDigits_toDigits _).isTight

theorem isTight_writeFloat {x : Float} (back : Decimal.ReadsBack x) : IsTight (writeFloat x) := by
  obtain ⟨negative, body, shown, real, -⟩ := back.exists_isReal
  rw [shown]
  exact (isTight_minus negative).append real.isTight

-- ---------------------------------------------------------------------------
-- Values
-- ---------------------------------------------------------------------------

structure Separators.AreTight (sep : Separators) : Prop where
  item : IsTight sep.item.toList
  key : IsTight sep.key.toList

theorem areTight_compact : Separators.compact.AreTight :=
  ⟨isTight_singleton (by decide), isTight_singleton (by decide)⟩

variable {sep : Separators}

mutual
theorem isTight_write (tight : sep.AreTight) :
    (v : Value) → v.IsReadable → IsTight (write sep v)
  | .null, _ => show IsTight "null".toList from isTight_of_forall (by decide)
  | .bool true, _ => show IsTight "true".toList from isTight_of_forall (by decide)
  | .bool false, _ => show IsTight "false".toList from isTight_of_forall (by decide)
  | .int n, _ => isTight_integerText n
  | .float x, back => isTight_writeFloat back
  | .text s, _ => isTight_writeText s
  | .bytes _, readable | .complex .., readable | .ellipsis, readable => readable.elim
  | .list [], _ => show IsTight ['[', ']'] from isTight_of_forall (by decide)
  | .list (item :: rest), readable =>
    ((isTight_write tight item readable.1).append
      (isTight_writeItems tight rest readable.2)).cons (by decide)
  | .record [], _ => show IsTight ['\x7b', '\x7d'] from isTight_of_forall (by decide)
  | .record ((key, item) :: rest), readable =>
    ((((isTight_writeText key).append tight.key).append
      (isTight_write tight item readable.2.1)).append
        (isTight_writeFields tight rest readable.2.2)).cons (by decide)
theorem isTight_writeItems (tight : sep.AreTight) :
    (rest : List Value) → Value.AllReadable rest → IsTight (writeItems sep rest)
  | [], _ => isTight_singleton (by decide)
  | item :: rest, readable =>
    (tight.item.append (isTight_write tight item readable.1)).append
      (isTight_writeItems tight rest readable.2)
theorem isTight_writeFields (tight : sep.AreTight) :
    (rest : List (String × Value)) → Value.FieldsReadable rest → IsTight (writeFields sep rest)
  | [], _ => isTight_singleton (by decide)
  | (key, item) :: rest, readable =>
    (((tight.item.append (isTight_writeText key)).append tight.key).append
      (isTight_write tight item readable.1)).append (isTight_writeFields tight rest readable.2)
end

end

theorem areMarks_compact : Separators.compact.AreMarks := ⟨⟨[], rfl, nofun⟩, ⟨[], rfl, nofun⟩⟩

end Json

-- ---------------------------------------------------------------------------
-- Lists and records
-- ---------------------------------------------------------------------------

namespace Value

inductive IsStructured : Value → Prop
  | list (items : List Value) : IsStructured (.list items)
  | record (fields : Fields Value) : IsStructured (.record fields)

theorem inlineText_of_isStructured {v : Value} (structured : v.IsStructured) :
    v.inlineText = String.ofList (Json.write .compact v) := by
  cases structured <;> rfl

theorem inline?_of_isStructured {v : Value} (structured : v.IsStructured)
    (readable : v.IsReadable) : v.inline? = some (String.ofList (Json.write .compact v)) := by
  rw [inline?, if_pos readable.fits, inlineText_of_isStructured structured]

/-- A list or a record is put into a template as a text that is read back as the same value, with
its keys in the same order, and that has no blanks outside of its text literals; no other list or
record is put in as this text. -/
theorem read_inline? {v : Value} (structured : v.IsStructured) (readable : v.IsReadable) :
    ∃ text, v.inline? = some text ∧ Json.read text = .ok v ∧
      (∀ c ∈ Json.between .outside text.toList, Text.isBlank c = false) ∧
      ∀ other : Value, other.IsStructured → other.IsReadable → other.inline? = some text →
        other = v := by
  have back := Json.read_write Json.areMarks_compact readable
  have tight := Json.isTight_write Json.areTight_compact v readable
  refine ⟨_, inline?_of_isStructured structured readable, back, ?_, ?_⟩
  · rw [String.toList_ofList]
    exact tight.solid
  · intro other structured' readable' same
    have back' := Json.read_write Json.areMarks_compact readable'
    rw [inline?_of_isStructured structured' readable'] at same
    rw [Option.some.inj same, back] at back'
    exact (Except.ok.inj back').symm

def knotted : Value :=
  .record
    [("a \"b\" \\", .list [.null, .bool true, .int (-12), .text "\r\n\t [\x7b\"\\u0020", .list []]),
     ("\x00\u2028 é", .record [("x", .float 0.1), ("y", .float (-2.5e-7)), ("x ", .float (-0.0))]),
     ("", .list [.float 1e22, .text "\\", .record []])]

theorem isReadable_knotted : knotted.IsReadable := by
  have small : integerFits (-12) = true := by decide +kernel
  have floats : ∀ x ∈ [0.1, -2.5e-7, 1e22, -0.0], Decimal.ReadsBack x := by decide +kernel
  simp only [List.forall_mem_cons] at floats
  simp [knotted, IsReadable, AllReadable, FieldsReadable, Fields.keys, small, floats]

theorem read_inline?_knotted :
    knotted.IsStructured ∧ knotted.IsReadable ∧
      ∃ text, knotted.inline? = some text ∧ Json.read text = .ok knotted ∧
        (∀ c ∈ Json.between .outside text.toList, Text.isBlank c = false) ∧
        ∀ other : Value, other.IsStructured → other.IsReadable → other.inline? = some text →
          other = knotted :=
  ⟨.record _, isReadable_knotted, read_inline? (.record _) isReadable_knotted⟩

end Value

end Flowline

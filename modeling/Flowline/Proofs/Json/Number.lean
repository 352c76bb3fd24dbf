import Flowline.Json.Reader
import Flowline.Json.Writer
import Flowline.Proofs.Text.Word
import Mathlib.Data.List.DropRight
import Mathlib.Tactic.Common

/-!
# Numbers in JSON

The text of an integer, and that of a double which reads back, have the shape that JSON gives to
numbers. So the reader takes all of such a text off the front of what follows, and nothing more.
-/

namespace Flowline

-- ---------------------------------------------------------------------------
-- Digits
-- ---------------------------------------------------------------------------

namespace Text

variable {c : Char} {n : Nat}

theorem ne_of_isDigit {d : Char} (digit : isDigit c = true) (other : isDigit d = false) :
    c ≠ d := by
  rintro rfl
  exact absurd (digit.symm.trans other) Bool.noConfusion

theorem ofDigits_toDigits (n : Nat) : ofDigits (Nat.toDigits 10 n) = n :=
  Nat.ofDigitChars_toDigits (by decide) (by decide)

theorem isDigit_of_mem_toDigits (h : c ∈ Nat.toDigits 10 n) : isDigit c = true :=
  Nat.isDigit_of_mem_toDigits (by decide) (by decide) h

theorem digitChar_ne_zero (some : n ≠ 0) (small : n < 10) : n.digitChar ≠ '0' := by
  have each : ∀ m < 10, m ≠ 0 → m.digitChar ≠ '0' := by decide
  exact each n small some

theorem exists_toDigits (some : n ≠ 0) : ∃ c rest, Nat.toDigits 10 n = c :: rest ∧ c ≠ '0' := by
  induction n using Nat.strongRecOn with
  | ind n ih =>
    rw [Nat.toDigits_eq_if (by decide)]
    split
    · rename_i small
      exact ⟨_, [], rfl, digitChar_ne_zero some small⟩
    · obtain ⟨c, rest, front, other⟩ := ih (n / 10) (by omega) (by omega)
      exact ⟨c, rest ++ [(n % 10).digitChar], by rw [front]; rfl, other⟩

end Text

namespace Json

-- ---------------------------------------------------------------------------
-- The shape of a number
-- ---------------------------------------------------------------------------

def AreDigits (cs : List Char) : Prop := ∀ c ∈ cs, Text.isDigit c = true

@[simp] theorem areDigits_nil : AreDigits [] := nofun

@[simp] theorem areDigits_cons {c : Char} {cs : List Char} :
    AreDigits (c :: cs) ↔ Text.isDigit c = true ∧ AreDigits cs :=
  List.forall_mem_cons

@[simp] theorem areDigits_append {cs ds : List Char} :
    AreDigits (cs ++ ds) ↔ AreDigits cs ∧ AreDigits ds :=
  List.forall_mem_append

theorem areDigits_replicate (n : Nat) : AreDigits (List.replicate n '0') := by
  intro c h
  rw [List.eq_of_mem_replicate h]
  rfl

inductive IsWhole : List Char → Prop
  | zero : IsWhole ['0']
  | digits (other : c ≠ '0') (all : AreDigits (c :: cs)) : IsWhole (c :: cs)

inductive IsFraction : List Char → Prop
  | none : IsFraction []
  | digits (given : cs ≠ []) (all : AreDigits cs) : IsFraction ('.' :: cs)

inductive IsExponent : List Char → Prop
  | none : IsExponent []
  | digits (signed : sign = '+' ∨ sign = '-') (given : cs ≠ []) (all : AreDigits cs) :
      IsExponent ('e' :: sign :: cs)

inductive IsReal : List Char → Prop
  | parts (shape : IsWhole whole) (shape' : IsFraction fraction) (shape'' : IsExponent exponent)
      (given : ¬(fraction = [] ∧ exponent = [])) : IsReal (whole ++ (fraction ++ exponent))

def minus (negative : Bool) : List Char := if negative then ['-'] else []

def EndsNumber (rest : List Char) : Prop :=
  ∀ c, rest.head? = some c → Text.isDigit c = false ∧ c ∉ ['.', 'e', 'E']

section

variable {rest whole fraction exponent : List Char}

theorem IsWhole.exists_cons (whole : IsWhole cs) :
    ∃ c rest, cs = c :: rest ∧ AreDigits (c :: rest) := by
  cases whole with
  | zero => exact ⟨_, _, rfl, areDigits_replicate 1⟩
  | digits _ all => exact ⟨_, _, rfl, all⟩

theorem IsReal.exists_cons (real : IsReal cs) :
    ∃ c rest, cs = c :: rest ∧ Text.isDigit c = true := by
  obtain ⟨shape, -, -, -⟩ := real
  obtain ⟨c, rest, rfl, all⟩ := shape.exists_cons
  exact ⟨c, _, rfl, (areDigits_cons.mp all).1⟩

theorem wholeDigits_append (shape : IsWhole whole)
    (ends : ∀ c, rest.head? = some c → Text.isDigit c = false) :
    wholeDigits (whole ++ rest) = some (whole, rest) := by
  cases shape with
  | zero => rfl
  | @digits c cs other all =>
    obtain ⟨here, further⟩ := areDigits_cons.mp all
    simp [wholeDigits, here, Text.takeWhile_run further ends, Text.dropWhile_run further ends]

theorem fractionDigits_append (shape : IsFraction fraction)
    (ends : ∀ c, rest.head? = some c → Text.isDigit c = false ∧ c ≠ '.') :
    fractionDigits (fraction ++ rest) = (fraction, rest) := by
  cases shape with
  | none =>
    cases rest with
    | nil => rfl
    | cons c rest =>
      have other := (ends c rfl).2
      simp [fractionDigits, other]
  | @digits cs given all =>
    cases cs with
    | nil => exact absurd rfl given
    | cons c cs =>
      obtain ⟨here, further⟩ := areDigits_cons.mp all
      have stop := fun d first => (ends d first).1
      simp [fractionDigits, here, Text.takeWhile_run further stop,
        Text.dropWhile_run further stop]

theorem exponentDigits_append (shape : IsExponent exponent)
    (ends : ∀ c, rest.head? = some c → Text.isDigit c = false ∧ c ∉ ['e', 'E']) :
    exponentDigits (exponent ++ rest) = (exponent, rest) := by
  cases shape with
  | none =>
    cases rest with
    | nil => rfl
    | cons c rest =>
      have other := (ends c rfl).2
      simp only [List.mem_cons, List.not_mem_nil, or_false] at other
      simp [exponentDigits, other]
  | @digits sign cs signed given all =>
    have stop := fun d first => (ends d first).1
    have taken := Text.takeWhile_run all stop
    have left := Text.dropWhile_run all stop
    rcases signed with rfl | rfl <;> simp [exponentDigits, taken, left, given]

/-- A number is taken off as a whole, and it is an integer if it has nothing but digits. -/
theorem number_append (negative : Bool) (shape : IsWhole whole) (shape' : IsFraction fraction)
    (shape'' : IsExponent exponent) (ends : EndsNumber rest) :
    number (minus negative ++ (whole ++ (fraction ++ (exponent ++ rest)))) =
      if fraction = [] ∧ exponent = [] then
        if 4300 < whole.length then .error .integerTooLong
        else .ok (.int (Double.signed negative (Text.ofDigits whole)), rest)
      else
        (Decimal.unsigned? negative (whole ++ fraction ++ exponent)).elim
          (fault (minus negative ++ (whole ++ (fraction ++ (exponent ++ rest)))))
          fun x => .ok (.float x, rest) := by
  have stop : ∀ c, rest.head? = some c → Text.isDigit c = false ∧ c ∉ ['e', 'E'] :=
    fun c first => ⟨(ends c first).1, fun h => (ends c first).2 (List.mem_cons_of_mem _ h)⟩
  have stop' : ∀ c, (exponent ++ rest).head? = some c → Text.isDigit c = false ∧ c ≠ '.' := by
    cases shape'' with
    | none => exact fun c first => ⟨(ends c first).1, fun h => (ends c first).2 (by simp [h])⟩
    | digits => rintro c ⟨⟩; decide
  have stop'' : ∀ c, (fraction ++ (exponent ++ rest)).head? = some c → Text.isDigit c = false := by
    cases shape' with
    | none => exact fun c first => (stop' c first).1
    | digits => rintro c ⟨⟩; decide
  have taken := wholeDigits_append shape stop''
  have taken' := fractionDigits_append shape' stop'
  have taken'' := exponentDigits_append shape'' stop
  cases negative with
  | true =>
    simp only [minus, if_true, List.cons_append, List.nil_append, number, taken, taken', taken'',
      Bool.and_eq_true, List.isEmpty_iff]
    cases Decimal.unsigned? true (whole ++ fraction ++ exponent) <;> rfl
  | false =>
    obtain ⟨c, cs, rfl, all⟩ := shape.exists_cons
    have first : c ≠ '-' := Text.ne_of_isDigit (areDigits_cons.mp all).1 rfl
    simp only [List.cons_append] at taken
    simp only [minus, Bool.false_eq_true, if_false, List.cons_append, List.nil_append, number,
      List.cons.injEq, first, false_and, imp_self, implies_true, taken, taken', taken'',
      Bool.and_eq_true, List.isEmpty_iff]
    cases Decimal.unsigned? false (c :: (cs ++ fraction ++ exponent)) <;> rfl

-- ---------------------------------------------------------------------------
-- Integers
-- ---------------------------------------------------------------------------

theorem areDigits_toDigits (n : Nat) : AreDigits (Nat.toDigits 10 n) :=
  fun _ => Text.isDigit_of_mem_toDigits

theorem isWhole_toDigits (n : Nat) : IsWhole (Nat.toDigits 10 n) := by
  by_cases none : n = 0
  · rw [none]
    exact .zero
  · obtain ⟨c, rest, digits, other⟩ := Text.exists_toDigits none
    have all := areDigits_toDigits n
    rw [digits] at all ⊢
    exact .digits other all

theorem toList_integerText (n : Int) :
    (integerText n).toList = minus (decide (n < 0)) ++ Nat.toDigits 10 n.natAbs := by
  rw [integerText, Int.toString_eq_repr]
  cases n with
  | ofNat m => simp [Int.repr, minus]
  | negSucc m => simp [Int.repr, minus, Nat.toList_repr]

theorem number_integerText {n : Int} (fits : integerFits n = true) (ends : EndsNumber rest) :
    number ((integerText n).toList ++ rest) = .ok (.int n, rest) := by
  simp only [integerFits, decide_eq_true_eq, Nat.pow_eq] at fits
  rw [← Nat.length_toDigits_le_iff (by decide) (by decide)] at fits
  have taken := number_append (decide (n < 0)) (isWhole_toDigits n.natAbs) .none .none ends
  have same : Double.signed (decide (n < 0)) n.natAbs = n := by
    simp only [Double.signed, decide_eq_true_eq]
    split <;> omega
  rw [toList_integerText, List.append_assoc]
  simpa [show ¬4300 < _ from Nat.not_lt.mpr fits, Text.ofDigits_toDigits, same] using taken

end

end Json

-- ---------------------------------------------------------------------------
-- Doubles
-- ---------------------------------------------------------------------------

namespace Decimal

def ReadsBack (x : Float) : Prop := signed? (text x).toList = some x

instance (x : Float) : Decidable (ReadsBack x) :=
  inferInstanceAs (Decidable (signed? (text x).toList = some x))

section

variable {negative : Bool} {cs : List Char} {x : Float} {m : Nat} {e : Int}

theorem toList_sign (negative : Bool) : (sign negative).toList = Json.minus negative := by
  cases negative <;> rfl

theorem splitSign_minus (other : ∀ c, cs.head? = some c → c ≠ '-' ∧ c ≠ '+') :
    splitSign (Json.minus negative ++ cs) = (negative, cs) := by
  cases negative with
  | true => rfl
  | false =>
    cases cs with
    | nil => rfl
    | cons c cs =>
      obtain ⟨minus, plus⟩ := other c rfl
      simp [Json.minus, splitSign, minus, plus]

theorem ofDigits_zeros (n : Nat) : Text.ofDigits (List.replicate n '0') = 0 := by
  rw [Text.ofDigits]
  induction n with
  | zero => rfl
  | succ n ih => simpa [List.replicate_succ] using ih

theorem ofFloat_zero (negative : Bool) :
    Double.ofFloat (if negative then -0.0 else 0.0) = .finite negative 0 (-1074) := by
  cases negative <;> decide

theorem ofFloat_of_zeros {i j : Nat} (read : unsigned? negative
    (List.replicate i '0' ++ '.' :: List.replicate j '0') = some x) :
    Double.ofFloat x = .finite negative 0 (-1074) := by
  have zeros := Json.areDigits_replicate
  have point (rest : List Char) : ∀ c, ('.' :: rest).head? = some c → Text.isDigit c = false := by
    rintro c ⟨⟩
    rfl
  have whole := Text.takeWhile_run (zeros i) (point (List.replicate j '0'))
  have behind := Text.dropWhile_run (zeros i) (point (List.replicate j '0'))
  have part := List.takeWhile_eq_self_iff.mpr (zeros j)
  have none := List.dropWhile_eq_nil_iff.mpr (zeros j)
  simp only [unsigned?, whole, behind, part, none] at read
  split at read
  · cases read
  · rw [← List.replicate_add, ofDigits_zeros] at read
    simp only [exponent?, toFloat, Option.map_some, true_or, if_true, Option.some.injEq] at read
    rw [← read, ofFloat_zero]

theorem digits_shortest (m : Nat) (e : Int) : (shortest m e).digits = [] ∨
    ∃ d ds, (shortest m e).digits = d :: ds ∧ d ≠ '0' ∧ Json.AreDigits (d :: ds) := by
  obtain ⟨n, digits⟩ : ∃ n, (shortest m e).digits = trimZeros (Nat.toDigits 10 n) := ⟨_, rfl⟩
  rw [digits]
  by_cases zero : n = 0
  · rw [zero]
    exact .inl rfl
  · obtain ⟨c, rest, all, other⟩ := Text.exists_toDigits zero
    have front : trimZeros (c :: rest) <+: c :: rest := List.rdropWhile_prefix _ _
    rw [all]
    cases trimmed : trimZeros (c :: rest) with
    | nil => exact .inl rfl
    | cons d ds =>
      rw [trimmed] at front
      have given : Json.AreDigits (c :: rest) := all ▸ Json.areDigits_toDigits n
      obtain ⟨rfl, -⟩ := List.cons_prefix_cons.mp front
      exact .inr ⟨d, ds, rfl, other, fun c h => given c (front.subset h)⟩

theorem isExponent_exponentText (e : Int) :
    Json.IsExponent ('e' :: (exponentText 2 e).toList) := by
  have shown : (exponentText 2 e).toList =
      (if e < 0 then '-' else '+') :: padLeft 2 '0' (Nat.toDigits 10 e.natAbs) := by
    by_cases below : e < 0 <;> simp [exponentText, below]
  have given : padLeft 2 '0' (Nat.toDigits 10 e.natAbs) ≠ [] := by
    simp [padLeft, Nat.toDigits_ne_nil]
  rw [shown]
  exact .digits (by split <;> simp) given
    (Json.areDigits_append.mpr ⟨Json.areDigits_replicate _, Json.areDigits_toDigits _⟩)

variable {s : Scientific}

theorem isReal_render (digits : s.digits = d :: ds) (other : d ≠ '0')
    (all : Json.AreDigits (d :: ds)) : Json.IsReal (Layout.float.render s).toList := by
  obtain ⟨first, further⟩ := Json.areDigits_cons.mp all
  have zeros (n : Nat) : Json.AreDigits (List.replicate n '0') := Json.areDigits_replicate n
  have length : (s.digits.length : Int) = ds.length + 1 := by simp [digits]
  simp only [Layout.render, length]
  split
  · have whole : Json.IsWhole [d] := .digits other (by simp [first])
    have exponent := isExponent_exponentText (s.point - 1)
    cases ds with
    | nil => simpa [digits, Layout.float] using Json.IsReal.parts whole .none exponent (by simp)
    | cons c cs =>
      have fraction : Json.IsFraction ('.' :: c :: cs) := .digits (by simp) further
      simpa [digits, Layout.float] using Json.IsReal.parts whole fraction exponent (by simp)
  by_cases below : s.point ≤ 0
  · have fraction : Json.IsFraction ('.' :: (List.replicate (-s.point).toNat '0' ++ d :: ds)) :=
      .digits (by simp) (by simp [zeros, first, further])
    simpa [digits, below] using Json.IsReal.parts .zero fraction .none (by simp)
  by_cases long : (ds.length : Int) + 1 ≤ s.point
  · have whole : Json.IsWhole
        (d :: (ds ++ List.replicate (s.point - (ds.length + 1)).toNat '0')) :=
      .digits other (by simp [zeros, first, further])
    have fraction : Json.IsFraction ['.', '0'] := .digits (by simp) (zeros 1)
    simpa [digits, below, long, Layout.float] using
      Json.IsReal.parts whole fraction .none (by simp)
  · obtain ⟨n, places⟩ : ∃ n, s.point.toNat = n + 1 := ⟨s.point.toNat - 1, by omega⟩
    have whole : Json.IsWhole (d :: ds.take n) :=
      .digits other (Json.areDigits_cons.mpr
        ⟨first, fun c h => further c (List.take_subset n ds h)⟩)
    have fraction : Json.IsFraction ('.' :: ds.drop n) :=
      .digits (by rw [ne_eq, List.drop_eq_nil_iff]; omega)
        fun c h => further c (List.drop_subset n ds h)
    simpa [digits, below, long, places] using Json.IsReal.parts whole fraction .none (by simp)

theorem render_of_nil (none : s.digits = []) :
    (∃ i j, (Layout.float.render s).toList =
        List.replicate i '0' ++ '.' :: List.replicate j '0') ∨
      ∃ rest, (Layout.float.render s).toList = 'e' :: rest := by
  unfold Layout.render
  split
  · exact .inr ⟨(exponentText 2 (s.point - 1)).toList, by simp [none, Layout.float]⟩
  · left
    split
    · exact ⟨1, (-s.point).toNat, by simp [none]⟩
    · next positive =>
      have fits : (s.digits.length : Int) ≤ s.point := by
        rw [none]
        simpa using (Int.le_of_lt (Int.not_le.mp positive))
      rw [if_pos fits]
      exact ⟨s.point.toNat, 1, by simp [none, Layout.float]⟩

theorem unsigned?_exponent (rest : List Char) : unsigned? negative ('e' :: rest) = none := rfl

theorem ReadsBack.unsigned? (back : ReadsBack x) {body : String}
    (shown : text x = sign negative ++ body)
    (first : ∀ c, body.toList.head? = some c → c ≠ '-' ∧ c ≠ '+') :
    unsigned? negative body.toList = some x := by
  rwa [ReadsBack, shown, String.toList_append, toList_sign, signed?, splitSign_minus first] at back

theorem text_of_finite (view : Double.ofFloat x = .finite negative m e) :
    text x = sign negative ++ if m = 0 then "0.0" else Layout.float.render (shortest m e) := by
  rw [text, view]

theorem ReadsBack.exists_finite (back : ReadsBack x) :
    ∃ negative m e, Double.ofFloat x = .finite negative m e := by
  cases view : Double.ofFloat x with
  | finite negative m e => exact ⟨_, _, _, rfl⟩
  | nan =>
    rw [ReadsBack, text, view] at back
    exact absurd back nofun
  | infinite negative =>
    rw [ReadsBack, text, view] at back
    cases negative <;> exact absurd back nofun

theorem ReadsBack.digits_ne_nil (back : ReadsBack x)
    (view : Double.ofFloat x = .finite negative m e) (nonzero : m ≠ 0) :
    (shortest m e).digits ≠ [] := by
  intro none
  have shown := text_of_finite view
  rw [if_neg nonzero] at shown
  obtain ⟨i, j, zeros⟩ | ⟨rest, mere⟩ := render_of_nil none
  · have read := back.unsigned? shown (by rw [zeros]; cases i <;> rintro c ⟨⟩ <;> decide)
    rw [zeros] at read
    rw [ofFloat_of_zeros read] at view
    cases view
    exact nonzero rfl
  · have read := back.unsigned? shown (by rw [mere]; rintro c ⟨⟩; decide)
    rw [mere, unsigned?_exponent] at read
    cases read

theorem ReadsBack.isReal (back : ReadsBack x) (view : Double.ofFloat x = .finite negative m e) :
    Json.IsReal (if m = 0 then "0.0" else Layout.float.render (shortest m e)).toList := by
  by_cases zero : m = 0
  · rw [if_pos zero]
    exact .parts .zero (.digits (by simp) (Json.areDigits_replicate 1)) .none (by simp)
  · rw [if_neg zero]
    obtain none | ⟨d, ds, digits, other, all⟩ := digits_shortest m e
    · exact absurd none (back.digits_ne_nil view zero)
    · exact isReal_render digits other all

/-- The text of a double that reads back is a sign and a number that is read as the double. -/
theorem ReadsBack.exists_isReal (back : ReadsBack x) : ∃ negative body,
    Json.writeFloat x = Json.minus negative ++ body ∧ Json.IsReal body ∧
      Decimal.unsigned? negative body = some x := by
  obtain ⟨negative, m, e, view⟩ := back.exists_finite
  have shown := text_of_finite view
  have real := back.isReal view
  obtain ⟨d, rest, front, digit⟩ := real.exists_cons
  have first : ∀ c, (d :: rest).head? = some c → c ≠ '-' ∧ c ≠ '+' := by
    rintro c ⟨⟩
    exact ⟨Text.ne_of_isDigit digit rfl, Text.ne_of_isDigit digit rfl⟩
  refine ⟨negative, _, ?_, real, back.unsigned? shown (front ▸ first)⟩
  simp only [Json.writeFloat, view, shown, String.toList_append, toList_sign]

end

end Decimal

-- ---------------------------------------------------------------------------
-- Numbers among the other values
-- ---------------------------------------------------------------------------

namespace Json

variable {cs rest : List Char}

def BeginsNumber (cs : List Char) : Prop :=
  ∃ negative c rest, cs = minus negative ++ c :: rest ∧ Text.isDigit c = true

theorem BeginsNumber.append (begins : BeginsNumber cs) (rest : List Char) :
    BeginsNumber (cs ++ rest) := by
  obtain ⟨negative, c, more, rfl, digit⟩ := begins
  exact ⟨negative, c, more ++ rest, List.append_assoc .., digit⟩

theorem beginsNumber_integerText (n : Int) : BeginsNumber (integerText n).toList := by
  obtain ⟨c, cs, digits, all⟩ := (isWhole_toDigits n.natAbs).exists_cons
  exact ⟨_, c, cs, digits ▸ toList_integerText n, (areDigits_cons.mp all).1⟩

theorem beginsNumber_writeFloat {x : Float} (back : Decimal.ReadsBack x) :
    BeginsNumber (writeFloat x) := by
  obtain ⟨negative, body, shown, real, -⟩ := back.exists_isReal
  obtain ⟨c, cs, rfl, digit⟩ := real.exists_cons
  exact ⟨negative, c, cs, shown, digit⟩

theorem number_writeFloat {x : Float} (back : Decimal.ReadsBack x) (ends : EndsNumber rest) :
    number (writeFloat x ++ rest) = .ok (.float x, rest) := by
  obtain ⟨negative, body, shown, ⟨shape, shape', shape'', given⟩, read⟩ := back.exists_isReal
  rw [← List.append_assoc] at read
  rw [shown]
  simp only [List.append_assoc]
  rw [number_append negative shape shape' shape'' ends, if_neg given, read]
  rfl

theorem scalar_eq_number (begins : BeginsNumber cs) : scalar cs = number cs := by
  obtain ⟨negative, c, rest, rfl, digit⟩ := begins
  have initials : ∀ d ∈ "ntfNI-".toList, Text.isDigit d = false := by decide
  have other : ∀ d ∈ "ntfNI-".toList, d ≠ c :=
    fun d h => (Text.ne_of_isDigit digit (initials d h)).symm
  simp only [String.reduceToList, List.forall_mem_cons] at other
  cases negative <;> simp [scalar, words, minus, List.isPrefixOf, other]

theorem value_eq_number {fuel : Nat} (begins : BeginsNumber cs) :
    value (fuel + 1) cs = number cs := by
  rw [← scalar_eq_number begins]
  obtain ⟨negative, c, rest, rfl, digit⟩ := begins
  cases negative with
  | true => rfl
  | false =>
    have quote : c ≠ '"' := Text.ne_of_isDigit digit rfl
    have bracket : c ≠ '[' := Text.ne_of_isDigit digit rfl
    have brace : c ≠ '\x7b' := Text.ne_of_isDigit digit rfl
    simp [minus, value, quote, bracket, brace]

end Json

end Flowline

import Flowline.Text.Blank
import Flowline.Text.Case
import Flowline.Text.Half

/-!
# Names in ASCII

Names of ASCII letters, digits and underscores are the words that the grammar of conditions, the
spelling of conditions and templates have in common: none of them sees a blank, a quote or an
operator in such a name.
-/

namespace Flowline.Text

variable {c d : Char} {cs : List Char}

/-- What is said of the characters of a text is decided along the text; there are too many
characters to go through all of them. -/
instance (priority := 1100) decidableForallMem {p : Char → Prop} [DecidablePred p] (cs : List Char) :
    Decidable (∀ c ∈ cs, p c) := List.decidableBAll p cs

-- ---------------------------------------------------------------------------
-- Runs
-- ---------------------------------------------------------------------------

theorem takeWhile_run {p : α → Bool} {run rest : List α} (inside : ∀ c ∈ run, p c = true)
    (ends : ∀ c, rest.head? = some c → p c = false) : (run ++ rest).takeWhile p = run := by
  rw [List.takeWhile_append_of_pos inside]
  cases rest with
  | nil => simp
  | cons c rest => simp [ends c rfl]

theorem dropWhile_run {p : α → Bool} {run rest : List α} (inside : ∀ c ∈ run, p c = true)
    (ends : ∀ c, rest.head? = some c → p c = false) : (run ++ rest).dropWhile p = rest := by
  rw [List.dropWhile_append_of_pos inside]
  cases rest with
  | nil => rfl
  | cons c rest => simp [ends c rfl]

theorem takeWhile_eq_nil {p : α → Bool} {cs : List α}
    (front : ∀ c, cs.head? = some c → p c = false) : cs.takeWhile p = [] := by
  cases cs with
  | nil => rfl
  | cons c cs => simp [front c rfl]

theorem dropWhile_eq_self {p : α → Bool} {cs : List α}
    (front : ∀ c, cs.head? = some c → p c = false) : cs.dropWhile p = cs := by
  cases cs with
  | nil => rfl
  | cons c cs => simp [front c rfl]

theorem eq_false_of_head?_dropWhile {p : α → Bool} {cs : List α} {c : α}
    (first : (cs.dropWhile p).head? = some c) : p c = false := by
  simpa [first] using List.head?_dropWhile_not p cs

theorem trimBoth_eq (front : ∀ c, cs.head? = some c → isBlank c = false)
    (back : ∀ c, cs.getLast? = some c → isBlank c = false) : trimBoth cs = cs := by
  rw [← List.head?_reverse] at back
  rw [trimBoth, trimLeft, dropWhile_eq_self front, trimRight, dropWhile_eq_self back,
    List.reverse_reverse]

-- ---------------------------------------------------------------------------
-- Names
-- ---------------------------------------------------------------------------

def isAsciiName : List Char → Bool
  | c :: rest => (isAsciiLetter c || c == '_') && rest.all isAsciiWord
  | [] => false

theorem ne_of_isAsciiWord (word : isAsciiWord c = true) (other : isAsciiWord d = false) :
    c ≠ d := by
  rintro rfl
  exact absurd (word.symm.trans other) Bool.noConfusion

theorem isAsciiWord_range (word : isAsciiWord c = true) : 48 ≤ c.toNat ∧ c.toNat ≤ 122 := by
  simp only [isAsciiWord, isAsciiLetter, isDigit, Bool.or_eq_true, Bool.and_eq_true,
    decide_eq_true_eq, beq_iff_eq, Char.le_def, UInt32.le_iff_toNat_le] at word
  rcases word with ((word | word) | word) | rfl
  · exact ⟨Nat.le_trans (by decide) word.1, word.2⟩
  · exact ⟨Nat.le_trans (by decide) word.1, Nat.le_trans word.2 (by decide)⟩
  · exact ⟨word.1, Nat.le_trans word.2 (by decide)⟩
  · decide

theorem isWellFormed_of_printable {cs : List Char}
    (printable : ∀ c ∈ cs, 32 ≤ c.toNat ∧ c.toNat ≤ 126) :
    isWellFormed (String.ofList cs) = true := by
  rw [isWellFormed, String.toList_ofList, Bool.not_eq_true', List.any_eq_false]
  intro c listed
  have low : c.toNat < halfBase := Nat.lt_of_le_of_lt (printable c listed).2 (by decide)
  simp [isHalf, half?, Nat.not_le.mpr low]

theorem isWord_of_isAsciiWord (word : isAsciiWord c = true) : isWord c = true := by
  have range := isAsciiWord_range word
  rw [isWord_of_ascii (by omega), word]

theorem isBlank_of_isAsciiWord (word : isAsciiWord c = true) : isBlank c = false := by
  have range := isAsciiWord_range word
  simp only [isBlank]
  grind

def farBlanks : List Nat :=
  [0x85, 0xA0, 0x1680, 0x2028, 0x2029, 0x202F, 0x205F, 0x3000] ++ List.range' 0x2000 11

theorem isBlank_cases (blank : isBlank c = true) : c.toNat ≤ 32 ∨ c.toNat ∈ farBlanks := by
  simp only [isBlank, Bool.or_eq_true, Bool.and_eq_true, decide_eq_true_eq, beq_iff_eq] at blank
  simp only [farBlanks, List.mem_append, List.mem_cons, List.mem_range'_1, List.not_mem_nil]
  omega

theorem wordRanges_blank : ∀ n ∈ farBlanks, wordRanges.contains n = false := by
  decide +kernel

theorem isBlank_of_isWord (word : isWord c = true) : isBlank c = false := by
  by_cases small : c.toNat < 128
  · rw [isWord_of_ascii small] at word
    exact isBlank_of_isAsciiWord word
  · rw [isWord, if_neg small] at word
    refine Bool.eq_false_iff.mpr fun blank => ?_
    rcases isBlank_cases blank with space | far
    · omega
    · rw [wordRanges_blank _ far] at word
      cases word

theorem isAsciiWord_of_isAsciiName (name : isAsciiName cs = true) :
    ∀ c ∈ cs, isAsciiWord c = true := by
  cases cs with
  | nil => simp
  | cons c rest =>
    simp only [isAsciiName, Bool.and_eq_true, Bool.or_eq_true, List.all_eq_true] at name
    refine List.forall_mem_cons.mpr ⟨?_, name.2⟩
    rcases name.1 with letter | underscore <;> simp [isAsciiWord, *]

theorem isDigit_of_opensName (opens : (isAsciiLetter c || c == '_') = true) :
    isDigit c = false := by
  simp only [isAsciiLetter, Bool.or_eq_true, Bool.and_eq_true, decide_eq_true_eq, beq_iff_eq,
    Char.le_def, UInt32.le_iff_toNat_le] at opens
  have beyond : 57 < c.val.toNat := by
    rcases opens with (lower | upper) | rfl
    · exact Nat.lt_of_lt_of_le (by decide) lower.1
    · exact Nat.lt_of_lt_of_le (by decide) upper.1
    · decide
  have last : ('9' : Char).val.toNat = 57 := rfl
  simp only [isDigit, Bool.and_eq_false_iff, decide_eq_false_iff_not, Char.le_def,
    UInt32.le_iff_toNat_le]
  omega

theorem ne_nil_of_isAsciiName (name : isAsciiName cs = true) : cs ≠ [] := by
  rintro rfl
  cases name

theorem sameLetter_eq (small : c.toNat < 128) :
    sameLetter d c = (lowerAscii c == lowerAscii d) := by
  unfold sameLetter lowerAscii
  grind

end Flowline.Text

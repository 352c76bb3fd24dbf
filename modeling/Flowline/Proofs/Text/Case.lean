import Flowline.Proofs.Text.Part
import Flowline.Proofs.Text.Word

/-!
# Case images

Beyond ASCII a character has an image of its own, lies in a run of characters at one distance from
their images, or is its own image. So what is to be said of images is read off the entries and the
runs of the table: that only word characters become ASCII letters in upper case, and that no lower
case is a mark or a blank unless the character itself is one.

The lower case of a text is that of its characters one by one, but for the form of a sigma. A search
for a part in ASCII does not see the difference.
-/

namespace Flowline.Text

variable {c : Char} {n m : Nat}

theorem CaseRun.image?_eq_some_iff {run : CaseRun} : run.image? n = some m ↔
    (run.first ≤ n ∧ n ≤ run.last ∧ (n - run.first) % run.step = 0) ∧
      ((n : Int) + run.offset).toNat = m := by
  simp [image?, and_assoc]

theorem imageIn_cases (runs : List CaseRun) (special : List (Nat × List Nat)) (c : Char) :
    (∃ codes, (c.toNat, codes) ∈ special ∧ imageIn runs special c = codes.map Char.ofNat) ∨
      (∃ run ∈ runs, ∃ n, run.image? c.toNat = some n ∧
        imageIn runs special c = [Char.ofNat n]) ∨
      imageIn runs special c = [c] := by
  unfold imageIn
  split
  · rename_i codes found
    obtain ⟨before, behind, table, -⟩ := List.lookup_eq_some_iff.mp found
    exact .inl ⟨codes, by simp [table], rfl⟩
  split
  · rename_i n found
    obtain ⟨run, listed, moved⟩ := List.exists_of_findSome?_eq_some found
    exact .inr (.inl ⟨run, listed, n, moved, rfl⟩)
  · exact .inr (.inr rfl)

-- ---------------------------------------------------------------------------
-- What becomes an ASCII letter in upper case
-- ---------------------------------------------------------------------------

theorem toNat_lt_of_isAsciiLetter (letter : isAsciiLetter c = true) : c.toNat < 128 := by
  have word : isAsciiWord c = true := by simp [isAsciiWord, letter]
  have range := isAsciiWord_range word
  omega

theorem isWord_of_isAsciiLetter (letter : isAsciiLetter c = true) : isWord c = true :=
  isWord_of_isAsciiWord (by simp [isAsciiWord, letter])

theorem lt_of_isAsciiLetter_ofNat (letter : isAsciiLetter (Char.ofNat n) = true) : n < 128 := by
  by_cases valid : n.isValidChar
  · rw [Char.ofNat, dif_pos valid] at letter
    exact toNat_lt_of_isAsciiLetter letter
  · rw [Char.ofNat, dif_neg valid] at letter
    cases letter

theorem upperSpecial_lettered : ∀ entry ∈ upperSpecial,
    (∀ n ∈ entry.2, isAsciiLetter (Char.ofNat n) = true) → wordRanges.contains entry.1 = true := by
  decide +kernel

theorem upperRuns_lettered : ∀ run ∈ upperRuns, 128 ≤ (run.first : Int) + run.offset ∨
    run.first = run.last ∧ wordRanges.contains run.first = true := by
  decide +kernel

theorem isWord_of_imageIn (beyond : 128 ≤ c.toNat)
    (letters : ∀ d ∈ imageIn upperRuns upperSpecial c, isAsciiLetter d = true) :
    wordRanges.contains c.toNat = true := by
  rcases imageIn_cases upperRuns upperSpecial c with
    ⟨codes, entry, image⟩ | ⟨run, listed, n, moved, image⟩ | image
  · rw [image] at letters
    exact upperSpecial_lettered _ entry (List.forall_mem_map.mp letters)
  · rw [image] at letters
    have small := lt_of_isAsciiLetter_ofNat (letters _ (List.mem_singleton_self _))
    obtain ⟨⟨low, high, -⟩, distance⟩ := CaseRun.image?_eq_some_iff.mp moved
    rcases upperRuns_lettered run listed with far | ⟨single, word⟩
    · omega
    · have same : c.toNat = run.first := by omega
      rw [same, word]
  · rw [image] at letters
    have small := toNat_lt_of_isAsciiLetter (letters c (List.mem_singleton_self c))
    omega

theorem isWord_of_upperChar (letters : ∀ d ∈ upperChar c, isAsciiLetter d = true) :
    isWord c = true := by
  unfold upperChar at letters
  split at letters
  · split at letters
    · rename_i lower
      exact isWord_of_isAsciiLetter (by simp [isAsciiLetter, lower])
    · exact isWord_of_isAsciiLetter (letters c (List.mem_singleton_self c))
  · rename_i large
    rw [isWord, if_neg large]
    exact isWord_of_imageIn (by omega) letters

-- ---------------------------------------------------------------------------
-- Lower case
-- ---------------------------------------------------------------------------

/-- A property of all characters beyond the backslash, and of the one that stands for none. -/
def IsFar (P : Char → Prop) : Prop := P '\x00' ∧ ∀ d : Char, 92 < d.toNat → P d

variable {P : Char → Prop} {cs : List Char}

theorem IsFar.ofNat (far : IsFar P) (beyond : 92 < n) : P (Char.ofNat n) := by
  by_cases valid : n.isValidChar
  · rw [Char.ofNat, dif_pos valid]
    exact far.2 _ beyond
  · rw [Char.ofNat, dif_neg valid]
    exact far.1

theorem lowerRuns_beyond : ∀ run ∈ lowerRuns, 92 < (run.first : Int) + run.offset := by
  decide +kernel

theorem lowerSpecial_beyond : ∀ entry ∈ lowerSpecial, ∀ n ∈ entry.2, 92 < n := by
  decide

theorem forall_lowerImage (far : IsFar P) (here : P c) :
    ∀ d ∈ imageIn lowerRuns lowerSpecial c, P d := by
  intro d image
  rcases imageIn_cases lowerRuns lowerSpecial c with
    ⟨codes, entry, same⟩ | ⟨run, listed, n, moved, same⟩ | same
  · rw [same] at image
    obtain ⟨n, listed, rfl⟩ := List.mem_map.mp image
    exact far.ofNat (lowerSpecial_beyond _ entry n listed)
  · rw [same, List.mem_singleton] at image
    obtain ⟨⟨low, -, -⟩, distance⟩ := CaseRun.image?_eq_some_iff.mp moved
    have beyond := lowerRuns_beyond run listed
    exact image ▸ far.ofNat (by omega)
  · rw [same, List.mem_singleton] at image
    exact image ▸ here

theorem forall_lowerChar (far : IsFar P) (here : P c) : ∀ d ∈ lowerChar c, P d := by
  intro d image
  unfold lowerChar at image
  split at image
  · rw [List.mem_singleton] at image
    rw [image]
    split
    · rename_i upper
      simp only [Bool.and_eq_true, decide_eq_true_eq, Char.le_def, UInt32.le_iff_toNat_le] at upper
      have low : 65 ≤ c.toNat := upper.1
      exact far.ofNat (by omega)
    · exact here
  · exact forall_lowerImage far here d image

theorem forall_lowerFrom (far : IsFar P) (before : List Char) (here : ∀ c ∈ cs, P c) :
    ∀ d ∈ lowerFrom before cs, P d := by
  induction cs generalizing before with
  | nil => simp [lowerFrom]
  | cons c cs ih =>
    obtain ⟨first, further⟩ := List.forall_mem_cons.mp here
    rw [lowerFrom]
    refine List.forall_mem_append.mpr ⟨fun d image => ?_, ih _ further⟩
    split at image
    · rw [List.mem_singleton] at image
      subst image
      split <;> exact far.2 _ (by decide)
    · exact forall_lowerChar far first d image

theorem lowerSpecial_given : ∀ entry ∈ lowerSpecial, entry.2 ≠ [] := by
  decide

theorem lowerChar_ne_nil (c : Char) : lowerChar c ≠ [] := by
  unfold lowerChar
  split
  · exact List.cons_ne_nil _ _
  rcases imageIn_cases lowerRuns lowerSpecial c with
    ⟨codes, entry, same⟩ | ⟨run, -, n, -, same⟩ | same
  · rw [same]
    exact fun empty => lowerSpecial_given _ entry (List.map_eq_nil_iff.mp empty)
  · simp [same]
  · simp [same]

theorem lowerFrom_cons_ne_nil (before : List Char) (c : Char) (rest : List Char) :
    lowerFrom before (c :: rest) ≠ [] := by
  rw [lowerFrom]
  refine List.append_ne_nil_of_left_ne_nil ?_ _
  split
  · exact List.cons_ne_nil _ _
  · exact lowerChar_ne_nil c

theorem lowerChar_of_ascii (small : c.toNat < 128) : lowerChar c = [lowerAscii c] := if_pos small

theorem flatMap_lowerChar_ascii (small : ∀ c ∈ cs, c.toNat < 128) :
    cs.flatMap lowerChar = cs.map lowerAscii := by
  rw [List.map_eq_flatMap, List.flatMap_def, List.flatMap_def,
    List.map_congr_left fun c listed => lowerChar_of_ascii (small c listed)]

theorem lowerFrom_ascii (small : ∀ c ∈ cs, c.toNat < 128) (before : List Char) :
    lowerFrom before cs = cs.map lowerAscii := by
  induction cs generalizing before with
  | nil => rfl
  | cons c cs ih =>
    obtain ⟨here, further⟩ := List.forall_mem_cons.mp small
    have latin : c ≠ 'Σ' := by
      rintro rfl
      exact absurd here (by decide)
    rw [lowerFrom, if_neg latin, lowerChar_of_ascii here, ih further]
    rfl

@[simp] theorem toList_lower (s : String) : (lower s).toList = lowerFrom [] s.toList :=
  String.toList_ofList

theorem lowerChar_of_lt (small : c.toNat < 65) : lowerChar c = [c] := by
  have below : ¬ 'A' ≤ c := by
    simp only [Char.le_def, UInt32.le_iff_toNat_le]
    exact Nat.not_le.mpr small
  rw [lowerChar, if_pos (by omega), if_neg (by simp [below])]

theorem lowerChar_farBlanks : ∀ n ∈ farBlanks, lowerChar (Char.ofNat n) = [Char.ofNat n] := by
  decide +kernel

theorem lowerChar_of_isBlank (blank : isBlank c = true) : lowerChar c = [c] := by
  rcases isBlank_cases blank with space | far
  · exact lowerChar_of_lt (by omega)
  · simpa using lowerChar_farBlanks _ far

theorem lowerFrom_suffix (before front rest : List Char) :
    lowerFrom (front.reverse ++ before) rest <:+ lowerFrom before (front ++ rest) := by
  induction front generalizing before with
  | nil => exact List.suffix_refl _
  | cons c front ih =>
    rw [List.cons_append, lowerFrom, List.reverse_cons, List.append_assoc]
    exact (ih (c :: before)).trans (List.suffix_append _ _)

/-- The form of a small sigma inside a word for both of its forms. -/
def openSigma (c : Char) : Char := if c = 'ς' then 'σ' else c

theorem map_openSigma_lowerFrom (before cs : List Char) :
    (lowerFrom before cs).map openSigma = (cs.flatMap lowerChar).map openSigma := by
  induction cs generalizing before with
  | nil => rfl
  | cons c cs ih =>
    rw [lowerFrom, List.flatMap_cons, List.map_append, List.map_append, ih]
    split
    · rename_i sigma
      subst sigma
      split <;> rfl
    · rfl

/-- A text holds a part in ASCII in lower case if its characters do so one by one. -/
theorem infix_lowerFrom_iff {part : List Char} (small : ∀ c ∈ part, c.toNat < 128)
    (before : List Char) : part <:+: lowerFrom before cs ↔ part <:+: cs.flatMap lowerChar := by
  have fixed (c : Char) (listed : c ∈ part ∨ openSigma c ∈ part) : openSigma c = c := by
    unfold openSigma at listed ⊢
    split
    · rename_i final
      subst final
      exact absurd listed (by
        rintro (here | here)
        · exact absurd (small _ here) (by decide)
        · exact absurd (small _ here) (by decide))
    · rfl
  rw [← infix_map_iff_of_fixed fixed, map_openSigma_lowerFrom, infix_map_iff_of_fixed fixed]

end Flowline.Text

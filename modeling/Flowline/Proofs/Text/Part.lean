import Flowline.Proofs.Text.Word
import Flowline.Text.Part
import Mathlib.Data.List.TakeWhile

/-!
# Where a part can stand

A part that does not hold a mark stands in front of the mark or behind it, so a text can be searched
piece by piece. What is dropped at the end of a text is a run of the characters that are dropped
there, and trimming drops at both ends.
-/

namespace Flowline.Text

variable {part front back xs : List α}

-- ---------------------------------------------------------------------------
-- Parts
-- ---------------------------------------------------------------------------

theorem isInside_iff [BEq α] [LawfulBEq α] : isInside part xs = true ↔ part <:+: xs := by
  induction xs with
  | nil => simp [isInside]
  | cons x rest ih =>
    rw [isInside, Bool.or_eq_true, List.isPrefixOf_iff_prefix, ih, List.infix_cons_iff]

theorem hasPart_iff {s part : String} : hasPart s part = true ↔ part.toList <:+: s.toList :=
  isInside_iff

theorem infix_append_iff_of_head? (cut : ∀ x ∈ back.head?, x ∉ part) :
    part <:+: front ++ back ↔ part <:+: front ∨ part <:+: back := by
  rw [List.infix_append_iff_ne_nil]
  constructor
  · rintro (inFront | inBack | ⟨left, right, -, given, rfl, -, across⟩)
    · exact .inl inFront
    · exact .inr inBack
    · obtain ⟨x, right, rfl⟩ := List.exists_cons_of_ne_nil given
      obtain ⟨rest, rfl⟩ := across
      exact absurd (List.mem_append_right _ List.mem_cons_self) (cut x rfl)
  · rintro (inFront | inBack)
    · exact .inl inFront
    · exact .inr (.inl inBack)

theorem infix_append_cons_iff (absent : x ∉ part) :
    part <:+: front ++ x :: back ↔ part <:+: front ∨ part <:+: x :: back := by
  refine infix_append_iff_of_head? ?_
  rintro _ ⟨⟩
  exact absent

theorem infix_append_iff_of_forall (given : part ≠ []) (apart : ∀ x ∈ front, x ∉ part) :
    part <:+: front ++ back ↔ part <:+: back := by
  induction front with
  | nil => rfl
  | cons x front ih =>
    obtain ⟨here, further⟩ := List.forall_mem_cons.mp apart
    rw [List.cons_append, List.infix_cons_iff, ih further, or_iff_right_iff_imp]
    intro begins
    obtain ⟨y, part, rfl⟩ := List.exists_cons_of_ne_nil given
    obtain ⟨rfl, -⟩ := List.cons_prefix_cons.mp begins
    exact absurd List.mem_cons_self here

theorem infix_map_iff_of_fixed {f : α → α} (fixed : ∀ x, x ∈ part ∨ f x ∈ part → f x = x) :
    part <:+: xs.map f ↔ part <:+: xs := by
  have unchanged {ys : List α} (h : ∀ x ∈ ys, f x = x) : ys.map f = ys :=
    (List.map_congr_left h).trans (List.map_id ys)
  rw [List.infix_map_iff]
  constructor
  · rintro ⟨part', stands, rfl⟩
    rwa [unchanged fun x listed => fixed x (.inr (List.mem_map_of_mem listed))]
  · intro stands
    exact ⟨part, stands, (unchanged fun x listed => fixed x (.inl listed)).symm⟩

theorem mem_of_prefix_append (given : front ≠ []) (begins : xs <+: front ++ xs) :
    ∀ x ∈ xs, x ∈ front := by
  have positive := List.length_pos_iff.mpr given
  have listed (i : Nat) : ∀ inside : i < xs.length, xs[i] ∈ front := by
    induction i using Nat.strong_induction_on with
    | _ i ih =>
      intro inside
      rw [begins.getElem inside]
      by_cases early : i < front.length
      · rw [List.getElem_append_left early]
        exact List.getElem_mem early
      · rw [List.getElem_append_right (Nat.le_of_not_lt early)]
        exact ih (i - front.length) (by omega) _
  intro x mem
  obtain ⟨i, inside, rfl⟩ := List.getElem_of_mem mem
  exact listed i inside

theorem cut?_append {separator : Char} {before behind : List Char} (apart : separator ∉ before) :
    cut? separator (before ++ separator :: behind) = some (before, behind) := by
  induction before with
  | nil => simp [cut?]
  | cons c before ih =>
    obtain ⟨here, further⟩ := not_or.mp (mt List.mem_cons.mpr apart)
    simp [cut?, Ne.symm here, ih further]

-- ---------------------------------------------------------------------------
-- Ends
-- ---------------------------------------------------------------------------

theorem exists_of_dropEnd (p : Char → Bool) (cs : List Char) :
    ∃ tail, cs = dropEnd p cs ++ tail ∧ ∀ c ∈ tail, p c = true := by
  refine ⟨(cs.reverse.takeWhile p).reverse, ?_, fun c listed => ?_⟩
  · rw [dropEnd, ← List.reverse_append, List.takeWhile_append_dropWhile, List.reverse_reverse]
  · exact List.mem_takeWhile_imp (List.mem_reverse.mp listed)

theorem dropEnd_prefix (p : Char → Bool) (cs : List Char) : dropEnd p cs <+: cs := by
  obtain ⟨tail, whole, -⟩ := exists_of_dropEnd p cs
  exact ⟨tail, whole.symm⟩

theorem dropEnd_eq_self {p : Char → Bool} {cs : List Char}
    (back : ∀ c, cs.getLast? = some c → p c = false) : dropEnd p cs = cs := by
  simp only [← List.head?_reverse] at back
  rw [dropEnd, dropWhile_eq_self back, List.reverse_reverse]

theorem eq_false_of_getLast?_dropEnd {p : Char → Bool} {cs : List Char} {c : Char}
    (last : (dropEnd p cs).getLast? = some c) : p c = false := by
  rw [dropEnd, List.getLast?_reverse] at last
  exact eq_false_of_head?_dropWhile last

theorem head?_of_prefix {x : α} (begins : front <+: xs) (first : front.head? = some x) :
    xs.head? = some x := by
  obtain ⟨rest, rfl⟩ := begins
  simp [first]

end Flowline.Text

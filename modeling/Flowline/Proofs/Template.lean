import Flowline.Proofs.Text.Word
import Flowline.Template

/-!
# Filling templates

A slot that is written without blanks becomes the text of its key's value, and text without braces
stays as it is.
-/

namespace Flowline.Template

variable {cs key rest : List Char} {lookup : String → Option Value}

theorem slot?_of_ne {c : Char} (other : c ≠ '\x7b') (rest : List Char) :
    slot? (c :: rest) = none := by
  simp [slot?, other]

theorem pieces_of_notMem (plain : '\x7b' ∉ cs) : pieces cs = cs.map .char := by
  induction cs with
  | nil => simp [pieces]
  | cons c cs ih =>
    obtain ⟨other, further⟩ := not_or.mp (mt List.mem_cons.mpr plain)
    rw [pieces]
    split
    · rename_i found
      rw [slot?_of_ne (Ne.symm other)] at found
      cases found
    · rw [ih further, List.map_cons]

theorem slot?_key (given : key ≠ []) (word : ∀ c ∈ key, Text.isWord c = true)
    (unblank : ∀ c, key.head? = some c → Text.isBlank c = false) (rest : List Char) :
    slot? ('\x7b' :: '\x7b' :: (key ++ '\x7d' :: '\x7d' :: rest)) =
      some (key, key.length + 4) := by
  have front : (key ++ '\x7d' :: '\x7d' :: rest).head? = key.head? := by
    cases key with
    | nil => exact absurd rfl given
    | cons c key => rfl
  have lead : ∀ c, (key ++ '\x7d' :: '\x7d' :: rest).head? = some c → Text.isBlank c = false :=
    front ▸ unblank
  have ends : ∀ c, ('\x7d' :: '\x7d' :: rest).head? = some c → Text.isWord c = false := by
    simp only [List.head?_cons, Option.some.injEq, forall_eq']
    decide
  have brace : Text.isBlank '\x7d' = false := by decide
  simp [slot?, Text.takeWhile_eq_nil lead, Text.dropWhile_eq_self lead,
    Text.takeWhile_run word ends, Text.dropWhile_run word ends, brace, given]

theorem pieces_slot (given : key ≠ []) (word : ∀ c ∈ key, Text.isWord c = true)
    (unblank : ∀ c, key.head? = some c → Text.isBlank c = false) (rest : List Char) :
    pieces ('\x7b' :: '\x7b' :: (key ++ '\x7d' :: '\x7d' :: rest)) =
      .slot key ('\x7b' :: '\x7b' :: (key ++ ['\x7d', '\x7d'])) :: pieces rest := by
  have found := slot?_key given word unblank rest
  rw [pieces]
  split
  · rename_i read
    rw [found] at read
    cases read
    have split : '\x7b' :: '\x7b' :: (key ++ '\x7d' :: '\x7d' :: rest) =
        '\x7b' :: '\x7b' :: (key ++ ['\x7d', '\x7d']) ++ rest := by simp
    have length : ('\x7b' :: '\x7b' :: (key ++ ['\x7d', '\x7d'])).length = key.length + 4 := by
      simp
    rw [split, List.take_left' length, List.drop_left' length]
  · rename_i none
    rw [found] at none
    cases none

theorem mapM_fill?_char (lookup : String → Option Value) (cs : List Char) :
    (cs.map Piece.char).mapM (Piece.fill? lookup) = some (cs.map fun c => [c]) := by
  induction cs with
  | nil => rfl
  | cons c cs ih => simp [List.mapM_cons, Piece.fill?, ih]

theorem fill?_slot (given : key ≠ []) (word : ∀ c ∈ key, Text.isWord c = true)
    (unblank : ∀ c, key.head? = some c → Text.isBlank c = false) (plain : '\x7b' ∉ rest)
    (known : lookup (String.ofList key) = some v) (inline : v.inline? = some s) :
    fill? lookup (String.ofList ('\x7b' :: '\x7b' :: (key ++ '\x7d' :: '\x7d' :: rest))) =
      some (s ++ String.ofList rest) := by
  have chars : (rest.map fun c => [c]).flatten = rest := by
    rw [← List.flatMap_def, List.flatMap_singleton']
  rw [fill?, String.toList_ofList, pieces_slot given word unblank, pieces_of_notMem plain,
    List.mapM_cons, mapM_fill?_char]
  simp [Piece.fill?, known, inline, chars, String.ofList_append]

end Flowline.Template

import Flowline.Text.Blank

/-!
# Parts of a text

Whether a list stands somewhere inside another, and cuts at the first separator.
-/

namespace Flowline.Text

def isInside [BEq α] (part : List α) : List α → Bool
  | [] => part.isEmpty
  | x :: rest => part.isPrefixOf (x :: rest) || isInside part rest

def hasPart (s part : String) : Bool := isInside part.toList s.toList

def cut? (separator : Char) : List Char → Option (List Char × List Char)
  | [] => none
  | c :: rest =>
    if c = separator then some ([], rest)
    else (cut? separator rest).map fun (before, behind) => (c :: before, behind)

def dropEnd (p : Char → Bool) (cs : List Char) : List Char := (cs.reverse.dropWhile p).reverse

theorem append_of_cut? {separator : Char} {cs before behind : List Char}
    (h : cut? separator cs = some (before, behind)) : cs = before ++ separator :: behind := by
  induction cs generalizing before with
  | nil => simp [cut?] at h
  | cons c rest ih =>
    simp only [cut?] at h
    split at h
    · rename_i hc; simp_all
    · obtain ⟨⟨b, r⟩, hb, hr⟩ := Option.map_eq_some_iff.1 h
      simp only [Prod.mk.injEq] at hr
      obtain ⟨rfl, rfl⟩ := hr
      simp [ih hb]

theorem notMem_of_cut? {separator : Char} {cs before behind : List Char}
    (h : cut? separator cs = some (before, behind)) : separator ∉ before := by
  induction cs generalizing before with
  | nil => simp [cut?] at h
  | cons c rest ih =>
    simp only [cut?] at h
    split at h
    · simp_all
    · rename_i hc
      obtain ⟨⟨b, r⟩, hb, hr⟩ := Option.map_eq_some_iff.1 h
      simp only [Prod.mk.injEq] at hr
      obtain ⟨rfl, rfl⟩ := hr
      simp [ih hb, Ne.symm hc]

end Flowline.Text

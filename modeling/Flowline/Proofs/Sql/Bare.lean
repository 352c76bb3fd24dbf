import Flowline.Proofs.Sql.Comment
import Flowline.Proofs.Text.Word
import Mathlib.Data.List.Chain
import Mathlib.Logic.Relation

/-!
# Bare statements

Blanks and comments are taken off the front of a text one after another, however malformed they are:
an unfinished comment is the rest of the text. Each of them shortens the text, so this comes to an
end after no more steps than the text has characters. What is left then is bare: it begins with no
blank and with no mark of a comment. There is only one bare text to end with, and it is what
`stripComments` gives.
-/

namespace Flowline.Sql

/-- What is left of a text when one blank or one comment is taken off its front. -/
inductive Drops : List Char → List Char → Prop
  | blank (isBlank : Text.isBlank c = true) : Drops (c :: rest) rest
  | line (inLine : '\n' ∉ text) : Drops ('-' :: '-' :: (text ++ '\n' :: rest)) rest
  | lastLine (inLine : '\n' ∉ text) : Drops ('-' :: '-' :: text) []
  | block (open' : ¬ ['*', '/'] <:+: '*' :: text) :
      Drops ('/' :: '*' :: (text ++ '*' :: '/' :: rest)) rest
  /-- The end mark shares its star with the opening mark. -/
  | slash : Drops ('/' :: '*' :: '/' :: rest) rest
  | unfinished (open' : ¬ ['*', '/'] <:+: '*' :: text) : Drops ('/' :: '*' :: text) []

/-- A text that is empty or begins neither with a blank nor with the mark of a comment. -/
structure IsBare (cs : List Char) : Prop where
  blank : ∀ c, cs.head? = some c → Text.isBlank c = false
  line : ¬ ['-', '-'] <+: cs
  block : ¬ ['/', '*'] <+: cs

variable {cs rest : List Char}

-- ---------------------------------------------------------------------------
-- One step
-- ---------------------------------------------------------------------------

theorem afterLine_cases (cs : List Char) :
    '\n' ∉ cs ∧ afterLine cs = [] ∨ ∃ text, '\n' ∉ text ∧ cs = text ++ '\n' :: afterLine cs := by
  induction cs with
  | nil => exact .inl ⟨List.not_mem_nil, rfl⟩
  | cons c cs ih =>
    by_cases ends : c = '\n'
    · subst ends
      exact .inr ⟨[], List.not_mem_nil, rfl⟩
    · rw [afterLine, if_neg ends]
      rcases ih with ⟨inLine, nothing⟩ | ⟨text, inLine, split⟩
      · exact .inl ⟨List.not_mem_cons_of_ne_of_not_mem (Ne.symm ends) inLine, nothing⟩
      · exact .inr ⟨c :: text, List.not_mem_cons_of_ne_of_not_mem (Ne.symm ends) inLine,
          congrArg (c :: ·) split⟩

theorem afterMark_cases (cs : List Char) :
    ¬ ['*', '/'] <:+: cs ∧ afterMark cs = [] ∨
      ∃ text, ¬ ['*', '/'] <:+: text ∧ cs = text ++ '*' :: '/' :: afterMark cs := by
  fun_induction afterMark cs with
  | case1 rest => exact .inr ⟨[], by simp, rfl⟩
  | case2 c rest notHere ih =>
    -- a mark cannot begin at this character, neither in the whole text nor in a part of it
    have further {text : List Char} (part : text <+: rest) (markless : ¬ ['*', '/'] <:+: text) :
        ¬ ['*', '/'] <:+: c :: text := by
      intro mark
      rcases List.infix_cons_iff.mp mark with ⟨more, here⟩ | mark
      · obtain ⟨rfl, rfl⟩ := List.cons.inj here
        obtain ⟨behind, rfl⟩ := part
        exact notHere _ rfl rfl
      · exact markless mark
    rcases ih with ⟨markless, nothing⟩ | ⟨text, markless, split⟩
    · exact .inl ⟨further (List.prefix_refl _) markless, nothing⟩
    · exact .inr ⟨c :: text, further ⟨_, split.symm⟩ markless, congrArg (c :: ·) split⟩
  | case3 => exact .inl ⟨by simp, rfl⟩

theorem afterLine_eq_nil {text : List Char} (inLine : '\n' ∉ text) : afterLine text = [] := by
  rcases afterLine_cases text with ⟨-, nothing⟩ | ⟨comment, -, split⟩
  · exact nothing
  · exact absurd (split ▸ List.mem_append_right _ (.head _)) inLine

theorem afterMark_eq_nil {text : List Char} (markless : ¬ ['*', '/'] <:+: text) :
    afterMark text = [] := by
  rcases afterMark_cases text with ⟨-, nothing⟩ | ⟨comment, -, split⟩
  · exact nothing
  · exact absurd ⟨comment, _, by simpa using split.symm⟩ markless

theorem drops_line (text : List Char) : Drops ('-' :: '-' :: text) (afterLine text) := by
  rcases afterLine_cases text with ⟨inLine, nothing⟩ | ⟨comment, inLine, split⟩
  · rw [nothing]
    exact .lastLine inLine
  · generalize afterLine text = rest at split
    subst split
    exact .line inLine

theorem drops_block (text : List Char) :
    Drops ('/' :: '*' :: text) (afterMark ('*' :: text)) := by
  rcases afterMark_cases ('*' :: text) with ⟨markless, nothing⟩ | ⟨comment, markless, split⟩
  · rw [nothing]
    exact .unfinished markless
  · generalize afterMark ('*' :: text) = rest at split
    cases comment with
    | nil =>
      obtain ⟨-, rfl⟩ := List.cons.inj split
      exact .slash
    | cons star comment =>
      obtain ⟨rfl, rfl⟩ := List.cons.inj split
      exact .block markless

namespace Drops

theorem length_lt (drops : Drops cs rest) : rest.length < cs.length := by
  cases drops <;> simp <;> omega

theorem stripComments_eq (drops : Drops cs rest) : stripComments cs = stripComments rest := by
  cases drops with
  | blank isBlank => exact stripComments_blanks (List.forall_mem_singleton.mpr isBlank)
  | line inLine =>
    exact stripComments_line.trans (congrArg stripComments (afterLine_append inLine _))
  | lastLine inLine =>
    exact stripComments_line.trans (congrArg stripComments (afterLine_eq_nil inLine))
  | block open' =>
    exact stripComments_block.trans (congrArg stripComments (afterMark_append open' _))
  | slash => exact stripComments_block
  | unfinished open' =>
    exact stripComments_block.trans (congrArg stripComments (afterMark_eq_nil open'))

end Drops

-- ---------------------------------------------------------------------------
-- Bare texts
-- ---------------------------------------------------------------------------

theorem isBare_iff : IsBare cs ↔ ∀ rest, ¬ Drops cs rest := by
  constructor
  · rintro ⟨blank, line, block⟩ rest drops
    cases drops with
    | blank isBlank => exact absurd isBlank (by simp [blank _ rfl])
    | line | lastLine => exact line ⟨_, rfl⟩
    | block | slash | unfinished => exact block ⟨_, rfl⟩
  · intro stuck
    constructor
    · intro c first
      obtain ⟨rest, rfl⟩ := List.head?_eq_some_iff.mp first
      exact Bool.eq_false_iff.mpr fun isBlank => stuck _ (.blank isBlank)
    · rintro ⟨rest, rfl⟩
      exact stuck _ (drops_line rest)
    · rintro ⟨rest, rfl⟩
      exact stuck _ (drops_block rest)

theorem isBare_stripComments (cs : List Char) : IsBare (stripComments cs) := by
  fun_induction stripComments cs with
  | case1 cs rest _ ih => exact ih
  | case2 cs rest _ ih => exact ih
  | case3 cs line block =>
    constructor
    · intro c first
      exact Text.eq_false_of_head?_dropWhile first
    · rintro ⟨rest, split⟩
      exact line rest split.symm
    · rintro ⟨rest, split⟩
      exact block rest split.symm

-- ---------------------------------------------------------------------------
-- All steps
-- ---------------------------------------------------------------------------

open Relation (ReflTransGen)

theorem reaches_trimLeft (cs : List Char) : ReflTransGen Drops cs (Text.trimLeft cs) := by
  induction cs with
  | nil => exact .refl
  | cons c cs ih =>
    by_cases isBlank : Text.isBlank c = true
    · rw [Text.trimLeft, List.dropWhile_cons_of_pos isBlank]
      exact .head (.blank isBlank) ih
    · rw [Text.trimLeft, List.dropWhile_cons_of_neg isBlank]

theorem reaches_stripComments (cs : List Char) : ReflTransGen Drops cs (stripComments cs) := by
  fun_induction stripComments cs with
  | case1 cs rest trimmed ih =>
    exact (trimmed ▸ reaches_trimLeft cs).trans (.head (drops_line rest) ih)
  | case2 cs rest trimmed ih =>
    exact (trimmed ▸ reaches_trimLeft cs).trans (.head (drops_block rest) ih)
  | case3 cs _ _ => exact reaches_trimLeft cs

theorem stripComments_of_reaches (reaches : ReflTransGen Drops cs rest) :
    stripComments cs = stripComments rest := by
  induction reaches with
  | refl => rfl
  | tail _ drops ih => exact ih.trans drops.stripComments_eq

theorem IsBare.stripComments_eq (bare : IsBare cs) : stripComments cs = cs := by
  rcases (reaches_stripComments cs).cases_head with same | ⟨rest, drops, -⟩
  · exact same.symm
  · exact absurd drops (isBare_iff.mp bare rest)

theorem reaches_isBare_iff : ReflTransGen Drops cs rest ∧ IsBare rest ↔ rest = stripComments cs := by
  constructor
  · rintro ⟨reaches, bare⟩
    rw [stripComments_of_reaches reaches, bare.stripComments_eq]
  · rintro rfl
    exact ⟨reaches_stripComments cs, isBare_stripComments cs⟩

theorem length_le_of_isChain {path : List (List Char)} (chain : (cs :: path).IsChain Drops) :
    path.length ≤ cs.length := by
  induction path generalizing cs with
  | nil => exact Nat.zero_le _
  | cons rest path ih =>
    obtain ⟨drops, chain⟩ := List.isChain_cons_cons.mp chain
    exact Nat.succ_le_of_lt (Nat.lt_of_le_of_lt (ih chain) drops.length_lt)

/-- From whichever text blanks and comments are taken off, this ends after no more steps than the
text has characters, and there is one bare text to end with: the body. It is an end of the text, and
the body of itself. -/
theorem body_isBare (sql : String) :
    (∀ path, (sql.toList :: path).IsChain Drops → path.length ≤ sql.length) ∧
      (∀ cs, ReflTransGen Drops sql.toList cs ∧ IsBare cs ↔ cs = (body sql).toList) ∧
      (body sql).toList <:+ sql.toList ∧ IsBare (body sql).toList ∧ body (body sql) = body sql := by
  have left : (body sql).toList = stripComments sql.toList := String.toList_ofList
  have again : body (body sql) = body sql := by
    rw [body, left, (isBare_stripComments _).stripComments_eq, body]
  rw [left]
  exact ⟨fun path chain => length_le_of_isChain chain, fun cs => reaches_isBare_iff,
    stripComments_suffix _, isBare_stripComments _, again⟩

end Flowline.Sql

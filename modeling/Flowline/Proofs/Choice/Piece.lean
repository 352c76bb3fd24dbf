import Flowline.Condition.Evaluation
import Flowline.Proofs.Condition.Spelling

/-!
# Written choices

A condition can be a tree of calls `if(test,yes,no)` over plain values, with spaces between them.
Written down it is a row of pieces, and what may stand next to what in such a row is all that the
spelling and the cutting into tokens have to know of the tree.

A call that is the test of another one stands directly behind an opening parenthesis, unless a
space comes first. The spelling knows a call by the character before it, and takes that parenthesis
for part of the outer call; so here such a space is asked for.
-/

namespace Flowline.Condition

-- ---------------------------------------------------------------------------
-- Plain values
-- ---------------------------------------------------------------------------

/-- A decimal integer: groups of digits that single underscores join, without leading zeros unless
it is zero, and no longer than integers may be. -/
structure Numeral where
  first : List Char
  more : List (List Char)
  given : first ≠ []
  digits : ∀ group ∈ first :: more, ∀ c ∈ group, Text.isDigit c = true
  grouped : ∀ group ∈ more, group ≠ []
  plain : first.head? = some '0' → ∀ c ∈ first ++ more.flatten, c = '0'
  short : (first ++ more.flatten).length ≤ 4300

def Numeral.source (n : Numeral) : List Char := n.first ++ n.more.flatMap ('_' :: ·)

def Numeral.value (n : Numeral) : Int := Text.ofDigits (n.first ++ n.more.flatten)

/-- A text of printable ASCII characters between quotes, without quotes and backslashes in it. -/
structure Quotation where
  quote : Char
  body : List Char
  quoted : Spelling.IsQuote quote
  printable : ∀ c ∈ body, 32 ≤ c.toNat ∧ c.toNat ≤ 126
  plain : ∀ c ∈ body, ¬ Spelling.IsQuote c ∧ c ≠ '\\'

def Quotation.source (q : Quotation) : List Char := q.quote :: (q.body ++ [q.quote])

inductive Leaf where
  | number (n : Numeral)
  | truth (b : Bool)
  | text (q : Quotation)

namespace Leaf

def source : Leaf → List Char
  | .number n => n.source
  | .truth b => if b then "true".toList else "false".toList
  | .text q => q.source

def value : Leaf → Value
  | .number n => .int n.value
  | .truth b => .bool b
  | .text q => .text (String.ofList q.body)

def IsText : Leaf → Prop
  | .text _ => True
  | _ => False

end Leaf

-- ---------------------------------------------------------------------------
-- Choices
-- ---------------------------------------------------------------------------

/-- How many spaces stand before and behind each argument of a call. -/
structure Gaps where
  beforeTest : Nat
  afterTest : Nat
  beforeYes : Nat
  afterYes : Nat
  beforeNo : Nat
  afterNo : Nat

inductive Choice where
  | leaf (l : Leaf)
  | call (gaps : Gaps) (test yes no : Choice)

inductive Piece where
  | opening
  | leaf (l : Leaf)
  | space
  | comma
  | closing

def Piece.source : Piece → List Char
  | .opening => "if(".toList
  | .leaf l => l.source
  | .space => [' ']
  | .comma => [',']
  | .closing => [')']

def Piece.spaces (n : Nat) (rest : List Piece) : List Piece := .replicate n .space ++ rest

namespace Choice

/-- The pieces of a choice from left to right, and behind them the rest. -/
def pieces : Choice → (rest : List Piece) → List Piece
  | .leaf l, rest => .leaf l :: rest
  | .call gaps test yes no, rest =>
    .opening :: Piece.spaces gaps.beforeTest (test.pieces (Piece.spaces gaps.afterTest (.comma ::
      Piece.spaces gaps.beforeYes (yes.pieces (Piece.spaces gaps.afterYes (.comma ::
        Piece.spaces gaps.beforeNo (no.pieces (Piece.spaces gaps.afterNo (.closing :: rest)))))))))

def source (t : Choice) : List Char := (t.pieces []).flatMap Piece.source

def value : Choice → Value
  | .leaf l => l.value
  | .call _ test yes no => if test.value.truthy then yes.value else no.value

def depth : Choice → Nat
  | .leaf _ => 0
  | .call _ test yes no => max test.depth (max yes.depth no.depth) + 1

def IsCall : Choice → Prop
  | .leaf _ => False
  | .call .. => True

/-- A call that is the test of another one has a space before it. -/
def IsSpaced : Choice → Prop
  | .leaf _ => True
  | .call gaps test yes no =>
    (test.IsCall → 0 < gaps.beforeTest) ∧ test.IsSpaced ∧ yes.IsSpaced ∧ no.IsSpaced

def IsShort : Choice → Prop
  | .leaf (.text q) => q.body.length ≤ maxLength
  | .leaf _ => True
  | .call _ test yes no => test.IsShort ∧ yes.IsShort ∧ no.IsShort

end Choice

theorem length_le_length_flatMap {f : α → List β} {xs : List α} (given : ∀ x ∈ xs, f x ≠ []) :
    xs.length ≤ (xs.flatMap f).length := by
  induction xs with
  | nil => exact Nat.le_refl 0
  | cons x xs ih =>
    obtain ⟨here, further⟩ := List.forall_mem_cons.mp given
    have first := List.length_pos_iff.mpr here
    have others := ih further
    simp only [List.flatMap_cons, List.length_append, List.length_cons]
    omega

-- ---------------------------------------------------------------------------
-- Rows of pieces
-- ---------------------------------------------------------------------------

namespace Piece

/-- What the last piece was: one behind which everything may come, the opening of a call, behind
which no other one may come, or one that ends a value. -/
inductive Last where
  | gap
  | opening
  | value
  deriving DecidableEq

def Follow : Last → List Piece → Prop
  | _, [] => True
  | last, .opening :: rest => last = .gap ∧ Follow .opening rest
  | last, .leaf _ :: rest => last ≠ .value ∧ Follow .value rest
  | _, .space :: rest | _, .comma :: rest => Follow .gap rest
  | _, .closing :: rest => Follow .value rest

/-- What is open when the pieces begin is closed by them, and never more than `limit` calls are
open. -/
def Balanced (limit : Nat) : (level : Nat) → List Piece → Prop
  | level, [] => level = 0
  | level, .opening :: rest => level < limit ∧ Balanced limit (level + 1) rest
  | level, .closing :: rest => 0 < level ∧ Balanced limit (level - 1) rest
  | level, .leaf _ :: rest | level, .space :: rest | level, .comma :: rest =>
    Balanced limit level rest

variable {last : Last} {rest : List Piece} {limit level : Nat}

theorem Follow.left {ps : List Piece} (follow : Follow last (ps ++ rest)) : Follow last ps := by
  induction ps generalizing last with
  | nil => trivial
  | cons p ps ih =>
    cases p with
    | opening => exact ⟨follow.1, ih follow.2⟩
    | leaf l => exact ⟨follow.1, ih follow.2⟩
    | space | comma => exact @ih .gap follow
    | closing => exact @ih .value follow

theorem Follow.right {ps : List Piece} (follow : Follow last (ps ++ rest)) :
    ∃ last, Follow last rest := by
  induction ps generalizing last with
  | nil => exact ⟨last, follow⟩
  | cons p ps ih =>
    cases p with
    | opening => exact ih follow.2
    | leaf l => exact ih follow.2
    | space | comma => exact @ih .gap follow
    | closing => exact @ih .value follow

theorem head?_ne_opening (apart : last ≠ .gap) (follow : Follow last rest) :
    rest.head? ≠ some .opening := by
  intro opens
  cases rest with
  | nil => cases opens
  | cons p rest =>
    cases opens
    exact apart follow.1

theorem follow_spaces {n : Nat} (given : 0 < n) (after : Follow .gap rest) :
    Follow last (spaces n rest) := by
  induction n generalizing last with
  | zero => cases given
  | succ n ih =>
    cases n with
    | zero => exact after
    | succ n => exact @ih .gap (Nat.succ_pos n)

theorem follow_spaces_of_forall (n : Nat) (after : ∀ last, Follow last rest) :
    Follow last (spaces n rest) := by
  cases n with
  | zero => exact after last
  | succ n => exact follow_spaces (Nat.succ_pos n) (after .gap)

theorem balanced_spaces (n : Nat) (after : Balanced limit level rest) :
    Balanced limit level (spaces n rest) := by
  induction n with
  | zero => exact after
  | succ n ih => exact ih

end Piece

namespace Choice

open Piece

variable {last : Last} {rest : List Piece} {limit level : Nat}

theorem follow_pieces (t : Choice) (spaced : t.IsSpaced) (free : last ≠ .value)
    (call : t.IsCall → last = .gap) (after : ∀ last, Follow last rest) :
    Follow last (t.pieces rest) := by
  induction t generalizing last rest with
  | leaf l => exact ⟨free, after .value⟩
  | call gaps test yes no ihTest ihYes ihNo =>
    obtain ⟨space, spacedTest, spacedYes, spacedNo⟩ := spaced
    -- behind a comma everything may stand, with spaces or without
    have argument (t : Choice) {n : Nat} {rest : List Piece}
        (follow : Follow .gap (t.pieces rest)) (last : Last) :
        Follow last (.comma :: spaces n (t.pieces rest)) := by
      cases n with
      | zero => exact follow
      | succ n => exact follow_spaces (Nat.succ_pos n) follow
    have closes (last : Last) : Follow last (spaces gaps.afterNo (.closing :: rest)) :=
      follow_spaces_of_forall _ fun _ => after .value
    have behindYes (last : Last) : Follow last (spaces gaps.afterYes _) :=
      follow_spaces_of_forall _
        (argument no (n := gaps.beforeNo) (ihNo spacedNo nofun (fun _ => rfl) closes))
    have behindTest (last : Last) : Follow last (spaces gaps.afterTest _) :=
      follow_spaces_of_forall _
        (argument yes (n := gaps.beforeYes) (ihYes spacedYes nofun (fun _ => rfl) behindYes))
    refine ⟨call trivial, ?_⟩
    by_cases gap : 0 < gaps.beforeTest
    · exact follow_spaces gap (ihTest spacedTest nofun (fun _ => rfl) behindTest)
    · obtain none : gaps.beforeTest = 0 := Nat.eq_zero_of_not_pos gap
      rw [none]
      exact ihTest spacedTest nofun (fun isCall => absurd (space isCall) gap) behindTest

theorem balanced_pieces (t : Choice) (room : level + t.depth ≤ limit)
    (after : Balanced limit level rest) : Balanced limit level (t.pieces rest) := by
  induction t generalizing level rest with
  | leaf l => exact after
  | call gaps test yes no ihTest ihYes ihNo =>
    have deep : level + 1 + max test.depth (max yes.depth no.depth) ≤ limit := by
      simp only [depth] at room
      omega
    have closes : Balanced limit (level + 1) (spaces gaps.afterNo (.closing :: rest)) :=
      balanced_spaces _ ⟨Nat.succ_pos level, after⟩
    have behindYes : Balanced limit (level + 1) (.comma :: spaces gaps.beforeNo _) :=
      balanced_spaces gaps.beforeNo (ihNo (by omega) closes)
    have behindTest : Balanced limit (level + 1) (.comma :: spaces gaps.beforeYes _) :=
      balanced_spaces gaps.beforeYes (ihYes (by omega) (balanced_spaces gaps.afterYes behindYes))
    exact ⟨by omega,
      balanced_spaces _ (ihTest (by omega) (balanced_spaces gaps.afterTest behindTest))⟩

end Choice

end Flowline.Condition

import Flowline.Text.Blank
import Flowline.Text.Case

/-!
# SQL statements

What can be told from a statement's text: where it begins behind comments, whether it produces
rows, and whether it may run. Comments do not nest, and an unfinished one takes the rest of the
text.
-/

namespace Flowline.Sql

def afterLine : List Char → List Char
  | [] => []
  | c :: rest => if c = '\n' then rest else afterLine rest

def afterMark : List Char → List Char
  | '*' :: '/' :: rest => rest
  | _ :: rest => afterMark rest
  | [] => []

theorem afterLine_suffix (cs : List Char) : afterLine cs <:+ cs := by
  induction cs with
  | nil => exact List.suffix_refl _
  | cons c rest ih =>
    simp only [afterLine]
    split
    · exact List.suffix_cons c rest
    · exact ih.trans (List.suffix_cons c rest)

theorem afterMark_suffix (cs : List Char) : afterMark cs <:+ cs := by
  fun_induction afterMark cs with
  | case1 rest => exact (List.suffix_cons '/' rest).trans (List.suffix_cons '*' _)
  | case2 c rest _ ih => exact ih.trans (List.suffix_cons c rest)
  | case3 => exact List.suffix_refl _

/-- Drops blanks and comments at the front. The end mark of a comment may share its star with the
opening mark. -/
def stripComments (cs : List Char) : List Char :=
  match _h : Text.trimLeft cs with
  | '-' :: '-' :: rest => stripComments (afterLine rest)
  | '/' :: '*' :: rest => stripComments (afterMark ('*' :: rest))
  | stripped => stripped
termination_by cs.length
decreasing_by
  · have h₁ := (List.dropWhile_sublist Text.isBlank (l := cs)).length_le
    have h₂ := (afterLine_suffix rest).length_le
    simp only [Text.trimLeft] at _h
    simp only [_h, List.length_cons] at h₁
    omega
  · have h₁ := (List.dropWhile_sublist Text.isBlank (l := cs)).length_le
    have h₂ := (afterMark_suffix ('*' :: rest)).length_le
    simp only [Text.trimLeft] at _h
    simp only [_h, List.length_cons] at h₁ h₂
    omega

theorem stripComments_suffix (cs : List Char) : stripComments cs <:+ cs := by
  fun_induction stripComments cs with
  | case1 cs rest h ih =>
    have trimmed : '-' :: '-' :: rest <:+ cs := h ▸ List.dropWhile_suffix Text.isBlank
    exact ih.trans <| (afterLine_suffix rest).trans <|
      (List.suffix_cons '-' rest).trans <| (List.suffix_cons '-' _).trans trimmed
  | case2 cs rest h ih =>
    have trimmed : '/' :: '*' :: rest <:+ cs := h ▸ List.dropWhile_suffix Text.isBlank
    exact ih.trans <| (afterMark_suffix _).trans <| (List.suffix_cons '/' _).trans trimmed
  | case3 cs _ _ => exact List.dropWhile_suffix Text.isBlank

def body (sql : String) : String := String.ofList (stripComments sql.toList)

def queryWords : List String := ["SELECT", "WITH", "SHOW", "EXPLAIN"]

/-- Whether the statement produces rows, rather than a count of rows: it opens with a query word,
in any case, up to the first blank. -/
def isQuery (sql : String) : Bool :=
  let first := (stripComments sql.toList).takeWhile (!Text.isBlank ·)
  !first.isEmpty && queryWords.contains (Text.upper (String.ofList first))

def forbiddenWords : List String :=
  ["INSERT", "UPDATE", "DELETE", "DROP", "ALTER", "CREATE", "TRUNCATE", "EXEC", "EXECUTE"]

def afterWord? : (word text : List Char) → Option (List Char)
  | [], text => some text
  | _ :: _, [] => none
  | letter :: word, c :: text =>
    if Text.sameLetter letter c then afterWord? word text else none

def startsWithWordChar : List Char → Bool
  | [] => false
  | c :: _ => Text.isWord c

/-- Whether a word stands alone somewhere, in any case; `inside` says that a word character
precedes the text. -/
def holdsWordFrom (word : List Char) (inside : Bool) (text : List Char) : Bool :=
  let here := !inside && match afterWord? word text with
    | some rest => !startsWithWordChar rest
    | none => false
  match text with
  | [] => here
  | c :: rest => here || holdsWordFrom word (Text.isWord c) rest

def holdsWord (word text : String) : Bool := holdsWordFrom word.toList false text.toList

inductive Refusal where
  | blank
  | forbidden (word : String)
  deriving DecidableEq, Repr

def Refusal.message : Refusal → String
  | .blank => "No SQL statement to execute."
  | .forbidden word => "Query contains forbidden keyword: " ++ word
    ++ ". Data-modifying statements are not allowed in read-only mode."

/-- The refusal of a statement, if it is not to be run: the first forbidden word of the list counts.
-/
def refusal? (readOnly : Bool) (sql : String) : Option Refusal :=
  if Text.isBlankText sql then some .blank
  else if readOnly then (forbiddenWords.find? (holdsWord · sql)).map .forbidden
  else none

end Flowline.Sql

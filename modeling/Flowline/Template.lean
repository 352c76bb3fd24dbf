import Flowline.Json.Writer
import Flowline.Text.Blank
import Flowline.Text.Word

/-!
# Templates

A template is text with slots such as `{{key}}`. It is split once, from the left, and each slot
whose key is known is replaced by the text of its value; the text put in is never looked at again.
-/

namespace Flowline

namespace Value

/-- The text a value has inside a template: nothing for null, compact JSON for a list or record. -/
def inlineText : Value → String
  | .null => ""
  | .list items => String.ofList (Json.write .compact (.list items))
  | .record fields => String.ofList (Json.write .compact (.record fields))
  | v => v.display

def inline? (v : Value) : Option String := if v.fits then some v.inlineText else none

end Value

namespace Template

/-- A piece of a template: one character, or a slot with the characters it was written as. -/
inductive Piece where
  | char (c : Char)
  | slot (key : List Char) (source : List Char)
  deriving DecidableEq, Repr

def Piece.source : Piece → List Char
  | .char c => [c]
  | .slot _ source => source

/-- The key and length of the slot at the front of a text, if there is one: two braces, a word,
two braces, with blanks around the word. -/
def slot? (cs : List Char) : Option (List Char × Nat) :=
  match cs with
  | '\x7b' :: '\x7b' :: rest =>
    let lead := rest.takeWhile Text.isBlank
    let word := rest.dropWhile Text.isBlank
    let key := word.takeWhile Text.isWord
    let after := word.dropWhile Text.isWord
    let trail := after.takeWhile Text.isBlank
    match after.dropWhile Text.isBlank with
    | '\x7d' :: '\x7d' :: _ =>
      if key.isEmpty then none else some (key, lead.length + key.length + trail.length + 4)
    | _ => none
  | _ => none

theorem slot?_pos {cs key : List Char} {n : Nat} (h : slot? cs = some (key, n)) : 0 < n := by
  unfold slot? at h
  split at h
  · dsimp only at h
    split at h
    · split at h
      · cases h
      · cases h; omega
    · cases h
  · cases h

def pieces (cs : List Char) : List Piece :=
  match cs with
  | [] => []
  | c :: rest =>
    match _h : slot? (c :: rest) with
    | some (key, n) => .slot key ((c :: rest).take n) :: pieces ((c :: rest).drop n)
    | none => .char c :: pieces rest
termination_by cs.length
decreasing_by
  · have := slot?_pos _h
    simp only [List.length_drop, List.length_cons]; omega
  · simp

/-- Nothing of a template is lost in its pieces. -/
theorem source_pieces (cs : List Char) : (pieces cs).flatMap Piece.source = cs := by
  fun_induction pieces cs with
  | case1 => rfl
  | case2 c rest key n h ih => simp [Piece.source, ih]
  | case3 c rest h ih => simp [Piece.source, ih]

def Piece.fill? (lookup : String → Option Value) : Piece → Option (List Char)
  | .char c => some [c]
  | .slot key source =>
    match lookup (String.ofList key) with
    | some v => v.inline?.map String.toList
    | none => some source

/-- The template with its known slots filled; nothing if a value has no text. -/
def fill? (lookup : String → Option Value) (template : String) : Option String :=
  ((pieces template.toList).mapM (Piece.fill? lookup)).map fun parts => String.ofList parts.flatten

end Template

end Flowline

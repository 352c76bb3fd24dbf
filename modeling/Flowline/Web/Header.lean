import Flowline.Text.Part
import Flowline.Value

/-!
# Requests and their headers

An outbound request as a node describes it, with its headers in a block. A block has one header a
line, `name: value`. Both sides are trimmed; a line without a colon or without a name is left out.
Of two headers of one name the later counts, at the place of the first.
-/

namespace Flowline.Web

abbrev Headers := Fields String

structure Request where
  method : String
  url : String
  headers : Headers := []
  body : Option String := none
  deriving DecidableEq, Repr

def header? (line : List Char) : Option (String × String) := do
  let (name, value) ← Text.cut? ':' line
  let name := Text.trimBoth name
  if name.isEmpty then none else some (String.ofList name, String.ofList (Text.trimBoth value))

def parseHeaders (block : String) : Headers :=
  ((Text.lines block).filterMap header?).foldl
    (fun headers entry => Fields.put headers entry.1 entry.2) []

def renderHeaders (headers : List (String × String)) : String :=
  "\n".intercalate (headers.map fun entry => entry.1 ++ ": " ++ entry.2)

end Flowline.Web

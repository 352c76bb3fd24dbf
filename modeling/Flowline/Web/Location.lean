import Flowline.Text.Ranges
import Flowline.Text.Word
import Flowline.Web.Host

/-!
# Locations

The first parts of an address: its scheme and the network location between `//` and the path. An
address may be any text; only a location with wrong brackets, or with a character that stands for
one of the marks between the parts, is refused.
-/

namespace Flowline.Web

structure Location where
  scheme : String
  host : String
  deriving DecidableEq, Repr

def isSchemeChar (c : Char) : Bool :=
  Text.isAsciiLetter c || Text.isDigit c || c == '+' || c == '-' || c == '.'

def splitScheme (cs : List Char) : List Char × List Char :=
  match Text.cut? ':' cs with
  | some (scheme, rest) =>
    if (scheme.head?.map Text.isAsciiLetter).getD false && scheme.all isSchemeChar then
      (scheme.map Text.lowerAscii, rest)
    else ([], cs)
  | none => ([], cs)

def endsHost (c : Char) : Bool := c == '/' || c == '?' || c == '#'

def networkLocation : List Char → List Char
  | '/' :: '/' :: rest => rest.takeWhile (!endsHost ·)
  | _ => []

/-- Characters that stand for a mark such as `/` or `@`, alone or with others. -/
def markLikeRanges : Text.Ranges :=
  Text.Ranges.ofText "2047-2049 2100-2101 2105-2106 2a74 fe13 fe16 fe55-fe56 fe5f fe6b ff03 ff0f
ff1a ff1f-ff20"

def hasGoodBrackets (host : List Char) : Bool :=
  match host.contains '[', host.contains ']' with
  | false, false => true
  | true, true =>
    isBracketedHost (((host.dropWhile (· != '[')).drop 1).takeWhile (· != ']'))
  | _, _ => false

def isSkipped (c : Char) : Bool := c == '\t' || c == '\r' || c == '\n'

namespace Location

def ofChars? (cs : List Char) : Option Location :=
  let cs := (cs.dropWhile (·.toNat ≤ 32)).filter (!isSkipped ·)
  let (scheme, rest) := splitScheme cs
  let host := networkLocation rest
  if hasGoodBrackets host && !host.any fun c => markLikeRanges.contains c.toNat then
    some ⟨String.ofList scheme, String.ofList host⟩
  else none

def ofText? (s : String) : Option Location := ofChars? s.toList

end Location

end Flowline.Web

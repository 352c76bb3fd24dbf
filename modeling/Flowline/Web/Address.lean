import Flowline.Fault
import Flowline.Decimal.Reading
import Flowline.Web.Host
import Flowline.Web.Percent
import Flowline.Web.Punycode

/-!
# Addresses

An outbound address in the form in which it is sent: scheme and host in small letters, without the
number that the scheme has by default, without dot segments, and with the characters that may not
stand in a part written as octets behind percent signs.
An address without a scheme or a host is taken for a path.
-/

namespace Flowline.Web

structure Address where
  scheme : String := ""
  userInfo : String := ""
  host : String := ""
  portNumber : Option Int := none
  path : String := ""
  query : Option String := none
  fragment : Option String := none
  deriving DecidableEq, Repr

namespace Address

def maxLength : Nat := 65536

/-! ## Writing -/

/-- The host of an address and the number behind it, with brackets around a host that has colons. -/
def location (address : Address) : String :=
  (if address.host.toList.contains ':' then "[" ++ address.host ++ "]" else address.host)
    ++ match address.portNumber with
      | some number => ":" ++ toString number
      | none => ""

def authority (address : Address) : String :=
  (if address.userInfo.isEmpty then "" else address.userInfo ++ "@") ++ address.location

def text (address : Address) : String :=
  let authority := address.authority
  (if address.scheme.isEmpty then "" else address.scheme ++ ":")
    ++ (if authority.isEmpty then "" else "//" ++ authority)
    ++ address.path
    ++ (match address.query with
      | some query => "?" ++ query
      | none => "")
    ++ match address.fragment with
      | some fragment => "#" ++ fragment
      | none => ""

/-! ## Characters that may stand in a part -/

def isPlainBut (others : String) (c : Char) : Bool :=
  0x20 ≤ c.toNat && c.toNat < 0x7F && !others.toList.contains c

def isFragmentSafe : Char → Bool := isPlainBut " \"<>\x60"

def isQuerySafe : Char → Bool := isPlainBut " \"#<>"

def isPathSafe : Char → Bool := isPlainBut " \"#<>?\x60\x7b\x7d"

def isUserSafe : Char → Bool := isPlainBut " \"#<>?\x60\x7b\x7d/;=@[\\]^|"

def isHostSafe (c : Char) : Bool := "!$&'()*+,;=\"\x60\x7b\x7d%|\\".toList.contains c

def quoteText (safe : Char → Bool) (cs : List Char) : String :=
  String.ofList (Percent.encode safe cs)

/-! ## Reading -/

structure Parts where
  scheme : List Char
  authority : List Char
  path : List Char
  query : Option (List Char)
  fragment : Option (List Char)

def isSchemeRest (c : Char) : Bool :=
  Text.isAsciiLetter c || Text.isDigit c || c == '+' || c == '.' || c == '-'

/-- A scheme and what follows its colon; also a colon alone counts as an empty scheme. -/
def splitScheme (cs : List Char) : List Char × List Char :=
  match Text.cut? ':' cs with
  | some (scheme, rest) =>
    let starts := (scheme.head?.map Text.isAsciiLetter).getD true
    if starts && scheme.all isSchemeRest then (scheme, rest) else ([], cs)
  | none => ([], cs)

def splitAtMark (mark : Char) (cs : List Char) : List Char × Option (List Char) :=
  match Text.cut? mark cs with
  | some (before, behind) => (before, some behind)
  | none => (cs, none)

def endsAuthority (c : Char) : Bool := c == '/' || c == '?' || c == '#'

def splitParts (cs : List Char) : Parts :=
  let (scheme, rest) := splitScheme cs
  let (authority, rest) := match rest with
    | '/' :: '/' :: rest => (rest.takeWhile (!endsAuthority ·), rest.dropWhile (!endsAuthority ·))
    | _ => ([], rest)
  let (rest, fragment) := splitAtMark '#' rest
  let (path, query) := splitAtMark '?' rest
  ⟨scheme, authority, path, query, fragment⟩

def cutLast? (separator : Char) (cs : List Char) : Option (List Char × List Char) :=
  (Text.cut? separator cs.reverse).map fun (behind, before) => (before.reverse, behind.reverse)

/-- A host and what is written behind it as a number. A host may stand between brackets. -/
def splitHost (cs : List Char) : List Char × List Char :=
  match cs.head?, cutLast? ']' cs with
  | some '[', some (before, behind) => (before ++ [']'], dropColon behind)
  | _, _ =>
    match Text.cut? ':' cs with
    | some (host, number) => (host, number)
    | none => (cs, [])
where
  dropColon : List Char → List Char
    | ':' :: rest => rest
    | rest => rest

/-- Where a match of four numbers with any one character between them stands: how many numbers
are still to come, and whether the current one has begun. -/
abbrev Quad := Nat × Bool

def quadNext (c : Char) (quad : Quad) : List Quad :=
  let (left, begun) := quad
  (if Text.isDigit c then [(left, true)] else [])
    ++ if begun && 0 < left then [(left - 1, false)] else []

def looksNumeric (host : List Char) : Bool :=
  let ends := host.foldl (fun quads c => (quads.flatMap (quadNext c)).eraseDups) [(3, false)]
  ends.contains (0, true)

def readHost? (host : List Char) : Option String :=
  if host.isEmpty then some ""
  else if looksNumeric host then
    if isDottedHost host then some (String.ofList host) else none
  else if host.head? = some '[' && host.getLast? = some ']' && 1 < host.length then
    let inner := (host.drop 1).dropLast
    if isZonedHost inner then some (String.ofList inner) else none
  else
    let lowered := (Text.lower (String.ofList host)).toList
    if host.all (·.toNat < 128) then some (quoteText isHostSafe lowered)
    else (Punycode.host? lowered).map String.ofList

def defaultPorts : List (String × Int) :=
  [("ftp", 21), ("http", 80), ("https", 443), ("ws", 80), ("wss", 443)]

/-- The number behind a host unless it is the scheme's own; nothing if it is no integer. -/
def readPortNumber? (scheme cs : List Char) : Option (Option Int) :=
  if cs.isEmpty then some none
  else (Text.readInteger? (String.ofList cs)).map fun n =>
    if defaultPorts.lookup (String.ofList scheme) = some n then none else some n

/-- A path without `.` segments, and with `..` segments carried out. -/
def dropDots (path : List Char) : List Char :=
  let segments := path.splitOn '/'
  let kept := segments.foldl (fun kept segment =>
    if segment = ['.'] then kept
    else if segment = ['.', '.'] then (if kept = [[]] then kept else kept.dropLast)
    else kept ++ [segment]) []
  if segments.any fun segment => segment = ['.'] || segment = ['.', '.'] then
    (kept.intersperse ['/']).flatten
  else path

def isPathFor (hasScheme hasAuthority : Bool) (path : List Char) : Bool :=
  if hasAuthority then path.isEmpty || path.head? == some '/'
  else hasScheme || !(path.take 2 == ['/', '/'] || path.head? == some ':')

def isControl (c : Char) : Bool := c.toNat < 0x20 || c.toNat == 0x7F

def readParts (parts : Parts) : Except Fault Address :=
  -- a host cannot hold an at sign, but a password can
  let (userInfo, location) := (cutLast? '@' parts.authority).getD ([], parts.authority)
  let (host, number) := splitHost location
  let malformed : Except Fault Address := .error (.unsendable .address)
  if !Text.isWellFormed (String.ofList userInfo) then .error .unencodable
  else match readHost? host, readPortNumber? parts.scheme number with
    | some host, some portNumber =>
      let hasScheme := !parts.scheme.isEmpty
      let hasAuthority := !userInfo.isEmpty || !host.isEmpty || portNumber.isSome
      if !isPathFor hasScheme hasAuthority parts.path then malformed
      else
        let path := if hasScheme || hasAuthority then dropDots parts.path else parts.path
        let rest := path ++ parts.query.getD [] ++ parts.fragment.getD []
        if !Text.isWellFormed (String.ofList rest) then .error .unencodable
        else .ok {
          scheme := String.ofList (parts.scheme.map Text.lowerAscii)
          userInfo := quoteText isUserSafe userInfo
          host, portNumber
          path := quoteText isPathSafe path
          query := parts.query.map (quoteText isQuerySafe)
          fragment := parts.fragment.map (quoteText isFragmentSafe) }
    | _, _ => malformed

/-- Reads an address. It is malformed if it is too long or holds a control character. -/
def ofText (s : String) : Except Fault Address :=
  if maxLength < s.length || s.toList.any isControl then .error (.unsendable .address)
  else readParts (splitParts s.toList)

def isAbsolute (address : Address) : Bool := !address.scheme.isEmpty && !address.host.isEmpty

def rooted (address : Address) : Address :=
  if address.isAbsolute then address
  else
    { path := "/" ++ String.ofList (address.path.toList.dropWhile (· == '/'))
      query := address.query }

end Address

end Flowline.Web

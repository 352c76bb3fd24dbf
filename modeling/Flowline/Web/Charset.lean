import Flowline.Text.Case
import Flowline.Text.Part
import Flowline.Text.Utf16
import Flowline.Text.Utf8

/-!
# Character sets

The character set that a content type names, and the text of octets in it. Octets without a meaning
become the replacement character.
-/

namespace Flowline.Web

inductive Charset where
  | utf8
  | utf8Marked
  | latin1
  | ascii
  | windows1252
  | latin9
  /-- 16-bit units; without an order, a leading mark gives it. -/
  | utf16 (order : Option Text.ByteOrder)
  deriving DecidableEq, Repr

namespace Charset

def isNameChar (c : Char) : Bool := Text.isAsciiLetter c || Text.isDigit c || c == '.'

/-- The words of a name in lower case with underscores between them; no other mark counts. -/
def cleanName (name : List Char) : String :=
  "_".intercalate (((name.splitOnP (!isNameChar ·)).filter (!·.isEmpty)).map fun word =>
    String.ofList (word.map Text.lowerAscii))

def names : List (Charset × List String) :=
  [(.utf8, ["utf_8", "utf8", "u8", "utf", "utf8_ucs2", "utf8_ucs4", "cp65001"]),
   (.utf8Marked, ["utf_8_sig"]),
   (.latin1, ["latin_1", "latin1", "latin", "l1", "iso_8859_1", "iso8859_1", "iso8859", "8859",
     "cp819", "csisolatin1", "ibm819", "iso_8859_1_1987", "iso_ir_100"]),
   (.ascii, ["ascii", "us_ascii", "646", "ansi_x3.4_1968", "ansi_x3_4_1968", "ansi_x3.4_1986",
     "cp367", "csascii", "ibm367", "iso646_us", "iso_646.irv_1991", "iso_ir_6", "us"]),
   (.windows1252, ["cp1252", "1252", "windows_1252"]),
   (.latin9, ["iso8859_15", "iso_8859_15", "latin9", "l9"]),
   (.utf16 none, ["utf_16", "utf16", "u16"]),
   (.utf16 (some .little), ["utf_16_le", "utf_16le", "unicodelittleunmarked"]),
   (.utf16 (some .big), ["utf_16_be", "utf_16be", "unicodebigunmarked"])]

def ofName? (name : List Char) : Option Charset :=
  (names.find? fun entry => entry.2.contains (cleanName name)).map (·.1)

/-- The parts of a content type between semicolons outside of quotes. A quote behind a backslash is
no quote. -/
def splitParts : (quoted : Bool) → List Char → List Char → List (List Char)
  | _, current, [] => [current.reverse]
  | quoted, current, '\\' :: '"' :: rest => splitParts quoted ('"' :: '\\' :: current) rest
  | quoted, current, c :: rest =>
    if c = ';' && !quoted then current.reverse :: splitParts false [] rest
    else splitParts (if c = '"' then !quoted else quoted) (c :: current) rest

def parameter (part : List Char) : String × List Char :=
  let (name, value) := (Text.cut? '=' part).getD (part, [])
  (Text.lower (String.ofList (Text.trimBoth name)), value)

def named? (contentType : String) : Option (List Char) :=
  ((splitParts false [] contentType.toList).map parameter).lookup "charset"

/-- The character set of a content type; UTF-8 unless a known one is named. -/
def ofContentType (contentType : Option String) : Charset :=
  ((contentType.bind named?).bind ofName?).getD utf8

/-! ## Reading -/

def windowsUpper : List Nat :=
  [0x20AC, 0, 0x201A, 0x192, 0x201E, 0x2026, 0x2020, 0x2021, 0x2C6, 0x2030, 0x160, 0x2039, 0x152,
   0, 0x17D, 0, 0, 0x2018, 0x2019, 0x201C, 0x201D, 0x2022, 0x2013, 0x2014, 0x2DC, 0x2122, 0x161,
   0x203A, 0x153, 0, 0x17E, 0x178]

def windowsChar (b : Nat) : Char :=
  if 0x80 ≤ b && b < 0xA0 then
    match windowsUpper.getD (b - 0x80) 0 with
    | 0 => Text.replacement
    | n => Char.ofNat n
  else Char.ofNat b

def latin9Changes : List (Nat × Nat) :=
  [(0xA4, 0x20AC), (0xA6, 0x160), (0xA8, 0x161), (0xB4, 0x17D), (0xB8, 0x17E), (0xBC, 0x152),
   (0xBD, 0x153), (0xBE, 0x178)]

def latin9Char (b : Nat) : Char := Char.ofNat ((latin9Changes.lookup b).getD b)

/-- The 16-bit units of octets; a last octet alone is a unit that means nothing. -/
def units (order : Text.ByteOrder) : List UInt8 → List (Option Nat)
  | [] => []
  | [_] => [none]
  | a :: b :: rest => some (Text.Utf16.unit order a b) :: units order rest

open Text.Utf16 (isHigh isLow)

def ofUnits : List (Option Nat) → List Char
  | [] => []
  | none :: rest => Text.replacement :: ofUnits rest
  | [some n] => [if isHigh n || isLow n then Text.replacement else Char.ofNat n]
  | some n :: none :: rest =>
    if isHigh n then Text.replacement :: ofUnits rest
    else (if isLow n then Text.replacement else Char.ofNat n) :: ofUnits (none :: rest)
  | some n :: some m :: rest =>
    if isHigh n && isLow m then Char.ofNat (Text.joinHalves n m) :: ofUnits rest
    else if isHigh n || isLow n then Text.replacement :: ofUnits (some m :: rest)
    else Char.ofNat n :: ofUnits (some m :: rest)

def splitMark : List UInt8 → Text.ByteOrder × List UInt8
  | 0xFF :: 0xFE :: rest => (.little, rest)
  | 0xFE :: 0xFF :: rest => (.big, rest)
  | octets => (.little, octets)

def decode (charset : Charset) (octets : List UInt8) : List Char :=
  match charset with
  | utf8 => Text.Utf8.decode octets
  | utf8Marked =>
    match octets with
    | 0xEF :: 0xBB :: 0xBF :: rest => Text.Utf8.decode rest
    | _ => Text.Utf8.decode octets
  | latin1 => octets.map fun b => Char.ofNat b.toNat
  | ascii => octets.map fun b => if b < 0x80 then Char.ofNat b.toNat else Text.replacement
  | windows1252 => octets.map fun b => windowsChar b.toNat
  | latin9 => octets.map fun b => latin9Char b.toNat
  | utf16 (some order) => ofUnits (units order octets)
  | utf16 none =>
    let (order, rest) := splitMark octets
    ofUnits (units order rest)

end Charset

end Flowline.Web

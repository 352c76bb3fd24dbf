/-!
# Surrogate halves

An escape such as `\ud83d` can spell half of a surrogate pair on its own. A half is no character,
so text carries it as a stand-in: one of 2048 code points of a plane that has no characters, in the
order of the halves. Such text has no UTF-8 form.
-/

namespace Flowline.Text

def halfBase : Nat := 0xDD800

def isHalfUnit (unit : Nat) : Bool := 0xD800 ≤ unit && unit < 0xE000

/-- The character of a code point, a stand-in if it is half of a pair. -/
def ofUnit (unit : Nat) : Char :=
  if isHalfUnit unit then Char.ofNat (halfBase + (unit - 0xD800)) else Char.ofNat unit

def half? (c : Char) : Option Nat :=
  if halfBase ≤ c.toNat && c.toNat < halfBase + 0x800 then some (c.toNat - halfBase + 0xD800)
  else none

/-- A character, or half of a surrogate pair on its own. -/
inductive CodePoint where
  | char (c : Char)
  | half (unit : Nat)
  deriving DecidableEq, Repr

/-- What a character of a text means: the half that it carries, or else itself. -/
def CodePoint.ofChar (c : Char) : CodePoint :=
  match half? c with
  | some unit => .half unit
  | none => .char c

def codePoint (c : Char) : Nat := (half? c).getD c.toNat

def isHalf (c : Char) : Bool := (half? c).isSome

/-- Whether a text has a UTF-8 form. -/
def isWellFormed (s : String) : Bool := !s.toList.any isHalf

def joinHalves (high low : Nat) : Nat := 0x10000 + (high - 0xD800) * 0x400 + (low - 0xDC00)

end Flowline.Text

import Flowline.Act
import Flowline.Text.Utf16

/-!
# Access tokens

A connection can be opened with an access token. The driver takes the token as octets: the number
of octets that follow, in four octets with the lowest first, and then the text in 16-bit units,
again with the lower octet first.
-/

namespace Flowline.Sql

def littleEndian : (count : Nat) → Nat → List UInt8
  | 0, _ => []
  | count + 1, n => UInt8.ofNat (n % 256) :: littleEndian count (n / 256)

/-- The text of a token, in which halves of surrogate pairs may stand on their own. -/
abbrev Token := List Text.CodePoint

/-- A text as a token; a stand-in is the half that it carries. -/
def Token.ofText (s : String) : Token := s.toList.map Text.CodePoint.ofChar

instance : Coe String Token := ⟨Token.ofText⟩

/-- The octets of a token in 16-bit units, from a position on. A half on its own has none. -/
def encode16 (position : Nat) : Token → Except Fault (List UInt8)
  | [] => .ok []
  | .char c :: rest =>
    (encode16 (position + 1) rest).map ((Text.Utf16.units c).flatMap (littleEndian 2) ++ ·)
  | .half unit :: _ => .error (.halfPair position unit)

def tooManyOctets : Fault :=
  .reported "error" "'I' format requires 0 <= number <= 4294967295"

def tokenOctets (token : Token) : Except Fault (List UInt8) := do
  let octets ← encode16 0 token
  if octets.length ≤ 4294967295 then return littleEndian 4 octets.length ++ octets
  else throw tooManyOctets

structure Identity (σ : Type) where
  /-- Takes up an identity: that of a client, or the one of the system. -/
  assume : Option String → Act σ Unit
  token : (scope : String) → Act σ Token

def databaseScope : String := "https://database.windows.net/.default"

def clientName? (client : Option String) : Option String := client.filter (!·.isEmpty)

def accessToken (identity : Identity σ) (client : Option String) : Act σ (List UInt8) := do
  identity.assume (clientName? client)
  let token ← identity.token databaseScope
  Act.ofExcept (tokenOctets token)

end Flowline.Sql

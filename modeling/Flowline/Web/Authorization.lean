import Flowline.Web.Address
import Flowline.Web.Header

/-!
# Authorization

An address may hold a name and a password. They are sent in a header, joined by a colon and written
with 64 digits: three octets become four digits, and the last digits are filled up with equals
signs.
-/

namespace Flowline.Web

def digit64 (n : Nat) : Char :=
  if n < 26 then Char.ofNat (65 + n)
  else if n < 52 then Char.ofNat (71 + n)
  else if n < 62 then Char.ofNat (n - 4)
  else if n = 62 then '+' else '/'

def digits64 (a b c : UInt8) : List Char :=
  let n := a.toNat * 0x10000 + b.toNat * 0x100 + c.toNat
  [digit64 (n / 0x40000), digit64 (n / 0x1000 % 64), digit64 (n / 64 % 64), digit64 (n % 64)]

def encode64 : List UInt8 → List Char
  | [] => []
  | [a] => (digits64 a 0 0).take 2 ++ ['=', '=']
  | [a, b] => (digits64 a b 0).take 3 ++ ['=']
  | a :: b :: c :: rest => digits64 a b c ++ encode64 rest

namespace Address

def credentials? (address : Address) : Option (List Char × List Char) :=
  let (name, password) := match Text.cut? ':' address.userInfo.toList with
    | some (name, password) => (Percent.decode name, Percent.decode password)
    | none => (Percent.decode address.userInfo.toList, [])
  if name.isEmpty && password.isEmpty then none else some (name, password)

def authorization? (address : Address) : Option (String × String) :=
  address.credentials?.map fun (name, password) =>
    let octets := (name ++ ':' :: password).flatMap Text.utf8Char
    ("Authorization", "Basic " ++ String.ofList (encode64 octets))

end Address

namespace Headers

def sameName (a b : String) : Bool :=
  a.toList.map Text.lowerAscii == b.toList.map Text.lowerAscii

def value? (headers : Headers) (name : String) : Option String :=
  match headers.filter fun entry => sameName entry.1 name with
  | [] => none
  | found => some (", ".intercalate (found.map (·.2)))

/-- Sets a header in the place of the first of its name; all others of that name are dropped. -/
def replace (headers : Headers) (entry : String × String) : Headers :=
  match headers with
  | [] => [entry]
  | first :: rest =>
    if sameName first.1 entry.1 then entry :: rest.filter (!sameName ·.1 entry.1)
    else first :: replace rest entry

end Headers

end Flowline.Web

import Flowline.Text.Digit
import Flowline.Text.Part

/-!
# Numeric hosts

Hosts that are written as numbers: four decimal octets, or up to eight groups of hexadecimal
digits, of which one run of zero groups may be left out.
-/

namespace Flowline.Web

def isDecimalOctet (cs : List Char) : Bool :=
  !cs.isEmpty && cs.all Text.isDigit && cs.length ≤ 3 && (cs.length == 1 || cs.head? != some '0')
    && Text.ofDigits cs ≤ 255

def isDottedHost (cs : List Char) : Bool :=
  let parts := cs.splitOn '.'
  parts.length == 4 && parts.all isDecimalOctet

def isHexGroup (cs : List Char) : Bool :=
  !cs.isEmpty && cs.length ≤ 4 && cs.all fun c => (Text.hexValue? c).isSome

/-- Groups on one side of the gap; `outer` is the end that lies at the edge of the host, where an
empty group may stand alone. -/
def sideGroups (outer : List (List Char) → Option (List Char)) (parts : List (List Char)) :
    Option Nat :=
  if outer parts == some [] then (if parts.length = 1 then some 0 else none)
  else if parts.all isHexGroup then some parts.length else none

/-- Groups between colons, of which the last two may be given as four decimal octets. -/
def isColonHost (cs : List Char) : Bool :=
  let parts := cs.splitOn ':'
  let last := parts.getLast?.getD []
  if parts.length < 3 then false
  else if last.contains '.' && !isDottedHost last then false
  else
    let parts := if last.contains '.' then parts.dropLast ++ [['0'], ['0']] else parts
    let inner := (parts.drop 1).dropLast
    if 9 < parts.length then false
    else match inner.filter List.isEmpty with
      | [] => parts.length == 8 && parts.all isHexGroup
      | [_] =>
        let before := inner.takeWhile (!·.isEmpty)
        let gap := 1 + before.length
        match sideGroups List.head? (parts.take gap),
            sideGroups List.getLast? (parts.drop (gap + 1)) with
        | some high, some low => high + low ≤ 7
        | _, _ => false
      | _ => false

def isZonedHost (cs : List Char) : Bool :=
  match Text.cut? '%' cs with
  | some (host, zone) => !zone.isEmpty && !zone.contains '%' && isColonHost host
  | none => isColonHost cs

def isFutureHost (cs : List Char) : Bool :=
  match cs with
  | 'v' :: rest =>
    let version := rest.takeWhile fun c => (Text.hexValue? c).isSome
    match rest.drop version.length with
    | '.' :: more => !version.isEmpty && !more.isEmpty
    | _ => false
  | _ => false

def isBracketedHost (cs : List Char) : Bool :=
  if cs.head? = some 'v' then isFutureHost cs else isZonedHost cs

end Flowline.Web

/-!
# Nesting

How deep the lists and records of a JSON text are nested, without reading it. Brackets inside of
text literals do not count.
-/

namespace Flowline.Json

inductive Region where
  | outside
  | literal
  | escape
  deriving DecidableEq, Repr

def deepest (depth : Nat) : Region → List Char → Nat
  | _, [] => depth
  | .outside, c :: rest =>
    if c = '[' ∨ c = '\x7b' then deepest (depth + 1) .outside rest
    else if c = ']' ∨ c = '\x7d' then max depth (deepest (depth - 1) .outside rest)
    else deepest depth (if c = '"' then .literal else .outside) rest
  | .literal, c :: rest =>
    deepest depth (if c = '\\' then .escape else if c = '"' then .outside else .literal) rest
  | .escape, _ :: rest => deepest depth .literal rest

def nesting (cs : List Char) : Nat := deepest 0 .outside cs

end Flowline.Json

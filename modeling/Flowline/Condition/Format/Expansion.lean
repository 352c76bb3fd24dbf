import Flowline.Condition.Format.Field
import Flowline.Condition.Operation

/-!
# Fields in formats

A format is put behind the colon of a field, and only then the field is read: so a brace in it opens
a field within the format, or closes the field early and leaves a text behind it. The only value
goes to the field itself. Any further one finds none: a field without a name asks for the second
value, one with a name for a value of that name.
-/

namespace Flowline.Condition.Format

/-- Cuts a text at the brace that closes the one in front of it; `depth` more are open. -/
def cutAtBrace : (depth : Nat) → List Char → Option (List Char × List Char)
  | _, [] => none
  | depth, '\x7b' :: rest => (cutAtBrace (depth + 1) rest).map fun (front, after) =>
    ('\x7b' :: front, after)
  | 0, '\x7d' :: rest => some ([], rest)
  | depth + 1, '\x7d' :: rest => (cutAtBrace depth rest).map fun (front, after) =>
    ('\x7d' :: front, after)
  | depth, c :: rest => (cutAtBrace depth rest).map fun (front, after) => (c :: front, after)

def isConversion : List Char → Bool
  | _ :: '\x7d' :: _ => true
  | _ :: ':' :: rest => (cutAtBrace 0 rest).isSome
  | _ => false

/-- The name of a field, if the field is well-formed; `item` says that an index is open. -/
def fieldName? : (item : Bool) → List Char → Option (List Char)
  | _, [] => none
  | true, c :: rest => (fieldName? (c != ']') rest).map (c :: ·)
  | false, '\x7b' :: _ => none
  | false, '\x7d' :: _ => some []
  | false, ':' :: rest => if (cutAtBrace 0 rest).isSome then some [] else none
  | false, '!' :: rest => if isConversion rest then some [] else none
  | false, c :: rest => (fieldName? (c == '[') rest).map (c :: ·)

def missing (cs : List Char) : Error :=
  match fieldName? false cs with
  | none => .refused (.failed .value)
  | some name =>
    match name.takeWhile fun c => c != '.' && c != '[' with
    | [] => .lookup (.position 1)
    | key =>
      -- fields with and without numbers do not go together
      match readCount 0 key with
      | none | some (_, []) => .refused (.failed .value)
      | some (_, _ :: _) => .lookup (.name (String.ofList key))

def literalText : List Char → Except Error (List Char)
  | [] => .ok []
  | '\x7b' :: '\x7b' :: rest => (literalText rest).map ('\x7b' :: ·)
  | '\x7b' :: rest => .error (missing rest)
  | '\x7d' :: '\x7d' :: rest => (literalText rest).map ('\x7d' :: ·)
  | '\x7d' :: _ => .error (.refused (.failed .value))
  | c :: rest => (literalText rest).map (c :: ·)

def field (format : String) (v : Value) : Except Error String :=
  match cutAtBrace 0 (format.toList ++ ['\x7d']) with
  | none => .error (.refused (.failed .value))
  | some (inner, after) => do
    let spec ← literalText inner
    let shown ← refusing (Operation.lift (formatted spec v))
    let more ← literalText after
    return shown ++ String.ofList more

end Flowline.Condition.Format

import Flowline.Graph.Problem
import Flowline.Json.Writer
import Flowline.Service.Request
import Flowline.Text.Utf8

/-!
# Responses of the service

A response is JSON, a list of problems or an event stream. Not every value can be sent as JSON: its
numbers have to be finite and its texts well formed. Byte strings are sent as text. Keys that begin
with `_sa` are left out.
-/

namespace Flowline.Service

/-- The beginning of keys that are not sent. -/
def hiddenMark : String := "_sa"

def isHidden (key : String) : Bool := hiddenMark.toList.isPrefixOf key.toList

namespace Plain

mutual
def ofValue : Value → Except Fault Value
  | .bytes octets =>
    match Text.Utf8.decode? octets with
    | some cs => .ok (.text (String.ofList cs))
    | none => .error .undecodable
  | .complex .. | .ellipsis => .error .noJsonForm
  | .list items => .list <$> ofItems items
  | .record fields => .record <$> ofFields fields
  | .null => .ok .null
  | .bool b => .ok (.bool b)
  | .int n => .ok (.int n)
  | .float x => .ok (.float x)
  | .text s => .ok (.text s)
def ofItems : List Value → Except Fault (List Value)
  | [] => .ok []
  | item :: rest => do
    let item ← ofValue item
    return item :: (← ofItems rest)
def ofFields : List (String × Value) → Except Fault (List (String × Value))
  | [] => .ok []
  | (key, item) :: rest =>
    if isHidden key then ofFields rest
    else do
      let item ← ofValue item
      return (key, item) :: (← ofFields rest)
end

mutual
def isFinite : Value → Bool
  | .float x => x.isFinite
  | .list items => areFinite items
  | .record fields => fieldsFinite fields
  | _ => true
def areFinite : List Value → Bool
  | [] => true
  | item :: rest => isFinite item && areFinite rest
def fieldsFinite : List (String × Value) → Bool
  | [] => true
  | (_, item) :: rest => isFinite item && fieldsFinite rest
end

mutual
def isWellFormed : Value → Bool
  | .text s => Text.isWellFormed s
  | .list items => areWellFormed items
  | .record fields => fieldsWellFormed fields
  | _ => true
def areWellFormed : List Value → Bool
  | [] => true
  | item :: rest => isWellFormed item && areWellFormed rest
def fieldsWellFormed : List (String × Value) → Bool
  | [] => true
  | (key, item) :: rest => Text.isWellFormed key && isWellFormed item && fieldsWellFormed rest
end

end Plain

def sendable (v : Value) : Except Fault Value := do
  let v ← Plain.ofValue v
  if !Plain.isFinite v || !v.fits then throw .noJsonForm
  if !Plain.isWellFormed v then throw .unencodable
  return v

inductive Content where
  | json (body : Value)
  | problems (problems : List Problem)
  | events (frames : List String)

structure Response where
  status : Nat
  content : Content

namespace Response

def mediaType (response : Response) : String :=
  match response.content with
  | .json _ | .problems _ => "application/json"
  | .events _ => eventStream

def cacheControl? (response : Response) : Option String :=
  match response.content with
  | .json _ | .problems _ => none
  | .events _ => some "no-cache"

def json (status : Nat) (body : Value) : Except Fault Response := do
  return ⟨status, .json (← sendable body)⟩

def detail (status : Nat) (text : String) : Response :=
  ⟨status, .json (.record [("detail", .text text)])⟩

def problemValue (problem : Problem) : Value :=
  .record [("msg", .text (problem.message?.getD "")), ("input", problem.found)]

/-- Refuses a submission with all its problems, if what was found can be sent back. -/
def refusal (problems : List Problem) : Except Fault Response := do
  let _ ← sendable (.list (problems.map problemValue))
  return ⟨422, .problems problems⟩

def events (frames : List String) : Except Fault Response :=
  if frames.all Text.isWellFormed then .ok ⟨200, .events frames⟩ else .error .unencodable

end Response

end Flowline.Service

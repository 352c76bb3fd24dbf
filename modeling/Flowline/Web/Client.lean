import Flowline.Act
import Flowline.Value
import Flowline.Web.Authorization
import Flowline.Web.Charset
import Flowline.Web.Header

/-!
# Web clients

A client sends a request once over a transport and gives back the status and the text of the
answer. An answer that leads on to another address is not followed. A body without a content type
is sent as JSON.
-/

namespace Flowline.Web

structure Sending where
  method : String
  address : Address
  headers : Headers
  body : List UInt8

structure Answer where
  status : Int
  headers : Headers := []
  body : List UInt8 := []

structure Transport (σ : Type) where
  send : Sending → Act σ Answer

def Transport.recorded (note : Sending → σ → σ) (transport : Transport σ) : Transport σ where
  send sending := fun world => transport.send sending (note sending world)

namespace Client

def contentTypeName : String := "content-type"

def areAscii (headers : Headers) : Bool :=
  headers.all fun entry => (entry.1.toList ++ entry.2.toList).all (·.toNat < 128)

/-- The headers of a request with a body: it is JSON unless they say otherwise. -/
def typed (headers : Headers) : Headers :=
  if headers.any fun entry => Text.lower entry.1 == contentTypeName then headers
  else Fields.put headers "Content-Type" "application/json"

def readBody (request : Request) : Except Fault (List UInt8 × Headers) :=
  match request.body.filter (!·.isEmpty) with
  | none => .ok ([], request.headers)
  | some body =>
    match Text.utf8? body with
    | some octets => .ok (octets, typed request.headers)
    | none => .error .unencodable

/-- A request as it is to be sent. Of several faults that of the body counts first, then that of
the address. -/
def prepare (request : Request) : Except Fault Sending := do
  let (body, headers) ← readBody request
  let address := (← Address.ofText request.url).rooted
  if !areAscii headers then throw .unencodable
  return {
    method := Text.upper request.method
    address
    headers := match address.authorization? with
      | some entry => Headers.replace headers entry
      | none => headers
    body }

def leadsOn (status : Int) : Bool :=
  status == 301 || status == 302 || status == 303 || status == 307 || status == 308

/-- What makes an answer unusable: nobody can be asked again at an address that is not absolute, or
at a malformed one. -/
def check (sending : Sending) (answer : Answer) : Except Fault Unit :=
  if !sending.address.isAbsolute then .error (.unsendable .relative)
  else match Headers.value? answer.headers "location" with
    | some location =>
      match leadsOn answer.status, Address.ofText location with
      | true, .error _ => .error (.unsendable .redirect)
      | _, _ => .ok ()
    | none => .ok ()

end Client

def Answer.text (answer : Answer) : String :=
  let contentType := Headers.value? answer.headers Client.contentTypeName
  String.ofList ((Charset.ofContentType contentType).decode answer.body)

def Answer.toValue (answer : Answer) : Value :=
  .record [("statusCode", .int answer.status), ("content", .text answer.text)]

def Transport.call (transport : Transport σ) (request : Request) : Act σ Value := do
  let sending ← Act.ofExcept (Client.prepare request)
  let answer ← transport.send sending
  Act.ofExcept (Client.check sending answer)
  return answer.toValue

end Flowline.Web

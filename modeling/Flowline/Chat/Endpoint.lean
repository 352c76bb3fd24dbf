import Flowline.Fault
import Flowline.Text.Case
import Flowline.Web.Location

/-!
# Chat endpoints

The base address of a chat service as it is configured becomes one with a scheme, without slashes
at the end, and with `/v1` behind it, unless it is a resource of Azure.
-/

namespace Flowline.Chat

structure Endpoint where
  url : String
  azure : Bool
  deriving DecidableEq, Repr

namespace Endpoint

def azureHost : String := "openai.azure.com"

def isComplete (location : Web.Location) : Bool :=
  (location.scheme == "http" || location.scheme == "https") && !location.host.isEmpty

def locate (address : String) : Except Fault Web.Location :=
  match Web.Location.ofText? address with
  | some location => .ok location
  | none => .error .malformedAddress

/-- An address with a scheme; one that is not complete is taken for a host. -/
def complete (raw address : String) : Except Fault String := do
  if isComplete (← locate address) then return address
  let completed := "https://" ++ String.ofList (address.toList.dropWhile (· == '/'))
  if (← locate completed).host.isEmpty then
    throw (.configuration ("Invalid AI base URL: " ++ raw))
  return completed

def dropSlashes (address : String) : String :=
  String.ofList (Text.dropEnd (· == '/') address.toList)

def ofBase (base : String) : Endpoint :=
  if Text.hasPart (Text.lower base) azureHost then ⟨base, true⟩
  else if (Text.lower base).endsWith "/v1" then ⟨base, false⟩
  else ⟨base ++ "/v1", false⟩

def ofText (raw : String) : Except Fault Endpoint := do
  let address := Text.trim raw
  if address.isEmpty then throw (.configuration "AI base URL is not configured")
  if Text.hasPart address "$\x7b" then
    throw (.configuration "AI base URL contains an unresolved placeholder")
  return ofBase (dropSlashes (← complete raw address))

end Endpoint

end Flowline.Chat

import Flowline.Chat.Endpoint
import Flowline.Value

/-!
# Chat exchanges

One question to a chat model: a system prompt, a user prompt and the settings of the model. What a
node gives replaces what the service has by default. A temperature is passed on as it is given.
-/

namespace Flowline.Chat

structure Defaults where
  baseUrl : String := ""
  apiKey : String := ""
  model : String := "gpt-4o-mini"
  temperature : Value := .float 0.2

/-- What a node sets; an empty text sets nothing. -/
structure Overrides where
  baseUrl : Option String := none
  apiKey : Option String := none
  model : Option String := none
  temperature : Option Value := none

structure Model where
  endpoint : Endpoint
  apiKey : String
  name : String
  temperature : Value

structure Exchange where
  model : Model
  system : String
  user : String

def orElseText (first : Option String) (second : String) : String :=
  match first with
  | some s => if s.isEmpty then second else s
  | none => second

def missingCredentials : String :=
  "Missing AI credentials: configure a base URL and API key, or override them on the node."

def Model.resolve (defaults : Defaults) (overrides : Overrides) : Except Fault Model := do
  let apiKey := Text.trim (orElseText overrides.apiKey defaults.apiKey)
  let base := orElseText overrides.baseUrl defaults.baseUrl
  if Text.isBlankText base || apiKey.isEmpty then throw (.configuration missingCredentials)
  let endpoint ← Endpoint.ofText base
  return {
    endpoint, apiKey
    name := orElseText overrides.model defaults.model
    temperature := overrides.temperature.getD defaults.temperature }

end Flowline.Chat

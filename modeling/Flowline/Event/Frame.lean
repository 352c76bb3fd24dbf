import Flowline.Json.Writer

/-!
# Events

An event has a payload and perhaps a name. Its frame in an event stream is a line for the name, a
line for the payload as JSON, and an empty line. JSON is written without line feeds, so that one
line holds the payload.
-/

namespace Flowline

structure Event where
  name : Option String := none
  payload : Value

namespace Event

def nameLine : Option String → List Char
  | some name => if name.isEmpty then [] else ("event: " ++ name ++ "\n").toList
  | none => []

def frameText (event : Event) : String :=
  String.ofList (nameLine event.name ++ "data: ".toList ++ Json.write .spaced event.payload
    ++ ['\n', '\n'])

/-- The frame of an event, unless an integer in it has no text. -/
def frame? (event : Event) : Option String :=
  if event.payload.fits then some event.frameText else none

end Event

end Flowline

import Flowline.Fault
import Flowline.Template

/-!
# Contexts

The values that templates see during a run. Two names are reserved: `input` is what reaches the
current node, and `output` is the final output once there is one. Every other name is the id of a
node that has run; a node may have a reserved name as its id and is then hidden by the reserved
value, as soon as that is there.
-/

namespace Flowline

/-- Null in a reserved place means that nothing is there yet. -/
structure Context where
  input : Value := .null
  output : Value := .null
  perNode : Fields Value := []

namespace Context

def inputName : String := "input"

def outputName : String := "output"

/-- The value of a key. A node that produced null has a value, namely null. -/
def lookup? (context : Context) (key : String) : Option Value :=
  if key = inputName && !context.input.isNull then some context.input
  else if key = outputName && !context.output.isNull then some context.output
  else Fields.find? context.perNode key

def toFields (context : Context) : Fields Value :=
  let opening := if context.input.isNull then [] else [(inputName, context.input)]
  let fields := Fields.merge opening context.perNode
  if context.output.isNull then fields else Fields.put fields outputName context.output

/-- A template with its known keys filled; a fault if a value has no text. -/
def fill (context : Context) (template : String) : Except Fault String :=
  match Template.fill? context.lookup? template with
  | some text => .ok text
  | none => .error .integerTooLong

end Context

end Flowline

import Flowline.Fault
import Flowline.Text.Blank
import Flowline.Text.Case
import Flowline.Value.Display

/-!
# Kinds of nodes

A node names its kind in its data or, failing that, in its type. A name that is none of the known
ones, in any letter case, makes a custom node.
-/

namespace Flowline

inductive Kind where
  | start
  | output
  | llm
  | dbQuery
  | apiCall
  | condition
  | custom
  deriving DecidableEq, Repr

namespace Kind

def all : List Kind := [start, output, llm, dbQuery, apiCall, condition, custom]

def name : Kind → String
  | start => "start"
  | output => "output"
  | llm => "llm"
  | dbQuery => "dbQuery"
  | apiCall => "apiCall"
  | condition => "condition"
  | custom => "custom"

def ofName? (name : String) : Option Kind := all.find? (·.name == name)

/-- The kind with this name in any letter case. -/
def ofName (name : String) : Kind :=
  (all.find? fun kind => Text.lower kind.name == Text.lower name).getD custom

inductive NameFault where
  | notText
  | integerTooLong
  deriving DecidableEq, Repr

/-- A name without blanks around it; a blank one stands for a custom kind. -/
def cleanName (name : String) : String :=
  if Text.isBlankText name then custom.name else Text.trim name

def typeName : Value → Except NameFault String
  | .null => .ok custom.name
  | .text name => .ok (cleanName name)
  | _ => .error .notText

/-- The name of a node's kind: the data's `kind` wins over the type. -/
def resolveName (type : Value) (data : Fields Value) : Except NameFault String :=
  match Fields.find? data "kind" with
  | none | some .null => typeName type
  | some v => if v.fits then .ok (cleanName v.display) else .error .integerTooLong

theorem ofName?_name (kind : Kind) : ofName? kind.name = some kind := by
  cases kind <;> rfl

end Kind

end Flowline

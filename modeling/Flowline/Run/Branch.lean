import Flowline.Graph.Index
import Flowline.Text.Blank
import Flowline.Text.Case

/-!
# Branches

Which node follows another. A condition with two edges or more takes its second edge when its
output means no; every other node takes its first edge. An edge to an id that is no node leads
nowhere.
-/

namespace Flowline

/-- What a text means as a decision: the words `true` and `false`, and else yes unless blank. -/
def textDecides (s : String) : Bool :=
  let word := Text.lower (Text.trim s)
  if word = "false" then false else !word.isEmpty

/-- What the output of a condition means as a decision. Neither null nor a collection means yes. -/
def Value.decides : Value → Bool
  | .bool b => b
  | .text s => textDecides s
  | .int n => n != 0
  | .float x => !(x == 0)
  | _ => false

def stepBudget (nodeCount : Nat) : Nat := max 1 (2 * nodeCount)

def chooseTarget (kind : Kind) (output : Value) : List String → Option String
  | [] => none
  | [target] => some target
  | first :: second :: _ =>
    if kind == .condition && !output.decides then some second else some first

def Index.next? (index : Index) (node : Node) (output : Value) : Option Node :=
  (chooseTarget node.kind output (index.successors node.id)).bind index.node?

end Flowline

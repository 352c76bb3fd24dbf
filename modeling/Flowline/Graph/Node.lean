import Flowline.Graph.Kind

/-!
# Nodes and graphs

A node's free-form data is resolved once, when the graph is loaded, into the configuration of its
kind. Edges may name nodes that are not there. The nodes of a graph have different ids.
-/

namespace Flowline

structure LlmConfig where
  systemPrompt : String := ""
  userPrompt : String := ""
  baseUrl : Option String := none
  apiKey : Option String := none
  model : Option String := none
  temperature : Option Float := none

structure ApiConfig where
  url : String := ""
  method : String := "GET"
  headers : String := ""
  body : String := ""

inductive Config where
  | start
  | output
  | llm (settings : LlmConfig)
  | dbQuery (query : String)
  | apiCall (request : ApiConfig)
  | condition (expression : String)
  | custom (name : String) (raw : Fields Value)

def Config.kind : Config → Kind
  | start => .start
  | output => .output
  | llm _ => .llm
  | dbQuery _ => .dbQuery
  | apiCall _ => .apiCall
  | condition _ => .condition
  | custom .. => .custom

structure Node where
  id : String
  type : String := ""
  data : Fields Value := []
  config : Config

namespace Node

def kind (node : Node) : Kind := node.config.kind

def kindName (node : Node) : String :=
  match node.config with
  | .custom name _ => name
  | config => config.kind.name

end Node

structure Edge where
  source : String
  target : String
  deriving DecidableEq, Repr

structure Graph where
  nodes : List Node := []
  edges : List Edge := []
  initialInput : Option String := none
  ids_nodup : (nodes.map Node.id).Nodup := by decide

namespace Graph

def node? (graph : Graph) (id : String) : Option Node := graph.nodes.find? (·.id == id)

end Graph

end Flowline

import Flowline.Decimal.Reading
import Flowline.Graph.Node
import Flowline.Graph.Problem

/-!
# Loading graphs

A submitted value becomes a graph, or is refused with all its problems. Texts are taken from values
of any kind: null counts as empty, and every other value as its plain text. A configuration that is
given outright is taken instead of the data.
-/

namespace Flowline

def Value.readText : Value → Loaded String
  | .null => .accepted ""
  | v =>
    if v.fits then .accepted v.display
    else Loaded.problem (.refused Fault.integerTooLong.text) v

/-- A setting that replaces another; a blank one does not. -/
def Value.readOverride : Value → Loaded (Option String)
  | .null => .accepted none
  | v => v.readText.map fun s => if Text.isBlankText s then none else some (Text.trim s)

def Value.readTemperature : Value → Loaded (Option Float)
  | .int n =>
    match Double.ofInt n with
    | some x => .accepted (some x)
    | none => .broken .temperatureTooLarge
  | .float x => .accepted (some x)
  | .text s => .accepted (Decimal.read? s)
  | _ => .accepted none

def Value.readMethod (v : Value) : Loaded String :=
  v.readText.map fun s => if Text.isBlankText s then "GET" else Text.upper (Text.trim s)

namespace Loaded

def firstOf? (fields : Fields Value) : List String → Option (String × Value)
  | [] => none
  | key :: rest =>
    match Fields.find? fields key with
    | some v => some (key, v)
    | none => firstOf? fields rest

def field (fields : Fields Value) (names : List String) (default : α) (read : Value → Loaded α) :
    Loaded α :=
  match firstOf? fields names with
  | some (key, v) => (read v).under (.key key)
  | none => .accepted default

def required (fields : Fields Value) (name : String) (read : Value → Loaded α) : Loaded α :=
  match Fields.find? fields name with
  | some v => (read v).under (.key name)
  | none => (problem .missing (.record fields) : Loaded α).under (.key name)

end Loaded

open Loaded (field required)

def Value.readPlainText : Value → Loaded String
  | .text s => .accepted s
  | v => Loaded.problem .notText v

def Value.readRecord : Value → Loaded (Fields Value)
  | .record fields => .accepted fields
  | v => Loaded.problem .notRecord v

namespace Config

def loadLlm (fields : Fields Value) : Loaded LlmConfig :=
  LlmConfig.mk
    <$> field fields ["systemPrompt", "system_prompt"] "" Value.readText
    <*> field fields ["userPrompt", "user_prompt"] "" Value.readText
    <*> field fields ["baseUrl", "base_url"] none Value.readOverride
    <*> field fields ["apiKey", "api_key"] none Value.readOverride
    <*> field fields ["model"] none Value.readOverride
    <*> field fields ["temperature"] none Value.readTemperature

def loadApi (fields : Fields Value) : Loaded ApiConfig :=
  ApiConfig.mk
    <$> field fields ["url"] "" Value.readText
    <*> field fields ["method"] "GET" Value.readMethod
    <*> field fields ["headers"] "" Value.readText
    <*> field fields ["body"] "" Value.readText

def loadAs (kind : Kind) (fields : Fields Value) : Loaded Config :=
  match kind with
  | .start => .accepted .start
  | .output => .accepted .output
  | .llm => llm <$> loadLlm fields
  | .dbQuery => dbQuery <$> field fields ["sqlQuery", "sql_query"] "" Value.readText
  | .apiCall => apiCall <$> loadApi fields
  | .condition => condition <$> field fields ["expression"] "" Value.readText
  | .custom =>
    custom
      <$> field fields ["name"] Kind.custom.name Value.readPlainText
      <*> field fields ["raw"] [] Value.readRecord

/-- A configuration given outright, whose `kind` is the exact name of a kind. -/
def load : Value → Loaded Config
  | .record fields =>
    match Fields.find? fields "kind" with
    | none => Loaded.problem .noTag (.record fields)
    | some (.text name) =>
      match Kind.ofName? name with
      | some kind => (loadAs kind fields).under (.key kind.name)
      | none => Loaded.problem .unknownTag (.record fields)
    | some _ => Loaded.problem .unknownTag (.record fields)
  | v => Loaded.problem .noParts v

def ofData (name : String) (data : Fields Value) : Loaded Config :=
  match Kind.ofName name with
  | .custom => .accepted (.custom name data)
  | kind => (loadAs kind data).under (.key kind.name)

end Config

namespace Node

/-- The data of a node that gives no configuration outright; an empty value counts as none. -/
def loadData (fields : Fields Value) : Loaded (Fields Value) :=
  match (Fields.find? fields "data").getD .null with
  | .record data => .accepted data
  | v =>
    if v.truthy then Loaded.problem (.refused "node data must be an object") (.record fields)
    else .accepted []

def loadName (fields data : Fields Value) : Loaded String :=
  match Kind.resolveName ((Fields.find? fields "type").getD .null) data with
  | .ok name => .accepted name
  | .error .notText => .broken .typeNotText
  | .error .integerTooLong => Loaded.problem (.refused Fault.integerTooLong.text) (.record fields)

def loadFields (fields : Fields Value) (data : Loaded (Fields Value)) (config : Loaded Config) :
    Loaded Node :=
  Node.mk
    <$> required fields "id" Value.readText
    <*> field fields ["type"] "" Value.readText
    <*> data
    <*> config.under (.key "config")

def load : Value → Loaded Node
  | .record fields =>
    match Fields.find? fields "config" with
    -- a configuration that is given outright leaves the data as it is
    | some config =>
      loadFields fields (field fields ["data"] [] Value.readRecord) (Config.load config)
    | none =>
      (loadData fields).andThen fun data =>
        (loadName fields data).andThen fun name =>
          loadFields fields (.accepted data) (Config.ofData name data)
  | v => Loaded.problem .notObject v

end Node

namespace Edge

def load : Value → Loaded Edge
  | .record fields =>
    Edge.mk
      <$> required fields "source" Value.readPlainText
      <*> required fields "target" Value.readPlainText
  | v => Loaded.problem .notObject v

end Edge

namespace Graph

def firstRepeated? (seen : List String) : List String → Option String
  | [] => none
  | s :: rest => if s ∈ seen then some s else firstRepeated? (s :: seen) rest

theorem firstRepeated?_eq_none_iff (seen ids : List String) :
    firstRepeated? seen ids = none ↔ ids.Nodup ∧ ∀ id ∈ ids, id ∉ seen := by
  induction ids generalizing seen with
  | nil => simp [firstRepeated?]
  | cons s rest ih =>
    by_cases h : s ∈ seen
    · simp [firstRepeated?, h]
    · simp only [firstRepeated?, h, if_false, ih, List.nodup_cons, List.mem_cons, not_or]
      grind

structure Population where
  nodes : List Node
  ids_nodup : (nodes.map Node.id).Nodup

def Population.check (found : Value) (nodes : List Node) : Loaded Population :=
  match h : firstRepeated? [] (nodes.map Node.id) with
  | none => .accepted ⟨nodes, ((firstRepeated?_eq_none_iff _ _).1 h).1⟩
  | some id => Loaded.problem (.refused ("Duplicate node id: " ++ id)) found

def readList (read : Value → Loaded α) : Value → Loaded (List α)
  | .list items => Loaded.items read 0 items
  | v => Loaded.problem .notList v

/-- The initial input: null is none, and every other value counts as its plain text. -/
def readInitialInput : Value → Loaded (Option String)
  | .null => .accepted none
  | v => v.readText.map some

def initialInputNames : List String := ["initialInput", "InitialInput", "initial_input"]

def load : Value → Loaded Graph
  | .record fields =>
    (fun population edges input => ⟨population.nodes, edges, input, population.ids_nodup⟩)
      <$> field fields ["nodes"] ⟨[], List.nodup_nil⟩
          (fun v => (readList Node.load v).andThen (Population.check v))
      <*> field fields ["edges"] [] (readList Edge.load)
      <*> field fields initialInputNames none readInitialInput
  | v => Loaded.problem .notObject v

end Graph

end Flowline

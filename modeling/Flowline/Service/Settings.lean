import Flowline.Chat.Client
import Flowline.Run.Services
import Flowline.Service.Setting
import Flowline.Sql.Executor
import Flowline.Web.Client

/-!
# Settings

The settings of the service, each with its default, and the services of runs that they make of what
lies outside: a provider of chat models, a database and a transport. The statements of nodes only
read and make no transaction, whatever the settings are.
-/

namespace Flowline.Service

structure Settings where
  baseUrl : String := ""
  apiKey : String := ""
  model : String := "gpt-4o-mini"
  temperature : Float := 0.2
  apiVersion : String := "2024-06-01"
  connectionString : String := ""
  usesToken : Bool := false
  /-- The client whose identity gets access tokens; without one it is the system's. -/
  client : Option String := none
  maxRows : Int := 1000
  statementTimeout : Int := 30
  callTimeout : Float := 100.0
  logLevel : String := "INFO"
  allowedOrigins : List String :=
    ["http://localhost:3000", "http://127.0.0.1:3000", "http://localhost:5173"]

namespace Settings

def load (environment : Environment) : Loaded Settings :=
  let default : Settings := {}
  let read {α : Type} (name : String) (default : α) (parse : String → Loaded α) : Loaded α :=
    Setting.read environment name default parse
  Settings.mk
    <$> read "openai_base_url" default.baseUrl Setting.readText
    <*> read "openai_api_key" default.apiKey Setting.readText
    <*> read "openai_model" default.model Setting.readText
    <*> read "openai_temperature" default.temperature Setting.readNumber
    <*> read "azure_openai_api_version" default.apiVersion Setting.readText
    <*> read "sql_connection_string" default.connectionString Setting.readText
    <*> read "sql_use_azure_ad" default.usesToken Setting.readTruth
    <*> read "azure_client_id" default.client (fun s => (Setting.readText s).map some)
    <*> read "workflow_db_max_rows" default.maxRows Setting.readInteger
    <*> read "workflow_db_timeout_seconds" default.statementTimeout Setting.readInteger
    <*> read "api_call_timeout_seconds" default.callTimeout Setting.readNumber
    <*> read "log_level" default.logLevel Setting.readText
    <*> read "cors_allowed_origins" default.allowedOrigins
          (Setting.readTexts default.allowedOrigins)

def textOrNull : Option String → Value
  | some s => .text s
  | none => .null

def toFields (settings : Settings) : Fields Value :=
  [("openai_base_url", .text settings.baseUrl),
    ("openai_api_key", .text settings.apiKey),
    ("openai_model", .text settings.model),
    ("openai_temperature", .float settings.temperature),
    ("azure_openai_api_version", .text settings.apiVersion),
    ("sql_connection_string", .text settings.connectionString),
    ("sql_use_azure_ad", .bool settings.usesToken),
    ("azure_client_id", textOrNull settings.client),
    ("workflow_db_max_rows", .int settings.maxRows),
    ("workflow_db_timeout_seconds", .int settings.statementTimeout),
    ("api_call_timeout_seconds", .float settings.callTimeout),
    ("log_level", .text settings.logLevel),
    ("cors_allowed_origins", .list (settings.allowedOrigins.map .text))]

def defaults (settings : Settings) : Chat.Defaults :=
  ⟨settings.baseUrl, settings.apiKey, settings.model, .float settings.temperature⟩

def options (settings : Settings) : Sql.Options where
  readOnly := true
  maxRows := settings.maxRows
  timeout := .whole settings.statementTimeout
  transaction := false

def executor (settings : Settings) : Sql.Executor :=
  ⟨settings.connectionString, settings.usesToken, settings.client⟩

end Settings

/-- What the service reaches outside of itself. -/
structure Outside (σ : Type) where
  provider : Chat.Provider σ
  database : Sql.Database σ
  transport : Web.Transport σ

/-- The services of runs. Nothing is opened until a node calls. -/
def Settings.services (settings : Settings) (outside : Outside σ) : Services σ where
  complete exchange := Chat.Client.complete ⟨settings.apiVersion⟩ outside.provider exchange
  stream exchange := Chat.Client.stream ⟨settings.apiVersion⟩ outside.provider exchange
  query statement options := do
    let envelope ← settings.executor.execute outside.database statement options
    return envelope.toValue
  send request := outside.transport.call request
  evaluate := decideCondition
  defaults := settings.defaults
  options := settings.options

end Flowline.Service

import ChatHost.Json.Display
import ChatHost.Path
import ChatHost.Provider.Basic

/-!
The settings of the host: for each field a value of the field's kind. Files and callers may give a
plain field a value of another type than it should have; such a value is kept as it is.
-/

namespace ChatHost

inductive Field.Kind where
  | text
  | whole
  | real
  | flag
  | path
  | names
  deriving DecidableEq, Repr

/-- The values of a kind. -/
@[reducible]
def Field.Kind.Value : Field.Kind → Type
  | .path => Path
  | .names => List Json
  | _ => Json

/-- The fields, in the order in which they are listed. -/
inductive Field where
  | host
  | port
  | requestTimeout
  | modelsDir
  | startupDelay
  | shutdownTimeout
  | maxRetries
  | retryMinSeconds
  | retryMaxSeconds
  | downloadChunkSize
  | downloadTimeout
  | allowedModelHosts
  | allowedModelExtensions
  | toolTimeout
  | toolClientName
  | toolClientVersion
  | debugLogging
  | logDir
  | logMaxBytes
  | logBackupCount
  deriving DecidableEq, Repr

namespace Field

def all : List Field :=
  [.host, .port, .requestTimeout, .modelsDir, .startupDelay, .shutdownTimeout, .maxRetries,
    .retryMinSeconds, .retryMaxSeconds, .downloadChunkSize, .downloadTimeout, .allowedModelHosts,
    .allowedModelExtensions, .toolTimeout, .toolClientName, .toolClientVersion, .debugLogging,
    .logDir, .logMaxBytes, .logBackupCount]

def name : Field → String
  | .host => "host"
  | .port => "port"
  | .requestTimeout => "request_timeout"
  | .modelsDir => "models_dir"
  | .startupDelay => "startup_delay"
  | .shutdownTimeout => "shutdown_timeout"
  | .maxRetries => "max_retries"
  | .retryMinSeconds => "retry_min_seconds"
  | .retryMaxSeconds => "retry_max_seconds"
  | .downloadChunkSize => "download_chunk_size"
  | .downloadTimeout => "download_timeout"
  | .allowedModelHosts => "allowed_model_hosts"
  | .allowedModelExtensions => "allowed_model_extensions"
  | .toolTimeout => "tool_timeout"
  | .toolClientName => "mcp_client_name"
  | .toolClientVersion => "mcp_client_version"
  | .debugLogging => "debug_logging"
  | .logDir => "log_dir"
  | .logMaxBytes => "log_max_bytes"
  | .logBackupCount => "log_backup_count"

def ofName? (s : String) : Option Field :=
  all.find? fun f => f.name = s

/-- The kind of a field. -/
@[reducible]
def kind : Field → Kind
  | .host | .toolClientName | .toolClientVersion => .text
  | .port | .maxRetries | .downloadChunkSize | .logMaxBytes | .logBackupCount => .whole
  | .requestTimeout | .startupDelay | .shutdownTimeout | .retryMinSeconds | .retryMaxSeconds
  | .downloadTimeout | .toolTimeout => .real
  | .debugLogging => .flag
  | .modelsDir | .logDir => .path
  | .allowedModelHosts | .allowedModelExtensions => .names

end Field

def Settings := (f : Field) → f.kind.Value

namespace Settings

/-- The directory below a home in which the host keeps its files. -/
def baseDir (home : Path) : Path :=
  home.child ".blessnet"

def defaultFile (home : Path) : Path :=
  (baseDir home).child "llm_driver.json"

def standard (home : Path) : Settings
  | .host => Json.str "127.0.0.1"
  | .port => Json.ofInt 8080
  | .requestTimeout => Json.ofReal 30.0
  | .modelsDir => (baseDir home).child "models"
  | .startupDelay => Json.ofReal 1.0
  | .shutdownTimeout => Json.ofReal 10.0
  | .maxRetries => Json.ofInt 3
  | .retryMinSeconds => Json.ofReal 0.5
  | .retryMaxSeconds => Json.ofReal 4.0
  | .downloadChunkSize => Json.ofInt (1024 * 1024)
  | .downloadTimeout => Json.ofReal 60.0
  | .allowedModelHosts => [Json.str "huggingface.co", Json.str "hf.co"]
  | .allowedModelExtensions => [Json.str ".llamafile"]
  | .toolTimeout => Json.ofReal 30.0
  | .toolClientName => Json.str "blessnet-mcp-client"
  | .toolClientVersion => Json.str "1.0.0"
  | .debugLogging => Json.bool false
  | .logDir => (baseDir home).child "logs"
  | .logMaxBytes => Json.ofInt 1000000
  | .logBackupCount => Json.ofInt 3

def modelsDir (s : Settings) : Path :=
  s .modelsDir

def logDir (s : Settings) : Path :=
  s .logDir

def serverConfig (s : Settings) : ServerConfig :=
  ⟨s .host, s .port, s .requestTimeout⟩

end Settings

def Field.Kind.toJson : (k : Field.Kind) → k.Value → Json
  | .path, p => .str p.text
  | .names, xs => .arr xs
  | .text, v | .whole, v | .real, v | .flag, v => v

def Settings.toJson (s : Settings) : Json :=
  .obj (Field.all.map fun f => (f.name, f.kind.toJson (s f)))

end ChatHost

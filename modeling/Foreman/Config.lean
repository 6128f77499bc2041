import Foreman.ControlPlane.Dispatcher
import Foreman.Files
import Foreman.Machine
import Foreman.Runner.Config
import Foreman.Text.Numeral
import Foreman.Toml.Reader

/-!
# Configuration

The settings of the program come from three places, each over the one before: the defaults, a TOML file,
and the environment. A file says as much as it likes; what it does not mention keeps its default. In the
environment every setting has a variable of its own. Texts there count when they are not empty; numbers
are trimmed and must be well formed, and of several that are not the first one, in the order of
`Setting.all`, is reported.
-/

namespace Foreman

/-! ### Settings -/

/-- The settings of the admin API. -/
structure ApiConfig where
  enabled : Bool := true
  port : Nat := 8080
deriving DecidableEq, Repr

/-- The settings of the built-in actions. -/
structure ActionsConfig where
  /-- Who executes slices. -/
  webhookUrl : Option String := none
  webhookTimeoutSeconds : Nat := 30
deriving DecidableEq, Repr

/-- The settings of the program. -/
structure Config where
  /-- Where the database is; without one the store is in memory. -/
  databaseUrl : Option String := none
  /-- The file of the control plane. -/
  stateTablePath : Option String := none
  dispatcher : ControlPlane.DispatcherConfig := {}
  runner : RunnerConfig
  api : ApiConfig := {}
  actions : ActionsConfig := {}
deriving DecidableEq, Repr

/-- Why there is no configuration. -/
inductive ConfigError where
  | unreadable (path : String) (reason : FileError)
  | malformed
  | invalidVariable (key value : String)
deriving DecidableEq, Repr

/-- The wording of an error. -/
def ConfigError.message : ConfigError → String
  | unreadable path reason => s!"failed to read config {path}: {reason.message}"
  | malformed => "invalid config file"
  | invalidVariable key value => s!"invalid value for {key}: {value}"

/-- The variables of the environment. -/
abbrev Environment := String → Option String

/-! ### Record form -/

namespace ApiConfig

/-- The names of the settings, in the order of the record. -/
def fieldNames : List String := ["enabled", "port"]

/-- The settings as a JSON object. -/
def toJson (c : ApiConfig) : Json :=
  .record [("enabled", .bool c.enabled), ("port", .int c.port)]

/-- Reads settings; each that is missing is the default. -/
def ofJson? (v : Json) : Option ApiConfig := do
  let d : ApiConfig := {}
  let f ← v.fields? fieldNames
  some
    { enabled := ← f.defaulted "enabled" Json.bool? d.enabled
      port := ← f.defaulted "port" (fun v ↦ v.unsigned?.filter (· < Machine.limit16)) d.port }

end ApiConfig

namespace ActionsConfig

/-- The names of the settings, in the order of the record. -/
def fieldNames : List String := ["slice_webhook_url", "webhook_timeout_secs"]

/-- The settings as a JSON object. -/
def toJson (c : ActionsConfig) : Json :=
  .record
    [("slice_webhook_url", .ofText? c.webhookUrl),
     ("webhook_timeout_secs", .int c.webhookTimeoutSeconds)]

/-- Reads settings; each that is missing is the default. -/
def ofJson? (v : Json) : Option ActionsConfig := do
  let d : ActionsConfig := {}
  let f ← v.fields? fieldNames
  some
    { webhookUrl := ← f.optional "slice_webhook_url" Json.text?
      webhookTimeoutSeconds :=
        ← f.defaulted "webhook_timeout_secs" Json.unsigned? d.webhookTimeoutSeconds }

end ActionsConfig

namespace Config

/-- The settings as a JSON object. -/
def toJson (c : Config) : Json :=
  .record
    [("database_url", .ofText? c.databaseUrl), ("state_table_path", .ofText? c.stateTablePath),
     ("dispatcher", c.dispatcher.toJson), ("runner", c.runner.toJson), ("api", c.api.toJson),
     ("actions", c.actions.toJson)]

/-! ### Files -/

/-- The settings in a part of a file: a table, or an array of them in the order of the record, whose
further items are ignored. -/
def part? {α : Type} (names : List String) (read : Json → Option α) (v : Json) : Option α :=
  match v with
  | .arr items => read (.arr (items.take names.length))
  | _ => read v

/-- Reads the settings of a file. A worker without a name gets one from the identifier. -/
def ofToml? (fresh : Uuid) (text : String) : Option Config := do
  let f ← (← Toml.ofString? text).fields? []
  some
    { databaseUrl := ← f.optional "database_url" Json.text?
      stateTablePath := ← f.optional "state_table_path" Json.text?
      dispatcher := ← f.defaulted "dispatcher"
        (part? ControlPlane.DispatcherConfig.fieldNames ControlPlane.DispatcherConfig.ofJson?) {}
      runner := ← f.defaulted "runner"
        (part? RunnerConfig.fieldNames (RunnerConfig.ofJson? fresh)) { worker := fresh.workerName }
      api := ← f.defaulted "api" (part? ApiConfig.fieldNames ApiConfig.ofJson?) {}
      actions := ← f.defaulted "actions" (part? ActionsConfig.fieldNames ActionsConfig.ofJson?) {} }

/-- The settings of a text. -/
def ofText? (fresh : Uuid) (text : String) : Except ConfigError Config :=
  match ofToml? fresh text with
  | some c => .ok c
  | none => .error .malformed

/-- The settings of a file. -/
def ofFile? (files : Files) (fresh : Uuid) (path : String) : Except ConfigError Config :=
  match files path with
  | .ok text => ofText? fresh text
  | .error reason => .error (.unreadable path reason)

end Config

/-! ### The environment -/

/-- What a variable of the environment sets. -/
inductive Setting where
  /-- A text, which counts when it is not empty. -/
  | text (key : String) (set : String → Config → Config)
  /-- A number below a limit. -/
  | natural (key : String) (limit : Nat) (set : Nat → Config → Config)
  /-- A number of 64 bits with sign. -/
  | integer (key : String) (set : Int → Config → Config)

namespace Setting

/-- The name of the variable. -/
def key : Setting → String
  | text key _ => key
  | natural key _ _ => key
  | integer key _ => key

/-- Every variable that sets something, in the order in which they are looked at. -/
def all : List Setting :=
  [.text "DATABASE_URL" fun v c ↦ { c with databaseUrl := some v },
   .text "PDCA_STATE_TABLE" fun v c ↦ { c with stateTablePath := some v },
   .text "PDCA_SLICE_WEBHOOK_URL" fun v c ↦
     { c with actions := { c.actions with webhookUrl := some v } },
   .text "PDCA_WORKER_ID" fun v c ↦ { c with runner := { c.runner with worker := v } },
   .natural "PDCA_API_PORT" Machine.limit16 fun n c ↦ { c with api := { c.api with port := n } },
   .natural "PDCA_POLL_INTERVAL_MS" Machine.limit64 fun n c ↦
     { c with runner := { c.runner with pollIntervalMs := n } },
   .natural "PDCA_BATCH_LIMIT" Machine.limit64 fun n c ↦
     { c with runner := { c.runner with batchLimit := n } },
   .integer "PDCA_LEASE_SECONDS" fun n c ↦
     { c with runner := { c.runner with leaseSeconds := n } },
   .integer "PDCA_DISPATCH_COOLDOWN_SECONDS" fun n c ↦
     { c with runner := { c.runner with cooldownSeconds := n } },
   .integer "PDCA_INTERACTIVE_BOOST" fun n c ↦
     { c with runner := { c.runner with interactiveBoost := n } },
   .integer "PDCA_STARVATION_THRESHOLD_SECONDS" fun n c ↦
     { c with runner := { c.runner with starvationSeconds := n } },
   .natural "PDCA_STARVATION_SCAN_LIMIT" Machine.limit64 fun n c ↦
     { c with runner := { c.runner with starvationScanLimit := n } },
   .natural "PDCA_TICK_INTERVAL_MS" Machine.limit64 fun n c ↦
     { c with dispatcher := { c.dispatcher with tickIntervalMs := n } },
   .natural "PDCA_MAX_DEPTH" Machine.limit64 fun n c ↦
     { c with dispatcher := { c.dispatcher with maxDepth := n } }]

/-- Sets what a variable with this value sets. -/
def apply (s : Setting) (value : String) (c : Config) : Except ConfigError Config :=
  let written {α : Type} (set : α → Config → Config) : Option α → Except ConfigError Config
    | some a => .ok (set a c)
    | none => .error (.invalidVariable s.key value)
  match s with
  | text _ set => .ok (if value = "" then c else set value c)
  | natural _ limit set => written set (Text.natural? limit (Text.trim value))
  | integer _ set => written set (Text.integer? (Text.trim value))

end Setting

namespace Config

/-- Puts the variables of an environment over settings. -/
def overridden (env : Environment) (c : Config) : Except ConfigError Config :=
  Setting.all.foldlM (fun c s ↦
    match env s.key with
    | some value => s.apply value c
    | none => .ok c) c

/-- The defaults. -/
def default (fresh : Uuid) : Config :=
  { runner := { worker := fresh.workerName } }

/-- The settings of the environment alone. -/
def ofEnvironment? (env : Environment) (fresh : Uuid) : Except ConfigError Config :=
  (default fresh).overridden env

/-- **Loads the configuration**: from the file of this path, or else of the path in the environment, or
else from the defaults; then the variables. -/
def load? (files : Files) (env : Environment) (fresh : Uuid) (path : Option String) :
    Except ConfigError Config := do
  let c ← match path.or (env "PDCA_CONFIG") with
    | some path => ofFile? files fresh path
    | none => .ok (default fresh)
  c.overridden env

end Config

end Foreman

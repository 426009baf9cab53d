import Voucher.Json.Record
import Voucher.Settings.Basic
import Voucher.Settings.Value

/-!
Reading settings from JSON, which is taken at its word, and from the values of files and variables,
which are read leniently. A section or field that is missing keeps its standard value.
-/
namespace Voucher.Settings

/-- How one kind of value is read. -/
structure Reader (V : Type) where
  /-- The fields of a record, by name; the names are given in the order of an array's items. -/
  record? : List String → V → Option (String → Option V)
  text? : V → Option String
  /-- An unsigned number of 64 bits. -/
  word? : V → Option Nat
  flag? : V → Option Bool
  isNull : V → Bool

namespace Reader

variable {V : Type} (R : Reader V)

/-- A field, or its standard value if it is missing. -/
def field {α : Type} (get : String → Option V) (name : String) (standard : α)
    (read : V → Option α) : Option α :=
  match get name with
  | some v => read v
  | none => some standard

def word16? (v : V) : Option UInt16 :=
  (R.word? v).bind fun n => if n < UInt16.size then some (UInt16.ofNat n) else none

def word32? (v : V) : Option UInt32 :=
  (R.word? v).bind fun n => if n < UInt32.size then some (UInt32.ofNat n) else none

def word64? (v : V) : Option UInt64 := (R.word? v).map UInt64.ofNat

def nullable? (v : V) : Option (Option String) :=
  if R.isNull v then some none else (R.text? v).map some

def server? (v : V) : Option Server := do
  let get ← R.record? ["host", "port"] v
  let d := Server.standard
  let host ← field get "host" d.host R.text?
  let port ← field get "port" d.port R.word16?
  pure ⟨host, port⟩

def database? (v : V) : Option Database := do
  let get ← R.record? ["url", "max_connections", "min_connections", "connect_timeout_seconds",
    "idle_timeout_seconds"] v
  let d := Database.standard
  let url ← field get "url" d.url R.text?
  let maxConnections ← field get "max_connections" d.maxConnections R.word32?
  let minConnections ← field get "min_connections" d.minConnections R.word32?
  let connectTimeout ← field get "connect_timeout_seconds" d.connectTimeout R.word64?
  let idleTimeout ← field get "idle_timeout_seconds" d.idleTimeout R.word64?
  pure ⟨url, maxConnections, minConnections, connectTimeout, idleTimeout⟩

def redis? (v : V) : Option Redis := do
  let get ← R.record? ["url", "pool_size"] v
  let d := Redis.standard
  let url ← field get "url" d.url R.text?
  let poolSize ← field get "pool_size" d.poolSize R.word32?
  pure ⟨url, poolSize⟩

def observability? (v : V) : Option Observability := do
  let get ← R.record? ["service_name", "log_level", "log_format", "metrics_enabled", "metrics_port",
    "tracing_enabled", "tracing_endpoint"] v
  let d := Observability.standard
  let serviceName ← field get "service_name" d.serviceName R.text?
  let logLevel ← field get "log_level" d.logLevel R.text?
  let logFormat ← field get "log_format" d.logFormat R.text?
  let metricsEnabled ← field get "metrics_enabled" d.metricsEnabled R.flag?
  let metricsPort ← field get "metrics_port" d.metricsPort R.word16?
  let tracingEnabled ← field get "tracing_enabled" d.tracingEnabled R.flag?
  let tracingEndpoint ← field get "tracing_endpoint" d.tracingEndpoint R.nullable?
  pure ⟨serviceName, logLevel, logFormat, metricsEnabled, metricsPort, tracingEnabled,
    tracingEndpoint⟩

/-- The validation section, where missing fields keep the values of `d`. -/
def validationOver? (d : Validation) (v : V) : Option Validation := do
  let get ← R.record? ["store_plain_codes", "custom_function_timeout_ms",
    "custom_function_max_steps",
    "lock_lease_ms", "lock_retry_count", "lock_retry_delay_ms", "lock_retry_jitter_ms",
    "project_cache_ttl_seconds"] v
  let storePlainCodes ← field get "store_plain_codes" d.storePlainCodes R.flag?
  let customTimeout ← field get "custom_function_timeout_ms" d.customTimeout R.word64?
  let customMaxSteps ← field get "custom_function_max_steps" d.customMaxSteps R.word64?
  let lockLease ← field get "lock_lease_ms" d.lockLease R.word64?
  let lockRetries ← field get "lock_retry_count" d.lockRetries R.word32?
  let lockPause ← field get "lock_retry_delay_ms" d.lockPause R.word64?
  let lockJitter ← field get "lock_retry_jitter_ms" d.lockJitter R.word64?
  let cacheLife ← field get "project_cache_ttl_seconds" d.cacheLife R.word64?
  pure ⟨storePlainCodes, customTimeout, customMaxSteps, lockLease, lockRetries, lockPause,
    lockJitter, cacheLife⟩

def settings? (v : V) : Option Settings := do
  let get ← R.record? ["service_name", "environment", "server", "database", "redis",
    "observability", "validation"] v
  let d := Settings.standard
  let serviceName ← field get "service_name" d.serviceName R.text?
  let environment ← field get "environment" d.environment R.text?
  let server ← field get "server" d.server R.server?
  let database ← field get "database" d.database R.database?
  let redis ← field get "redis" d.redis R.redis?
  let observability ← field get "observability" d.observability R.observability?
  let validation ← field get "validation" d.validation (R.validationOver? d.validation)
  pure ⟨serviceName, environment, server, database, redis, observability, validation⟩

end Reader

/-- JSON at its word. -/
def jsonReader : Reader Json where
  record? names j := (Record.ofJson? names j).map fun r => r.get?
  text? := Json.asString?
  word? := Json.readNat? UInt64.size
  flag? := Json.asBool?
  isNull
    | .null => true
    | _ => false

def ofJson? (j : Json) : Option Settings := jsonReader.settings? j

namespace Value

/-- The text of a number without exponent, or what it is instead of a number. -/
def doubleText (d : Double) : String :=
  let sign := if d.isNegative then "-" else ""
  if d.field == 2047 then if d.fraction == 0 then sign ++ "inf" else "NaN"
  else if d.isZero then sign ++ "0"
  else sign ++ String.ofList (Decimal.plain d.shortest.1 d.shortest.2)

def text? : Value → Option String
  | flag b => some (if b then "true" else "false")
  | int i => some (Text.decimalString i)
  | float d => some (doubleText d)
  | text s => some s
  | list _ | table _ => none

/-- What a text says as a flag. -/
def saidFlag? (s : String) : Option Bool :=
  let s := s.map Char.toLower
  if s == "true" || s == "on" || s == "yes" then some true
  else if s == "false" || s == "off" || s == "no" then some false
  else none

/-- Digits, after a plus sign or not, of a number of 64 bits. -/
def saidWord? (s : String) : Option Nat :=
  let cs := match s.toList with
    | '+' :: rest => rest
    | cs => cs
  match Text.digits? cs with
  | some (d :: ds) =>
    let n := Text.numeral (d :: ds)
    if n < UInt64.size then some n else none
  | _ => none

/-- A number that is not negative; fractions are rounded, halves away from zero, and what is beyond
64 bits is cut off. -/
def word? : Value → Option Nat
  | flag b => some (if b then 1 else 0)
  | int i => if 0 ≤ i then some i.toNat else none
  | float d => some d.toFloat.round.toUInt64.toNat
  | text s =>
    match saidFlag? s with
    | some b => some (if b then 1 else 0)
    | none => saidWord? s
  | list _ | table _ => none

def flag? : Value → Option Bool
  | flag b => some b
  | int i => some (i != 0)
  | float d => some (!d.isZero)
  | text s => if s == "1" then some true else if s == "0" then some false else saidFlag? s
  | list _ | table _ => none

/-- The fields of a table, or of a list in the order of the names. -/
def record? (names : List String) : Value → Option (String → Option Value)
  | table entries => some fun name => entries.lookup name
  | list items =>
    if items.length ≤ names.length then some fun name => (names.zip items).lookup name else none
  | _ => none

end Value

/-- Values of files and variables. -/
def lenientReader : Reader Value where
  record? := Value.record?
  text? := Value.text?
  word? := Value.word?
  flag? := Value.flag?
  isNull _ := false

def ofValue? (v : Value) : Option Settings := lenientReader.settings? v

end Voucher.Settings

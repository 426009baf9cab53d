import Voucher.Json.Record
import Voucher.Settings.Basic

/-!
Settings as JSON: a record of sections, each with all its fields.
-/
namespace Voucher

namespace Settings

def Server.toJson (s : Server) : Json :=
  .obj [("host", .str s.host), ("port", .ofNat s.port.toNat)]

def Database.toJson (d : Database) : Json :=
  .obj [("url", .str d.url), ("max_connections", .ofNat d.maxConnections.toNat),
    ("min_connections", .ofNat d.minConnections.toNat),
    ("connect_timeout_seconds", .ofUInt64 d.connectTimeout),
    ("idle_timeout_seconds", .ofUInt64 d.idleTimeout)]

def Redis.toJson (r : Redis) : Json :=
  .obj [("url", .str r.url), ("pool_size", .ofNat r.poolSize.toNat)]

def Observability.toJson (o : Observability) : Json :=
  .obj [("service_name", .str o.serviceName), ("log_level", .str o.logLevel),
    ("log_format", .str o.logFormat), ("metrics_enabled", .bool o.metricsEnabled),
    ("metrics_port", .ofNat o.metricsPort.toNat), ("tracing_enabled", .bool o.tracingEnabled),
    ("tracing_endpoint", .ofStringOption o.tracingEndpoint)]

def Validation.toJson (v : Validation) : Json :=
  .obj [("store_plain_codes", .bool v.storePlainCodes),
    ("custom_function_timeout_ms", .ofUInt64 v.customTimeout),
    ("custom_function_max_steps", .ofUInt64 v.customMaxSteps),
    ("lock_lease_ms", .ofUInt64 v.lockLease),
    ("lock_retry_count", .ofNat v.lockRetries.toNat),
    ("lock_retry_delay_ms", .ofUInt64 v.lockPause),
    ("lock_retry_jitter_ms", .ofUInt64 v.lockJitter),
    ("project_cache_ttl_seconds", .ofUInt64 v.cacheLife)]

end Settings

namespace Settings

/-- The sections of settings by name. -/
def members (s : Settings) : List (String × Json) :=
  [("service_name", .str s.serviceName), ("environment", .str s.environment),
    ("server", s.server.toJson), ("database", s.database.toJson), ("redis", s.redis.toJson),
    ("observability", s.observability.toJson), ("validation", s.validation.toJson)]

def toJson (s : Settings) : Json := .obj s.members

end Settings

end Voucher

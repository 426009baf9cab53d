/-!
Counters of the service. An event raises a counter, and a validation or an answered request also the
count of a histogram of durations. Counters are told apart by their name and labels.
-/
namespace Voucher.Telemetry

inductive Event where
  | http (method path : String) (status : Nat)
  | validation (status errorCode mode : String)
  | lockFailure
  | cacheLookup (result : String)
  | serviceStart (service : String)
  deriving DecidableEq

/-- A counter: its name and its labels, sorted by label. -/
structure Counter where
  name : String
  labels : List (String × String)
  deriving DecidableEq

namespace Counter

/-- The name, a bar, and the labels with their values between bars. -/
def key (c : Counter) : String :=
  c.name ++ "|" ++ String.intercalate "|" (c.labels.map fun l => l.1 ++ "=" ++ l.2)

end Counter

namespace Event

/-- The counters that an event raises. -/
def counters : Event → List Counter
  | http method path status =>
    let labels := [("method", method), ("path", path), ("status", toString status)]
    [⟨"http_requests_total", labels⟩, ⟨"http_request_duration_seconds_count", labels⟩]
  | validation status errorCode mode =>
    [⟨"codeguard_validations_total", [("error_code", errorCode), ("mode", mode),
      ("status", status)]⟩,
      ⟨"codeguard_validation_duration_seconds_count", [("mode", mode), ("status", status)]⟩]
  | lockFailure => [⟨"codeguard_lock_acquire_failures_total", []⟩]
  | cacheLookup result => [⟨"codeguard_project_cache_requests_total", [("result", result)]⟩]
  | serviceStart service => [⟨"service_starts_total", [("service", service)]⟩]

end Event

/-- Descriptions by metric; a histogram is described without the suffix of its count. -/
def descriptions : List (String × String) :=
  [("http_requests_total", "Total number of HTTP requests"),
    ("http_request_duration_seconds", "HTTP request duration in seconds"),
    ("codeguard_validations_total",
      "Validation pipeline invocations by status, error code and mode"),
    ("codeguard_validation_duration_seconds", "Validation pipeline duration in seconds"),
    ("codeguard_lock_acquire_failures_total",
      "Redemption lock acquisitions that failed after retries"),
    ("codeguard_project_cache_requests_total", "Project rule cache lookups by result")]

/-- The metric that a counter belongs to. -/
def Counter.metric (c : Counter) : String :=
  match c.name with
  | "http_request_duration_seconds_count" => "http_request_duration_seconds"
  | "codeguard_validation_duration_seconds_count" => "codeguard_validation_duration_seconds"
  | name => name

def Counter.description? (c : Counter) : Option String := descriptions.lookup c.metric

/-- How often a counter was raised by a run of events. -/
def total (events : List Event) (c : Counter) : Nat := (events.flatMap Event.counters).count c

/-- The counters that a run of events raised, each once. -/
def raised (events : List Event) : List Counter := (events.flatMap Event.counters).eraseDups

/-- How often each counter was raised, by key. -/
def totals (events : List Event) : List (String × Nat) :=
  (raised events).map fun c => (c.key, total events c)

/-- The descriptions of the metrics that a run of events touched. -/
def help (events : List Event) : List (String × String) :=
  (raised events).filterMap fun c => c.description?.map fun d => (c.metric, d)

end Voucher.Telemetry

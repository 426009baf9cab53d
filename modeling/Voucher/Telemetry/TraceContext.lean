import Voucher.Text.Blank
import Voucher.Text.Search
import Voucher.Uuid

/-!
Trace context in the headers `traceparent` and `tracestate`. A parent is taken up only if it is well
formed and neither identifier is zero; a state that is not well formed is dropped on its own.
-/
namespace Voucher.Telemetry

/-- A span of a trace, as headers tell of it. -/
structure TraceContext where
  traceId : Nat
  spanId : Nat
  sampled : Bool
  remote : Bool
  state : List (String × String)
  deriving DecidableEq, Inhabited

namespace TraceContext

def none : TraceContext := ⟨0, 0, false, false, []⟩

def isValid (c : TraceContext) : Bool := c.traceId != 0 && c.spanId != 0

def traceText (c : TraceContext) : String := String.ofList (Uuid.hexDigits 32 c.traceId)

def spanText (c : TraceContext) : String := String.ofList (Uuid.hexDigits 16 c.spanId)

def stateText (c : TraceContext) : String :=
  String.intercalate "," (c.state.map fun m => m.1 ++ "=" ++ m.2)

def toJson (c : TraceContext) : Json :=
  .obj [("valid", .bool c.isValid), ("trace_id", .str c.traceText), ("span_id", .str c.spanText),
    ("sampled", .bool c.sampled), ("remote", .bool c.remote), ("tracestate", .str c.stateText)]

/-- A number in hexadecimal digits, after a plus sign or not, below a bound. -/
def number? (bound : Nat) (cs : List Char) : Option Nat :=
  let ds := match cs with
    | '+' :: rest => rest
    | cs => cs
  if ds.isEmpty then Option.none
  else (Uuid.hexNumeral? ds).filter (· < bound)

/-- An identifier, which has no capitals. -/
def identifier? (bound : Nat) (cs : List Char) : Option Nat :=
  if cs.any fun c => 'A' ≤ c && c ≤ 'Z' then Option.none else number? bound cs

/-- Pieces between separators; an empty one at the end does not count. -/
def pieces (sep : Char) (cs : List Char) : List (List Char) :=
  match (Text.splitAt sep cs).reverse with
  | [] :: rest => rest.reverse
  | all => all.reverse

def isLowerOrDigit (c : Char) : Bool := ('a' ≤ c && c ≤ 'z') || ('0' ≤ c && c ≤ '9')

def isKeyChar (c : Char) : Bool :=
  isLowerOrDigit c || c == '_' || c == '-' || c == '*' || c == '/' || c == '@'

/-- A key of the state: a name, or a tenant and a vendor, whose name has at most thirteen
characters, around an at sign. -/
def isKey (key : List Char) : Bool :=
  key.length ≤ 256 && key.all isKeyChar && (key.head?.map isLowerOrDigit).getD true &&
    match Text.splitAt '@' key with
    | [_] => true
    | [_, vendor] => vendor.length ≤ 13 && (vendor.head?.map isLowerOrDigit).getD true
    | _ => false

def isValue (value : List Char) : Bool :=
  (String.ofList value).utf8ByteSize ≤ 256 && value.all fun c => c != ',' && c != '='

/-- A member of the state; equals signs in front of the value are dropped. -/
def member? (cs : List Char) : Option (String × String) :=
  match Text.cut '=' cs with
  | (key, some rest) =>
    let value := rest.dropWhile (· == '=')
    if isKey key && isValue value then some (String.ofList key, String.ofList value)
    else Option.none
  | (_, Option.none) => Option.none

def readState (text : String) : List (String × String) :=
  ((pieces ',' text.toList).mapM member?).getD []

/-- The context of a parent and a state. -/
def ofParent? (parent stateText : String) : Option TraceContext :=
  match pieces '-' (Text.trimChars parent.toList) with
  | version :: trace :: span :: flags :: rest => do
    let version ← number? 256 version
    if version = 255 ∨ (version = 0 ∧ !rest.isEmpty) then Option.none
    let traceId ← identifier? (Nat.pow 2 128) trace
    let spanId ← identifier? UInt64.size span
    let flags ← number? 256 flags
    if version = 0 ∧ 2 < flags then Option.none
    let c : TraceContext := ⟨traceId, spanId, flags % 2 == 1, true, readState stateText⟩
    if c.isValid then pure c else Option.none
  | _ => Option.none

/-- The context that headers tell of. -/
def ofHeaders (headers : List (String × String)) : TraceContext :=
  let parent := (headers.lookup "traceparent").getD ""
  let state := (headers.lookup "tracestate").getD ""
  (ofParent? parent state).getD none

end TraceContext

/-- What a new span sends on in headers, its own identifiers apart. Every span is sampled. -/
structure Propagation where
  version : String
  flags : String
  stateText : String

/-- The trace that a new span belongs to: its parent's, or a new one. -/
def inheritedTrace? (parent : TraceContext) : Option String :=
  if parent.isValid then some parent.traceText else none

def propagate (parent : TraceContext) : Propagation :=
  ⟨"00", "01", if parent.isValid then parent.stateText else ""⟩

end Voucher.Telemetry

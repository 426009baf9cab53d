import Voucher.Http.Target
import Voucher.Text.Upper

/-!
The routes of the interface. A route is a list of parts, one of which may be open; an open part
takes any text that is not empty. Each route answers one method, and what answers `GET` also answers
`HEAD`.
-/
namespace Voucher.Http

inductive Route where
  | validate
  | check
  | listing
  | redemption
  | statistics
  | allRules
  | rules
  | health
  deriving DecidableEq

namespace Route

def all : List Route :=
  [validate, check, listing, redemption, statistics, allRules, rules, health]

/-- A part of a route. -/
inductive Part where
  | fixed (text : String)
  | hole (name : String)
  deriving DecidableEq

def parts : Route → List Part
  | validate => [.fixed "api", .fixed "v1", .fixed "validate"]
  | check => [.fixed "api", .fixed "v1", .fixed "validate", .fixed "check"]
  | listing => [.fixed "api", .fixed "v1", .fixed "codes"]
  | redemption => [.fixed "api", .fixed "v1", .fixed "codes", .hole "redemption_id"]
  | statistics => [.fixed "api", .fixed "v1", .fixed "stats", .hole "project_id"]
  | allRules => [.fixed "api", .fixed "v1", .fixed "cache", .fixed "projects"]
  | rules => [.fixed "api", .fixed "v1", .fixed "cache", .fixed "projects", .hole "project_id"]
  | health => [.fixed "health"]

def Part.template : Part → String
  | fixed text => text
  | hole name => "\x7b" ++ name ++ "\x7d"

/-- The route as it is written, open parts by name. -/
def template (r : Route) : String :=
  String.join (r.parts.map fun p => "/" ++ p.template)

inductive Method where
  | get
  | post
  | delete
  deriving DecidableEq

def method : Route → Method
  | validate => .post
  | allRules | rules => .delete
  | check | listing | redemption | statistics | health => .get

/-- The methods that a route answers. -/
def methods (r : Route) : List String :=
  match r.method with
  | .get => ["GET", "HEAD"]
  | .post => ["POST"]
  | .delete => ["DELETE"]

/-- The methods as a header lists them. -/
def allow (r : Route) : String := String.intercalate "," r.methods

/-- Matches parts with segments; gives what the open parts took. -/
def fit : List Part → List (List Char) → Option (List (List Char))
  | [], [] => some []
  | .fixed text :: parts, s :: segments => if text.toList = s then fit parts segments else none
  | .hole _ :: parts, s :: segments =>
    if s.isEmpty then none else (fit parts segments).map (s :: ·)
  | _, _ => none

/-- The route of a target, and what its open part took, if it has one. -/
def find? (t : Target) : Option (Route × List Char) :=
  match t.segments with
  | [] :: segments =>
    all.findSome? fun r => (fit r.parts segments).map fun taken => (r, taken.head?.getD [])
  | _ => none

end Route

end Voucher.Http

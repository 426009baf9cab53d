/-!
JSON values. An object is the list of its members as written, so a text with a repeated key has a
value of its own. Integers are exact; any other number is a binary64 number, kept by its bits.
-/
namespace Voucher

/-- A finite binary64 number, by its bits. -/
structure Double where
  bits : UInt64
  deriving DecidableEq, Inhabited

inductive Json where
  | null
  | bool (b : Bool)
  | int (i : Int)
  | float (d : Double)
  | str (s : String)
  | arr (items : List Json)
  | obj (members : List (String × Json))
  deriving Inhabited

namespace Json

mutual

/-- How deeply arrays and objects nest; a scalar has depth zero. -/
def depth : Json → Nat
  | .arr items => depthItems items + 1
  | .obj members => depthMembers members + 1
  | _ => 0

def depthItems : List Json → Nat
  | [] => 0
  | item :: rest => max item.depth (depthItems rest)

def depthMembers : List (String × Json) → Nat
  | [] => 0
  | (_, value) :: rest => max value.depth (depthMembers rest)

end

/-- The values written under a key. -/
def valuesOf (key : String) (members : List (String × Json)) : List Json :=
  members.filterMap fun m => if m.1 = key then some m.2 else none

/-- The value of a key that an object has once. -/
def get? (key : String) : Json → Option Json
  | .obj members =>
    match valuesOf key members with
    | [value] => some value
    | _ => none
  | _ => none

/-- The text of a string value. -/
def asString? : Json → Option String
  | .str s => some s
  | _ => none

def asBool? : Json → Option Bool
  | .bool b => some b
  | _ => none

def asItems? : Json → Option (List Json)
  | .arr items => some items
  | _ => none

def ofOption {α : Type} (write : α → Json) : Option α → Json
  | none => .null
  | some a => write a

def ofStrings (ss : List String) : Json :=
  .arr (ss.map .str)

end Json

end Voucher

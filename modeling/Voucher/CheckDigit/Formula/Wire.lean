import Voucher.CheckDigit.Formula.Basic
import Voucher.Json.Record

/-!
Formulas and definitions as JSON. A formula is an object with the tag `op` and the fields of its
operation, or an array of the same; inside another formula the tag may also be a number, the place
of the operation in the list of tags.
-/
namespace Voucher.CheckDigit

namespace Direction

def name : Direction → String
  | leftToRight => "left_to_right"
  | rightToLeft => "right_to_left"

def toJson (d : Direction) : Json := .str d.name

def ofJson? (j : Json) : Option Direction :=
  j.readInnerVariant?.bind fun s => [leftToRight, rightToLeft].find? (·.name == s)

end Direction

namespace Comparison

def name : Comparison → String
  | eq => "eq"
  | ne => "ne"
  | lt => "lt"
  | le => "le"
  | gt => "gt"
  | ge => "ge"

def toJson (c : Comparison) : Json := .str c.name

def ofJson? (j : Json) : Option Comparison :=
  j.readInnerVariant?.bind fun s => [eq, ne, lt, le, gt, ge].find? (·.name == s)

end Comparison

namespace Formula

mutual

def toJson : Formula → Json
  | .const value => .obj [("op", .str "const"), ("value", .ofInt64 value)]
  | .length => .obj [("op", .str "length")]
  | .digitSum => .obj [("op", .str "digit_sum")]
  | .weightedSum weights direction fold =>
    .obj [("op", .str "weighted_sum"), ("weights", .arr (weights.map .ofInt64)),
      ("direction", direction.toJson), ("fold_products", .bool fold)]
  | .numericMod modulus => .obj [("op", .str "numeric_mod"), ("modulus", .ofInt64 modulus)]
  | .add args => .obj [("op", .str "add"), ("args", .arr (toJsonAll args))]
  | .mul args => .obj [("op", .str "mul"), ("args", .arr (toJsonAll args))]
  | .sub l r => .obj [("op", .str "sub"), ("left", l.toJson), ("right", r.toJson)]
  | .mod l r => .obj [("op", .str "mod"), ("left", l.toJson), ("right", r.toJson)]
  | .cond l c r y n =>
    .obj [("op", .str "when"), ("left", l.toJson), ("cmp", c.toJson), ("right", r.toJson),
      ("then", y.toJson), ("otherwise", n.toJson)]

def toJsonAll : List Formula → List Json
  | [] => []
  | f :: rest => f.toJson :: toJsonAll rest

end

def tags : List String :=
  ["const", "length", "digit_sum", "weighted_sum", "numeric_mod", "add", "mul", "sub",
    "mod", "when"]

/-- The fields of an operation, in the order in which an array gives them. -/
def fieldNames : String → List String
  | "const" => ["value"]
  | "weighted_sum" => ["weights", "direction", "fold_products"]
  | "numeric_mod" => ["modulus"]
  | "add" | "mul" => ["args"]
  | "sub" | "mod" => ["left", "right"]
  | "when" => ["left", "cmp", "right", "then", "otherwise"]
  | _ => []

/-- What a part of a formula's JSON can be read as: a formula, a list of formulas, or other data. -/
structure Part where
  json : Json
  formula? : Option Formula
  formulas? : Option (List Formula)

/-- The parts of a formula: named, or listed after the tag. -/
inductive Parts where
  | named (fields : List (String × Part))
  | listed (items : List Part)

namespace Parts

/-- The value under a key, once if at all; `none` outside means the key stands twice. -/
def unique? (key : String) (fields : List (String × Part)) : Option (Option Part) :=
  match fields.filter (·.1 == key) with
  | [] => some none
  | [(_, p)] => some (some p)
  | _ => none

/-- The fields of an operation by name. -/
def fields? (names : List String) : Parts → Option (List (String × Part))
  | .named fields =>
    if names.all fun n => (unique? n fields).isSome then some fields else none
  | .listed items => if items.length ≤ names.length then some (names.zip items) else none

end Parts

/-- The formula of an operation from its fields. -/
def ofFields? (tag : String) (parts : Parts) : Option Formula := do
  let fields ← parts.fields? (fieldNames tag)
  let get (name : String) : Option Part := fields.lookup name
  let child (name : String) : Option Formula := (get name).bind (·.formula?)
  match tag with
  | "const" => do
    let value ← (get "value").bind (·.json.readInt64?)
    pure (.const value)
  | "length" => pure .length
  | "digit_sum" => pure .digitSum
  | "weighted_sum" => do
    let weights ← (get "weights").bind fun p => Json.readList? Json.readInt64? p.json
    let direction ← match get "direction" with
      | some p => Direction.ofJson? p.json
      | none => some .rightToLeft
    let fold ← match get "fold_products" with
      | some p => p.json.asBool?
      | none => some false
    pure (.weightedSum weights direction fold)
  | "numeric_mod" => do
    let modulus ← (get "modulus").bind (·.json.readInt64?)
    pure (.numericMod modulus)
  | "add" => do
    let args ← (get "args").bind (·.formulas?)
    pure (.add args)
  | "mul" => do
    let args ← (get "args").bind (·.formulas?)
    pure (.mul args)
  | "sub" => do
    let l ← child "left"
    let r ← child "right"
    pure (.sub l r)
  | "mod" => do
    let l ← child "left"
    let r ← child "right"
    pure (.mod l r)
  | "when" => do
    let l ← child "left"
    let c ← (get "cmp").bind fun p => Comparison.ofJson? p.json
    let r ← child "right"
    let y ← child "then"
    let n ← child "otherwise"
    pure (.cond l c r y n)
  | _ => none

/-- A formula from its parts; `inner` allows the tag to be a number. -/
def ofParts? (inner : Bool) : Parts → Option Formula
  | .named fields => do
    let tag ← (← Parts.unique? "op" fields).bind fun p => p.json.readTag? tags inner
    ofFields? tag (.named fields)
  | .listed [] => none
  | .listed (head :: rest) => do
    let tag ← head.json.readTag? tags inner
    ofFields? tag (.listed rest)

mutual

def partsOf : Json → Option Parts
  | .obj members => some (.named (memberParts members))
  | .arr items => some (.listed (itemParts items))
  | .null | .bool _ | .int _ | .float _ | .str _ => none

def partOf : Json → Part
  | .obj members =>
    ⟨.obj members, ofParts? true (.named (memberParts members)), none⟩
  | .arr items =>
    let parts := itemParts items
    ⟨.arr items, ofParts? true (.listed parts), parts.mapM (·.formula?)⟩
  | .null => ⟨.null, none, none⟩
  | .bool b => ⟨.bool b, none, none⟩
  | .int i => ⟨.int i, none, none⟩
  | .float d => ⟨.float d, none, none⟩
  | .str s => ⟨.str s, none, none⟩

def itemParts : List Json → List Part
  | [] => []
  | item :: rest => partOf item :: itemParts rest

def memberParts : List (String × Json) → List (String × Part)
  | [] => []
  | (key, value) :: rest => (key, partOf value) :: memberParts rest

end

def ofJson? (j : Json) : Option Formula := (partsOf j).bind (ofParts? false)

end Formula

namespace Symbols

def toJson (s : Symbols) : Json := .obj (s.entries.map fun e => (e.1, .str e.2))

/-- Entries are taken in turn, so of two with one key the later one counts. -/
def ofMembers? : List (String × Json) → Symbols → Option Symbols
  | [], s => some s
  | (key, .str value) :: rest, s => ofMembers? rest (s.insert key value)
  | _ :: _, _ => none

def ofJson? : Json → Option Symbols
  | .obj members => ofMembers? members .empty
  | _ => none

end Symbols

namespace Definition

def toJson (d : Definition) : Json :=
  .obj [("expression", d.formula.toJson), ("width", .ofOption .ofUInt64 d.width),
    ("symbols", d.symbols.toJson)]

def ofJson? (j : Json) : Option Definition := do
  let r ← Record.ofJson? ["expression", "width", "symbols"] j
  let formula ← r.required "expression" Formula.ofJson?
  let width ← r.omissible "width" Json.readUInt64?
  let symbols ← r.orDefault "symbols" .empty Symbols.ofJson?
  pure ⟨formula, width, symbols⟩

end Definition

end Voucher.CheckDigit

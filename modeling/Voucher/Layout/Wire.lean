import Voucher.Layout.Basic

/-!
Layouts as JSON. A segment is one object with its own fields, the tag `type` and the fields of its
kind. Absent optional fields are left out.
-/
namespace Voucher

/-- The members of an optional field that is left out when absent. -/
def Json.memberIfSome {α : Type} (name : String) (write : α → Json) :
    Option α → List (String × Json)
  | some a => [(name, write a)]
  | none => []

namespace LetterCase

def toJson (c : LetterCase) : Json := .str c.name

def ofJson? (j : Json) : Option LetterCase := j.readVariant?.bind ofName?

/-- A case written within a segment. -/
def ofInnerJson? (j : Json) : Option LetterCase := j.readInnerVariant?.bind ofName?

end LetterCase

namespace Segment

def Kind.tags : List String :=
  ["fixed", "numeric", "alpha", "alphanumeric", "enum", "date", "check"]

/-- The tag and the fields of a kind. -/
def Kind.members : Kind → List (String × Json)
  | .fixed value => [("type", .str "fixed"), ("value", .str value)]
  | .numeric min max =>
    ("type", .str "numeric") ::
      (Json.memberIfSome "min" .ofInt64 min ++ Json.memberIfSome "max" .ofInt64 max)
  | .alpha letters => [("type", .str "alpha"), ("case", letters.toJson)]
  | .alphanumeric => [("type", .str "alphanumeric")]
  | .oneOf values => [("type", .str "enum"), ("values", .ofStrings values)]
  | .date format => [("type", .str "date"), ("format", .str format)]
  | .check algorithm appliesTo =>
    ("type", .str "check") ::
      (Json.memberIfSome "algorithm" .str algorithm ++ [("appliesTo", .ofStrings appliesTo)])

def toJson (s : Segment) : Json :=
  .obj (("name", .str s.name) :: ("length", .ofUInt64 s.length) ::
    (Json.memberIfSome "description" .str s.description ++ s.kind.members))

/-- The fields of each kind. -/
def Kind.fieldNames : String → List String
  | "fixed" => ["value"]
  | "numeric" => ["min", "max"]
  | "alpha" => ["case"]
  | "enum" => ["values"]
  | "date" => ["format"]
  | "check" => ["algorithm", "appliesTo"]
  | _ => []

/-- The kind with a given tag from the fields of its segment. -/
def Kind.ofFields? (tag : String) (j : Json) : Option Kind := do
  let r ← Record.ofObject? (Kind.fieldNames tag) j
  match tag with
  | "fixed" => do
    let value ← r.required "value" Json.asString?
    pure (.fixed value)
  | "numeric" => do
    let min ← r.omissible "min" Json.readInt64?
    let max ← r.omissible "max" Json.readInt64?
    pure (.numeric min max)
  | "alpha" => do
    let letters ← r.orDefault "case" .both LetterCase.ofInnerJson?
    pure (.alpha letters)
  | "alphanumeric" => pure .alphanumeric
  | "enum" => do
    let values ← r.required "values" Json.readStrings?
    pure (.oneOf values)
  | "date" => do
    let format ← r.required "format" Json.asString?
    pure (.date format)
  | "check" => do
    let algorithm ← r.omissible "algorithm" Json.asString?
    let appliesTo ← r.orDefault "appliesTo" [] Json.readStrings?
    pure (.check algorithm appliesTo)
  | _ => none

def ofJson? (j : Json) : Option Segment := do
  let r ← Record.ofObject? ["name", "length", "description", "type"] j
  let name ← r.required "name" Json.asString?
  let length ← r.required "length" Json.readUInt64?
  let description ← r.omissible "description" Json.asString?
  let tag ← r.required "type" (Json.readTag? Kind.tags true)
  let kind ← Kind.ofFields? tag j
  pure ⟨name, length, description, kind⟩

end Segment

namespace Layout

def toJson (l : Layout) : Json := .obj [("segments", .arr (l.segments.map Segment.toJson))]

def ofJson? (j : Json) : Option Layout := do
  let r ← Record.ofJson? ["segments"] j
  let segments ← r.orDefault "segments" [] (Json.readList? Segment.ofJson?)
  pure ⟨segments⟩

end Layout

end Voucher

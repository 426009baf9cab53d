import Voucher.Json.Skip
import Voucher.Validation.Request

/-!
Reading a validation request from a body as the text goes by. The first fault counts: the text is
malformed, or it is well formed so far and does not fit a request. What is wrong behind it is not
seen.
-/
namespace Voucher.Http.Body

open Json.Parser (skipBlank colon? fuelFor)

inductive Fault where
  | malformed
  | misfit
  deriving DecidableEq

abbrev Read (α : Type) := Except Fault (α × List Char)

/-- What a field holds. -/
inductive Kind where
  | text
  | identifier
  | optionalText
  | document
  | flag
  deriving DecidableEq

/-- The fields of a request, in the order in which an array gives them. -/
def fields : List (String × Kind) :=
  [("code", .text), ("project_id", .identifier), ("ow_user_id", .optionalText),
    ("ow_transaction_id", .optionalText), ("country", .optionalText), ("metadata", .document),
    ("dry_run", .flag), ("sandbox", .flag)]

/-- The fault of a value of a kind that is not asked for. An array or object is not looked into. -/
def wrongKind (cs : List Char) : Fault :=
  match cs with
  | '[' :: _ | '\x7b' :: _ => .misfit
  | _ => if (Json.Parser.value 1 cs).isSome then .misfit else .malformed

def text (cs : List Char) : Read Json :=
  match cs with
  | '"' :: _ =>
    match Json.Parser.string? cs with
    | some (s, rest) => .ok (.str s, rest)
    | none => .error .malformed
  | _ => .error (wrongKind cs)

def identifier (cs : List Char) : Read Json :=
  match text cs with
  | .ok (j, rest) => if (Json.readUuid? j).isSome then .ok (j, rest) else .error .misfit
  | .error fault => .error fault

def flag (cs : List Char) : Read Json :=
  match Json.Parser.value 1 cs with
  | some (.bool b, rest) => .ok (.bool b, rest)
  | _ => .error (wrongKind cs)

/-- Any value within a request, so of one level less than a text may have. -/
def document (cs : List Char) : Read Json :=
  match Json.Parser.value (fuelFor cs) cs with
  | some (j, rest) => if j.depth < Json.maxDepth then .ok (j, rest) else .error .malformed
  | none => .error .malformed

/-- The value of a field, after blanks. -/
def field (kind : Kind) (cs : List Char) : Read Json :=
  let cs := skipBlank cs
  match kind with
  | .text => text cs
  | .identifier => identifier cs
  | .optionalText =>
    match cs with
    | 'n' :: 'u' :: 'l' :: 'l' :: rest => .ok (.null, rest)
    | _ => text cs
  | .document => document cs
  | .flag => flag cs

/-- The member under a key; a key that is not asked for is passed over with its value. -/
def member (key : String) (got : List (String × Json)) (cs : List Char) :
    Read (List (String × Json)) :=
  match fields.lookup key with
  | none =>
    match (colon? cs).bind fun rest => Json.Skip.value (fuelFor rest) rest with
    | some rest => .ok (got, rest)
    | none => .error .malformed
  | some kind =>
    if (got.lookup key).isSome then .error .misfit
    else
      match colon? cs with
      | none => .error .malformed
      | some rest =>
        match field kind rest with
        | .ok (j, rest) => .ok (got ++ [(key, j)], rest)
        | .error fault => .error fault

/-- The text behind a comma, which stands before all members but the first. -/
def afterComma (first : Bool) (cs : List Char) : Except Fault (List Char) :=
  if first then .ok cs
  else
    match cs with
    | ',' :: rest => .ok (skipBlank rest)
    | _ => .error .malformed

/-- Members up to the closing brace. -/
def members : (fuel : Nat) → (first : Bool) → List (String × Json) → List Char →
    Read (List (String × Json))
  | 0, _, _, _ => .error .malformed
  | fuel + 1, first, got, cs =>
    match skipBlank cs with
    | '\x7d' :: rest => .ok (got, rest)
    | cs =>
      match afterComma first cs with
      | .error fault => .error fault
      | .ok cs =>
        match Json.Parser.string? cs with
        | none => .error .malformed
        | some (key, rest) =>
          match member key got rest with
          | .error fault => .error fault
          | .ok (got, rest) => members fuel false got rest

/-- Values of fields in their order up to the closing bracket. -/
def elements : (first : Bool) → List (String × Kind) → List (String × Json) → List Char →
    Read (List (String × Json))
  | _, [], got, cs =>
    match skipBlank cs with
    | ']' :: rest => .ok (got, rest)
    | _ => .error .malformed
  | first, (name, kind) :: more, got, cs =>
    match skipBlank cs with
    | ']' :: rest => .ok (got, rest)
    | cs =>
      match afterComma first cs with
      | .error fault => .error fault
      | .ok cs =>
        if cs.head? = some ']' then .error .malformed
        else
          match field kind cs with
          | .error fault => .error fault
          | .ok (j, rest) => elements false more (got ++ [(name, j)]) rest

def record (cs : List Char) : Read (List (String × Json)) :=
  match skipBlank cs with
  | '\x7b' :: rest => members (fuelFor rest) true [] rest
  | '[' :: rest => elements true fields [] rest
  | cs => .error (wrongKind cs)

/-- The request that a body writes. -/
def request (body : String) : Except Fault Voucher.Request :=
  match record body.toList with
  | .error fault => .error fault
  | .ok (got, rest) =>
    match Voucher.Request.ofJson? (.obj got) with
    | none => .error .misfit
    | some r => if skipBlank rest = [] then .ok r else .error .malformed

end Voucher.Http.Body

import Voucher.Text.Search
import Voucher.Text.Upper

/-!
Media types of request bodies. A body counts as JSON if its type is `application/json` or an
application type with the suffix `+json`, in any case, with well-formed parameters or none.
-/
namespace Voucher.Http.MediaType

/-- Characters of names. -/
def isToken (c : Char) : Bool :=
  Text.isAsciiLetter c || Text.isAsciiDigit c || "!#$%&'*+-.^_|~".toList.contains c ||
    c.toNat == 0x60

/-- Characters of quoted values. -/
def isQuotable (c : Char) : Bool := 32 ≤ c.toNat && c.toNat != 127

/-- What follows the closing quote of a value, which is not empty, and the blanks after it;
parameters go on after a semicolon only. -/
def afterQuote? (cs : List Char) : Option (List Char) :=
  if !(cs.take 1).all isQuotable then none
  else
  match (cs.drop 1).dropWhile fun c => isQuotable c && c != '"' with
  | '"' :: rest =>
    match rest.dropWhile (· == ' ') with
    | [] => some []
    | ';' :: more => some more
    | _ => none
  | _ => none

/-- What follows one parameter. -/
def afterParameter? (cs : List Char) : Option (List Char) :=
  let name := cs.takeWhile isToken
  match cs.drop name.length with
  | '=' :: value =>
    if name.isEmpty then none
    else
      match value with
      | '"' :: quoted => afterQuote? quoted
      | _ =>
        match value.dropWhile isToken with
        | [] => some []
        | ';' :: more => if value.head? = some ';' then none else some more
        | _ => none
  | _ => none

/-- Parameters are well formed; blanks may stand before each. -/
def areParameters : (fuel : Nat) → List Char → Bool
  | 0, _ => false
  | fuel + 1, cs =>
    match cs.dropWhile (· == ' ') with
    | [] => true
    | rest =>
      match afterParameter? rest with
      | some more => areParameters fuel more
      | none => false

/-- What follows the last plus sign of a subtype; a plus sign at its start does not count. -/
def suffix? (subtype : List Char) : Option (List Char) :=
  match (Text.splitAt '+' (subtype.drop 1)).reverse with
  | last :: _ :: _ => some last
  | _ => none

/-- A subtype without its suffix. -/
def base (subtype : List Char) : List Char :=
  match suffix? subtype with
  | some s => subtype.take (subtype.length - s.length - 1)
  | none => subtype

/-- The body is JSON. -/
def isJson (text : String) : Bool :=
  let cs := text.toList.map Text.asciiLower
  let (kind, rest) := Text.cut '/' cs
  match rest with
  | none => false
  | some rest =>
    let subtype := rest.takeWhile isToken
    let parameters := match rest.drop subtype.length with
      | [] => true
      | ';' :: more => !subtype.isEmpty && areParameters (more.length + 1) more
      | _ => false
    kind == "application".toList && parameters &&
      (base subtype == "json".toList || suffix? subtype == some "json".toList)

end Voucher.Http.MediaType

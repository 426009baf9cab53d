import Voucher.Text.Search
import Voucher.Text.Utf8
import Voucher.Uuid

/-!
Targets of requests: a path and a query, and the pairs that a query writes. In a path and in a query
a percent sign and two hexadecimal digits stand for a byte; in a query a plus sign stands for a
space.
-/
namespace Voucher.Http

structure Target where
  path : List Char
  query : List Char
  deriving DecidableEq, Inhabited

namespace Target

/-- Characters that may stand in a path. -/
def isPathChar (c : Char) : Bool :=
  let n := c.toNat
  n == 0x21 || n == 0x22 || (0x24 ≤ n && n ≤ 0x3B) || n == 0x3D || (0x40 ≤ n && n ≤ 0x5F) ||
    (0x61 ≤ n && n ≤ 0x7E) || 0x7F ≤ n

/-- Characters that may stand in a query. -/
def isQueryChar (c : Char) : Bool :=
  let n := c.toNat
  n == 0x21 || (0x24 ≤ n && n ≤ 0x3B) || n == 0x3D || 0x3F ≤ n

/-- The target that a path with an optional query and fragment writes. -/
def ofPath? (cs : List Char) : Option Target :=
  let (shown, _) := Text.cut '#' cs
  let (path, query) := Text.cut '?' shown
  let query := query.getD []
  if path.all isPathChar && query.all isQueryChar then
    some ⟨if path.isEmpty then ['/'] else path, query⟩
  else none

/-- What follows a scheme and `://`. -/
def afterScheme? (cs : List Char) : Option (List Char) :=
  let rest := cs.dropWhile fun c => c.isAlphanum || c == '+' || c == '-' || c == '.'
  if rest.length = cs.length then none else Text.dropLiteral? [':', '/', '/'] rest

/-- Characters that may stand in an authority; a percent sign may in front of an
at sign or in brackets. -/
def isAuthorityChar (c : Char) : Bool :=
  c.isAlphanum || "!$&'()*+,-.:;=@[]_~%".toList.contains c

/-- An authority as far as it has been read: the number of colons and whether there was a percent
sign, each since the last at sign or bracket, and which brackets there were. -/
structure Authority where
  colons : Nat
  percent : Bool
  opened : Bool
  closed : Bool
  deriving DecidableEq

namespace Authority

/-- The authority with one more character, if it may stand there. -/
def step (a : Authority) (c : Char) : Option Authority :=
  match c with
  | ':' => if a.colons < 8 then some { a with colons := a.colons + 1 } else none
  | '[' => if a.percent || a.opened then none else some { a with opened := true }
  | ']' =>
    if !a.opened || a.closed then none
    else some { a with colons := 0, percent := false, closed := true }
  | '@' => some { a with colons := 0, percent := false }
  | '%' => some { a with percent := true }
  | c => if isAuthorityChar c then some a else none

/-- At most a port follows the host, and brackets come in pairs. -/
def isWhole (a : Authority) : Bool := a.opened == a.closed && a.colons ≤ 1 && !a.percent

end Authority

/-- A host with a port or none and a user or none. -/
def isAuthority (cs : List Char) : Bool :=
  !cs.isEmpty && cs.getLast? != some '@' &&
    ((cs.foldlM Authority.step ⟨0, false, false, false⟩).any Authority.isWhole)

/-- The target that a text writes: a path, a scheme with an authority and a path, an authority
alone, which has no path, or an asterisk. -/
def ofChars? (cs : List Char) : Option Target :=
  match cs with
  | '/' :: _ => ofPath? cs
  | ['*'] => some ⟨['*'], []⟩
  | _ =>
    match afterScheme? cs with
    | none => if isAuthority cs then some ⟨[], []⟩ else none
    | some rest =>
      let host := rest.takeWhile fun c => c != '/' && c != '?' && c != '#'
      if isAuthority host then ofPath? (rest.drop host.length) else none

/-- The parts of a path between slashes. -/
def segments (t : Target) : List (List Char) := Text.splitAt '/' t.path

end Target

/-- The bytes that a text writes with percent signs. -/
def percentBytes : List Char → List UInt8
  | '%' :: a :: b :: rest =>
    match Json.Parser.hexValue? a, Json.Parser.hexValue? b with
    | some x, some y => UInt8.ofNat (x * 16 + y) :: percentBytes rest
    | _, _ => 0x25 :: percentBytes (a :: b :: rest)
  | c :: rest => (String.singleton c).toUTF8.toList ++ percentBytes rest
  | [] => []
termination_by cs => cs.length

/-- A part of a path, decoded. -/
def decodePart? (cs : List Char) : Option (List Char) := Text.Utf8.decode? (percentBytes cs)

/-- A name or value of a query, decoded. -/
def decodeField (cs : List Char) : List Char :=
  Text.Utf8.decode (percentBytes (cs.map fun c => if c = '+' then ' ' else c))

/-- The pairs of a query: fields between ampersands, each cut at its first equals sign. -/
def Target.fields (t : Target) : List (String × String) :=
  ((Text.splitAt '&' t.query).filter (!·.isEmpty)).map fun field =>
    let (name, value) := Text.cut '=' field
    (String.ofList (decodeField name), String.ofList (decodeField (value.getD [])))

end Voucher.Http

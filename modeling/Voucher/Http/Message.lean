import Voucher.Http.Address
import Voucher.Http.MediaType
import Voucher.Http.Target

/-!
Requests and responses of the interface. Names of headers are in lower case. A header counts only if
its value consists of visible characters, blanks and tabs.
-/
namespace Voucher.Http

structure Request where
  method : String
  target : Target
  headers : List (String × String)
  body : String
  peer : Option Address
  deriving Inhabited

namespace Request

/-- A value of a header may hold any character but controls; a tab is none of them here. -/
def isValue (s : String) : Bool :=
  s.toList.all fun c => c == '\t' || (32 ≤ c.toNat && c.toNat ≠ 127)

/-- A name of a header or of a method. -/
def isName (s : String) : Bool := !s.isEmpty && s.toList.all MediaType.isToken

def peer? : Option String → Option (Option Address)
  | some endpoint => (Address.ofEndpoint? endpoint.toList).map some
  | none => some none

/-- The request that its parts make, if they are well formed. -/
def ofParts? (method : String) (uri : List Char) (headers : List (String × String)) (body : String)
    (endpoint : Option String) : Option Request := do
  let target ← Target.ofChars? uri
  let peer ← peer? endpoint
  if isName method && headers.all fun h => isName h.1 && isValue h.2 then
    pure ⟨method, target, headers.map fun h =>
      (String.ofList (h.1.toList.map Text.asciiLower), h.2), body, peer⟩
  else none

def isShown (c : Char) : Bool := (32 ≤ c.toNat && c.toNat < 127) || c == '\t'

/-- The first value of a header, if it can be shown. -/
def header? (r : Request) (name : String) : Option String :=
  (r.headers.lookup name).filter fun v => v.toList.all isShown

end Request

/-- The identifier under which a request is answered: the one it came with, or a new one. -/
inductive RequestId where
  | given (text : String)
  | made (id : Uuid)
  deriving DecidableEq

namespace RequestId

def text : RequestId → String
  | given text => text
  | made id => id.text

end RequestId

/-- A response without its request identifier. -/
structure Reply where
  status : Nat
  /-- The type of the content is JSON. -/
  isJson : Bool
  body : Option Json
  allow : Option String

namespace Reply

def json (status : Nat) (body : Json) : Reply := ⟨status, true, some body, none⟩

/-- A reply that only says its status. -/
def bare (status : Nat) : Reply := ⟨status, false, none, none⟩

/-- The head of a reply: the same without the body. -/
def head (r : Reply) : Reply := { r with body := none }

end Reply

structure Response where
  reply : Reply
  requestId : RequestId

end Voucher.Http

import Voucher.Cache.Glob
import Voucher.Json.Document
import Voucher.Json.Parser

/-!
A key-value server that several processes share: texts by key, in the order of the keys. A command
is carried out at once and noted; a server that is down refuses every command and notes none. What
is put for a time stays until it is taken away.
-/
namespace Voucher.KeyValue

inductive Command where
  | ping
  | get (key : String)
  | putFor (key : String) (seconds : Nat) (text : String)
  | delete (keys : List String)
  | keys (pattern : String)
  | claim (key owner : String) (lease : Nat)
  | yieldKey (key owner : String)
  deriving DecidableEq

/-- The words of a command. -/
def Command.words : Command → List String
  | ping => ["PING"]
  | get key => ["GET", key]
  | putFor key seconds text => ["SETEX", key, toString seconds, text]
  | delete names => "DEL" :: names
  | keys pattern => ["KEYS", pattern]
  | claim key owner lease => ["SET", key, owner, "NX", "PX", toString lease]
  | yieldKey key owner => ["RELEASE", key, owner]

/-- A command as its words; the text of an object stands as the object. -/
def Command.toJson (c : Command) : Json :=
  .arr (c.words.map fun word =>
    match Json.read? word with
    | some (.obj members) => .obj members
    | _ => .str word)

structure Server where
  entries : List (String × String)
  isDown : Bool
  /-- What was carried out, the latest first. -/
  log : List Command
  deriving Inhabited

namespace Server

def empty : Server := ⟨[], false, []⟩

def value? (s : Server) (key : String) : Option String := s.entries.lookup key

def put (s : Server) (key text : String) : Server :=
  { s with entries := Json.putMember key text s.entries }

def remove (s : Server) (keys : List String) : Server :=
  { s with entries := s.entries.filter fun e => !keys.contains e.1 }

/-- Carries out a command that notes itself, unless the server is down. -/
def perform {α : Type} (s : Server) (c : Command) (effect : Server → α × Server) :
    Except Unit α × Server :=
  if s.isDown then (.error (), s)
  else
    let (a, after) := effect s
    (.ok a, { after with log := c :: after.log })

def ping (s : Server) : Except Unit Unit × Server := s.perform .ping fun s => ((), s)

def get (s : Server) (key : String) : Except Unit (Option String) × Server :=
  s.perform (.get key) fun s => (s.value? key, s)

/-- Puts a text under a key for a time of at least one second. -/
def putFor (s : Server) (key text : String) (seconds : Nat) : Except Unit Unit × Server :=
  s.perform (.putFor key (max 1 seconds) text) fun s => ((), s.put key text)

/-- Removes keys and tells how many of them there were. -/
def delete (s : Server) (keys : List String) : Except Unit Nat × Server :=
  s.perform (.delete keys) fun s =>
    ((s.entries.filter fun e => keys.contains e.1).length, s.remove keys)

def keys (s : Server) (pattern : String) : Except Unit (List String) × Server :=
  s.perform (.keys pattern) fun s =>
    ((s.entries.filter fun e => Cache.Glob.acceptsString pattern e.1).map Prod.fst, s)

/-- Removes every key of a pattern and tells how many there were. -/
def deleteMatching (s : Server) (pattern : String) : Except Unit Nat × Server :=
  match s.keys pattern with
  | (.error e, s) => (.error e, s)
  | (.ok [], s) => (.ok 0, s)
  | (.ok keys, s) => s.delete keys

/-- Puts an owner under a free key. A lease of nothing is refused as a mistake. -/
def claim (s : Server) (key owner : String) (lease : Nat) : Except Unit Bool × Server :=
  match s.perform (.claim key owner lease) fun s =>
      if lease = 0 then (none, s)
      else if (s.value? key).isSome then (some false, s)
      else (some true, s.put key owner) with
  | (.ok (some granted), s) => (.ok granted, s)
  | (.ok none, s) => (.error (), s)
  | (.error e, s) => (.error e, s)

/-- Removes a key if an owner has it. -/
def yieldKey (s : Server) (key owner : String) : Except Unit Bool × Server :=
  s.perform (.yieldKey key owner) fun s =>
    if s.value? key = some owner then (true, s.remove [key]) else (false, s)

end Server

end Voucher.KeyValue

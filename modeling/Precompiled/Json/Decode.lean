import Precompiled.Json.Value
import Precompiled.Json.Quoted

/-!
# Reading data out of JSON values

Values are read in the order of the text, and the first fault counts. A record is written as an
object whose members come in any order, or as an array of its members' values in their declared
order. Members that a record does not know are passed over, whatever they hold.
-/

namespace Precompiled.Json

inductive Fault where
  | malformed
  | mismatch (expected : String)
  | outOfRange (value : Int)
  | unreadableText
  | missingMember (name : String)
  | repeatedMember (name : String)
  /-- An array with too few or too many values for a record. -/
  | arity
  deriving DecidableEq, Repr

def Fault.message : Fault → String
  | .malformed => "the text is no JSON value"
  | .mismatch expected => s!"expected {expected}"
  | .outOfRange value => s!"the number {value} is out of range"
  | .unreadableText => "a string is no Unicode text"
  | .missingMember name => "missing field `" ++ name ++ "`"
  | .repeatedMember name => "duplicate field `" ++ name ++ "`"
  | .arity => "a record has the wrong number of values"

namespace Value

def refuse (expected : String) : Value → Fault
  | .broken => .malformed
  | _ => .mismatch expected

/-- Passes over a value. It only has to be there. -/
def skip (v : Value) : Except Fault Unit :=
  if v.whole then .ok () else .error .malformed

def readRaw (raw : Bytes) : Except Fault String :=
  match Quoted.unescape? raw with
  | some content => .ok content
  | none => .error .unreadableText

def readText : Value → Except Fault String
  | .text raw => readRaw raw
  | v => .error (v.refuse "a string")

def readInt : Value → Except Fault Int
  | .int value => .ok value
  | v => .error (v.refuse "a whole number")

def readUInt32 (v : Value) : Except Fault UInt32 := do
  let value ← v.readInt
  if 0 ≤ value ∧ value < UInt32.size then return UInt32.ofNat value.toNat
  else throw (.outOfRange value)

def readInt64 (v : Value) : Except Fault Int64 := do
  let value ← v.readInt
  if Int64.minValue.toInt ≤ value ∧ value ≤ Int64.maxValue.toInt then return Int64.ofInt value
  else throw (.outOfRange value)

def readOptional (read : Value → Except Fault α) : Value → Except Fault (Option α)
  | .null => .ok none
  | v => some <$> read v

def readList (read : Value → Except Fault α) : Value → Except Fault (List α)
  | .array items closed => do
    let values ← items.mapM read
    if closed then return values else throw .malformed
  | v => .error (v.refuse "an array")

end Value

/-- A way to read a record by its members. `δ` holds those read so far. -/
structure Reading (δ ρ : Type) where
  names : List String
  /-- Takes a member by its name. A name that is none of the members changes nothing. -/
  take : δ → String → Value → Except Fault δ
  finish : δ → Except Fault ρ

namespace Reading

variable {δ ρ : Type}

def takeMembers (r : Reading δ ρ) (start : δ) (members : List (Bytes × Value)) : Except Fault δ :=
  members.foldlM (fun found (key, value) => do r.take found (← Value.readRaw key) value) start

/-- Takes the values of an array as the members in declared order. -/
def takeItems (r : Reading δ ρ) (start : δ) (items : List Value) : Except Fault δ :=
  (r.names.zip items).foldlM (fun found (name, value) => r.take found name value) start

def read (r : Reading δ ρ) (start : δ) : Value → Except Fault ρ
  | .object members closed => do
    let found ← r.takeMembers start members
    if closed then r.finish found else throw .malformed
  | .array items closed => do
    let found ← r.takeItems start items
    if !closed then throw .malformed
    if r.names.length < items.length then throw .arity
    match r.finish found with
    | .ok record => return record
    | .error _ => throw .arity
  | v => .error (v.refuse "a record")

end Reading

def takeOnce (found : Option α) (name : String) (read : Value → Except Fault α) (v : Value) :
    Except Fault (Option α) :=
  if found.isSome then .error (.repeatedMember name) else some <$> read v

def required (found : Option α) (name : String) : Except Fault α :=
  match found with
  | some value => .ok value
  | none => .error (.missingMember name)

def Document.read (d : Document) (read : Value → Except Fault α) : Except Fault α := do
  let value ← read d.root
  if d.whole then return value else throw .malformed

end Precompiled.Json

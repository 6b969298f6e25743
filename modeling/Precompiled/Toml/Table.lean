import Precompiled.Dict

/-!
# TOML tables

Tables keep their entries in the order in which the keys came. A table can be entered again only as
its origin allows: nothing enters one that is written inline, a dotted key enters no table that has
a header, and a header comes at most once.
-/

namespace Precompiled.Toml

inductive Origin where
  | header
  /-- A longer header leads through it. -/
  | implied
  | dotted
  | inline
  deriving DecidableEq, Repr

inductive Item where
  | integer (value : Int)
  | boolean (value : Bool)
  | text (content : String)
  | float
  | moment
  | array (items : List Item)
  | table (origin : Origin) (entries : List (String × Item))
  /-- Tables that share a repeated header, latest first. -/
  | tables (list : List (List (String × Item)))
  deriving Repr

abbrev Entries := Dict String Item

/-- A value under a key. `path` holds the keys before the last one. -/
structure Entry where
  path : List String
  key : String
  item : Item

/-- Whether a dotted key may lead through a table. Ending there takes a table that a dotted key
made. -/
def Origin.admits (origin : Origin) (ending : Bool) : Bool :=
  origin = .dotted || (origin = .implied && !ending)

def enterAt (key : String) (item : Item) : List String → Entries → Option Entries
  | [], entries =>
    if (Dict.get? entries key).isSome then none else some (Dict.put key item entries)
  | next :: rest, entries =>
    match Dict.get? entries next with
    | none => do
      let inner ← enterAt key item rest []
      return Dict.put next (.table .dotted inner) entries
    | some (.table origin inner) =>
      if origin.admits rest.isEmpty then do
        let inner ← enterAt key item rest inner
        return Dict.put next (.table origin inner) entries
      else none
    | some (.tables (latest :: earlier)) =>
      if rest.isEmpty then none
      else do
        let latest ← enterAt key item rest latest
        return Dict.put next (.tables (latest :: earlier)) entries
    | some _ => none

def fill (entries : Entries) (values : List Entry) : Option Entries :=
  values.foldlM (fun entries e => enterAt e.key e.item e.path entries) entries

-- ---------------------------------------------------------------------------
-- Headers
-- ---------------------------------------------------------------------------

structure Header where
  /-- Whether the header can be repeated, each time for another table. -/
  repeated : Bool
  path : List String

structure Section where
  header : Header
  values : List Entry

def changeAt (change : Entries → Option Entries) : List String → Entries → Option Entries
  | [], entries => change entries
  | next :: rest, entries =>
    match Dict.get? entries next with
    | none => do
      let inner ← changeAt change rest []
      return Dict.put next (.table .implied inner) entries
    | some (.table origin inner) =>
      if origin = .inline then none
      else do
        let inner ← changeAt change rest inner
        return Dict.put next (.table origin inner) entries
    | some (.tables (latest :: earlier)) => do
      let latest ← changeAt change rest latest
      return Dict.put next (.tables (latest :: earlier)) entries
    | some _ => none

/-- Adds the table of a header under a key. A table that longer headers have led through moves to
the end of its surroundings. -/
def addTable (key : String) (values : List Entry) (entries : Entries) : Option Entries :=
  match Dict.get? entries key with
  | none => do return Dict.put key (.table .header (← fill [] values)) entries
  | some (.table .implied inner) => do
    let inner ← fill inner values
    return Dict.put key (.table .header inner) (Dict.erase key entries)
  | some _ => none

def addRepeated (key : String) (values : List Entry) (entries : Entries) : Option Entries :=
  match Dict.get? entries key with
  | none => do return Dict.put key (.tables [← fill [] values]) entries
  | some (.tables list) => do return Dict.put key (.tables ((← fill [] values) :: list)) entries
  | some _ => none

def addSection (entries : Entries) (s : Section) : Option Entries := do
  let key ← s.header.path.getLast?
  let add := if s.header.repeated then addRepeated key s.values else addTable key s.values
  changeAt add s.header.path.dropLast entries

end Precompiled.Toml

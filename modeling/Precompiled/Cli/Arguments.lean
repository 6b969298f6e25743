import Precompiled.Storage.Path

/-!
# Command lines

A command line names a command and gives its operands and options. Arguments are read from the
left, and the first one that cannot be read decides the outcome, as does a request for help.
-/

namespace Precompiled.Cli

open Storage (Path)

inductive Command where
  | inspect (artifact : Path)
  | check (artifact : Path) (libraries : List Path) (process : Bool) (config : Option Path)
  | pack (metadata output : Path) (checksum : Bool)
  deriving DecidableEq, Repr

structure Invocation where
  logLevel : String := "warn"
  command : Command
  deriving DecidableEq, Repr

/-- Why nothing is to be run. -/
inductive Stop where
  | help
  | version
  | misuse
  deriving DecidableEq, Repr

-- ---------------------------------------------------------------------------
-- Grammar
-- ---------------------------------------------------------------------------

/-- The place of an argument: before the command's name, or after it. -/
inductive Scope where
  | top
  | inspect
  | check
  | pack
  deriving DecidableEq, Repr

inductive Flag where
  | logLevel
  | library
  | process
  | config
  | noChecksum
  | help
  | version
  deriving DecidableEq, Repr

namespace Flag

def takesValue : Flag → Bool
  | .logLevel | .library | .config => true
  | .process | .noChecksum | .help | .version => false

def repeats (flag : Flag) : Bool := flag = .library

end Flag

namespace Scope

def ofName? (word : Bytes) : Option Scope :=
  if word = Utf8.encode "inspect" then some .inspect
  else if word = Utf8.encode "check" then some .check
  else if word = Utf8.encode "pack" then some .pack
  else none

def operands : Scope → Nat
  | .top => 0
  | .inspect | .check => 1
  | .pack => 2

def longFlags (scope : Scope) : List (String × Flag) :=
  [("log-level", .logLevel), ("help", .help)] ++
    match scope with
    | .top => [("version", .version)]
    | .inspect => []
    | .check => [("lib", .library), ("process", .process), ("config", .config)]
    | .pack => [("no-checksum", .noChecksum)]

def shortFlags (scope : Scope) : List (Char × Flag) :=
  ('h', .help) ::
    match scope with
    | .top => [('V', .version)]
    | .check => [('l', .library), ('c', .config)]
    | .inspect | .pack => []

end Scope

-- ---------------------------------------------------------------------------
-- Arguments
-- ---------------------------------------------------------------------------

inductive Argument where
  /-- Two dashes: only operands follow. -/
  | separator
  | long (name : Bytes) (value : Option Bytes)
  | short (letter : UInt8) (rest : Bytes)
  | word (content : Bytes)
  deriving DecidableEq, Repr

namespace Argument

def dash : UInt8 := '-'.toUInt8

def equals : UInt8 := '='.toUInt8

def cutValue (bytes : Bytes) : Bytes × Option Bytes :=
  match bytes.span (· ≠ equals) with
  | (name, _ :: value) => (name, some value)
  | (name, []) => (name, none)

/-- A dash alone is a word. -/
def classify (bytes : Bytes) : Argument :=
  match bytes with
  | first :: letter :: rest =>
    if first ≠ dash then .word bytes
    else if letter ≠ dash then .short letter rest
    else if rest.isEmpty then .separator
    else .long (cutValue rest).1 (cutValue rest).2
  | _ => .word bytes

/-- The value attached to a flag of one letter. An equals sign may stand before it. -/
def attached (rest : Bytes) : Option Bytes :=
  match rest with
  | [] => none
  | b :: value => some (if b = equals then value else rest)

/-- Whether an argument can be the value of a flag before it. -/
def isWord (bytes : Bytes) : Bool :=
  match classify bytes with
  | .word _ => true
  | _ => false

end Argument

-- ---------------------------------------------------------------------------
-- Reading
-- ---------------------------------------------------------------------------

structure Given where
  flags : List (Flag × Bytes) := []
  operands : List Bytes := []
  deriving DecidableEq, Repr

namespace Given

def has (g : Given) (flag : Flag) : Bool := g.flags.any (·.1 = flag)

def values (g : Given) (flag : Flag) : List Bytes :=
  (g.flags.filter (·.1 = flag)).map Prod.snd

/-- Whether a flag takes a value: a level has to be text, and a path must not be empty. -/
def accepts (flag : Flag) (value : Bytes) : Bool :=
  match flag with
  | .logLevel => (Utf8.decode? value).isSome
  | .library | .config => !value.isEmpty
  | _ => true

def take (g : Given) (flag : Flag) (value : Bytes) : Except Stop Given :=
  if flag = .help then .error .help
  else if flag = .version then .error .version
  else if (g.has flag && !flag.repeats) || !accepts flag value then .error .misuse
  else .ok { g with flags := g.flags ++ [(flag, value)] }

def place (scope : Scope) (g : Given) (operand : Bytes) : Except Stop Given :=
  if g.operands.length < scope.operands && !operand.isEmpty then
    .ok { g with operands := g.operands ++ [operand] }
  else .error .misuse

end Given

def Scope.flag? (scope : Scope) : Argument → Option (Flag × Option Bytes)
  | .long name value =>
    (scope.longFlags.find? fun (long, _) => Utf8.encode long = name).map fun (_, flag) =>
      (flag, value)
  | .short letter rest =>
    (scope.shortFlags.find? fun (short, _) => short.toUInt8 = letter).map fun (_, flag) =>
      (flag, if flag.takesValue then Argument.attached rest else none)
  | .separator | .word _ => none

/-- Reads the arguments of a scope up to the first word that is no operand of it. -/
def readScope (scope : Scope) (g : Given) : List Bytes → Except Stop (Given × List Bytes)
  | [] => .ok (g, [])
  | argument :: rest =>
    match Argument.classify argument with
    | .separator => do
      let g ← rest.foldlM (Given.place scope) g
      return (g, [])
    | .word _ =>
      if scope = .top then .ok (g, argument :: rest)
      else do
        let g ← g.place scope argument
        readScope scope g rest
    | form =>
      match scope.flag? form with
      | none => .error .misuse
      | some (flag, some value) =>
        if flag.takesValue then do
          let g ← g.take flag value
          readScope scope g rest
        else .error .misuse
      | some (flag, none) =>
        if flag.takesValue then
          match rest with
          | value :: rest =>
            if Argument.isWord value then do
              let g ← g.take flag value
              readScope scope g rest
            else .error .misuse
          | [] => .error .misuse
        else do
          let g ← g.take flag []
          readScope scope g rest

def Scope.command? (scope : Scope) (g : Given) : Option Command :=
  match scope, g.operands with
  | .inspect, [artifact] => some (.inspect ⟨artifact⟩)
  | .check, [artifact] =>
    some (.check ⟨artifact⟩ ((g.values .library).map (⟨·⟩)) (g.has .process)
      ((g.values .config).head?.map (⟨·⟩)))
  | .pack, [metadata, output] => some (.pack ⟨metadata⟩ ⟨output⟩ (!g.has .noChecksum))
  | _, _ => none

/-- The level that two scopes ask for. The one after the command's name counts. -/
def chosenLevel (before after : Given) : String :=
  let given := after.values .logLevel ++ before.values .logLevel
  (given.head?.map Utf8.decodeLossy).getD "warn"

def readHelp : List Bytes → Stop
  | [] => .help
  | [name] => if name = Utf8.encode "help" ∨ (Scope.ofName? name).isSome then .help else .misuse
  | _ => .misuse

def readArguments (arguments : List Bytes) : Except Stop Invocation := do
  let (before, rest) ← readScope .top {} arguments
  match rest with
  | [] => throw .misuse
  | name :: rest =>
    if name = Utf8.encode "help" then throw (readHelp rest)
    match Scope.ofName? name with
    | none => throw .misuse
    | some scope =>
      let (after, _) ← readScope scope {} rest
      match scope.command? after with
      | none => throw .misuse
      | some command => return { logLevel := chosenLevel before after, command }

end Precompiled.Cli

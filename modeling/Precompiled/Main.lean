import Precompiled.Backend.Host
import Precompiled.Cli.Run

/-!
# The program

The command line on the files of the machine. All that a command may ask about is read before it
runs, and its effects are carried out after it.
-/

namespace Precompiled.Cli

open Storage (Effect Fault Files Kind Path)

/-- The fault that the machine reports. Its number may come with a minus sign. -/
def faultOf (e : IO.Error) : Fault :=
  match e with
  | .noFileOrDirectory .. => .notFound
  | .alreadyExists .. => .alreadyExists
  | .inappropriateType _ code _ =>
    if code = 21 ∨ code = 0 - 21 then .isADirectory else .notADirectory
  | .invalidArgument _ code _ =>
    if code = 36 ∨ code = 0 - 36 then .nameTooLong else .other (toString e)
  | e => .other (toString e)

def attemptIO {α : Type} (action : IO α) : IO (Except Fault α) := do
  try return .ok (← action) catch e => return .error (faultOf e)

structure Sight where
  path : Path
  content : Except Fault Bytes

def look (path : Path) : IO Sight := do
  let content ← attemptIO (IO.FS.readBinFile path.display)
  return { path, content := content.map (·.toList) }

/-- What a path names, as far as the attempt to read it shows. -/
def Sight.kind (s : Sight) : Except Fault Kind :=
  match s.content with
  | .ok _ => .ok .file
  | .error .isADirectory => .ok .directory
  | .error fault => .error fault

def filesOf (sights : List Sight) : Files where
  kind path := match sights.find? (·.path = path) with
    | some sight => sight.kind
    | none => .error .notFound
  read path := match sights.find? (·.path = path) with
    | some sight => sight.content
    | none => .error .notFound

def makeDir (path : Path) : IO (Except Fault Unit) := do
  match ← attemptIO (IO.FS.createDir path.display) with
  | .ok () => return .ok ()
  | .error fault =>
    return if (← look path).kind matches .ok .directory then .ok () else .error fault

/-- Makes the first of some directories, and before it the others that are missing. -/
def makeDirsAlong : List Path → IO (Except Fault Unit)
  | [] => return .ok ()
  | path :: outer => do
    match ← makeDir path with
    | .error .notFound =>
      match ← makeDirsAlong outer with
      | .ok () => makeDir path
      | .error fault => return .error fault
    | made => return made

def perform : Effect → IO (Except Fault Unit)
  | .makeDirs path => makeDirsAlong path.ancestors
  | .discard path => do
    if (← look path).kind.isOk then attemptIO (IO.FS.removeFile path.display) else return .ok ()
  | .store path content => attemptIO (IO.FS.writeBinFile path.display ⟨content.toArray⟩)

def performAll : List Effect → IO (Option (Path × Fault))
  | [] => return none
  | e :: rest => do
    match ← perform e with
    | .ok () => performAll rest
    | .error fault => return some (e.path, fault)

def Action.perform : Action → IO (Attempt Report String)
  | .done a => return a
  | .change effects conclude => return conclude (← performAll effects)

def eventLine (e : Event) : String := s!"{e.level.name.toUpper} [{e.source}] {e.message}"

def present (o : Outcome) : IO UInt32 := do
  for e in o.events do IO.eprintln (eventLine e)
  IO.print o.output
  if let some report := o.report then
    for line in report.render do IO.eprintln line
  return UInt32.ofNat o.code

def runMain (arguments : List String) : IO UInt32 := do
  match readArguments (arguments.map Utf8.encode) with
  | .error stop => present stop.outcome
  | .ok invocation =>
    match logFilter (← IO.getEnv "AOTMOD_LOG") invocation.logLevel with
    | .error report => present ⟨1, "", some report, []⟩
    | .ok filter =>
      let files := filesOf (← invocation.command.looksAt.mapM look)
      present (outcome filter (← (invocation.command.run .standard files).perform))

end Precompiled.Cli

def main (arguments : List String) : IO UInt32 := Precompiled.Cli.runMain arguments

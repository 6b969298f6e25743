import Precompiled.Artifact.Writer
import Precompiled.Backend.Library
import Precompiled.Cli.Arguments
import Precompiled.Cli.LogFilter
import Precompiled.Cli.Report
import Precompiled.Load
import Precompiled.Metadata.Summary

/-!
# Running commands

What each command does with the files that it finds: it tells events, shows a text or a report of
failure, and may leave effects to be carried out before it can end.
-/

namespace Precompiled.Cli

open Storage (Effect Files FileTree Path)

/-- What is left to do for a command. -/
inductive Action where
  | done (a : Attempt Report String)
  /-- Effects to carry out, and what comes of it if all of them succeed or one is stopped. -/
  | change (effects : List Effect)
    (conclude : Option (Path × Storage.Fault) → Attempt Report String)

-- ---------------------------------------------------------------------------
-- Reports
-- ---------------------------------------------------------------------------

def storageReport (fault : Storage.Fault) : Report := ⟨fault.message, []⟩

def artifactReport (e : Artifact.Error) : Report := ⟨e.message, e.causes⟩

def libraryReport (e : Library.Error) : Report := ⟨e.message, []⟩

def optionsReport (e : LoadOptions.Error) : Report := ⟨e.message, e.causes⟩

def loadReport (e : LoadError) : Report := ⟨e.message, e.causes⟩

def documentReport (fault : Json.Fault) : Report := ⟨fault.message, []⟩

def descriptorReport (fault : DescriptorFault) : Report := ⟨fault.message, fault.causes⟩

-- ---------------------------------------------------------------------------
-- Commands
-- ---------------------------------------------------------------------------

def inspect (files : Files) (artifact : Path) : Attempt Report String := do
  let reader : Artifact.Reader := {}
  let m ← (reader.read files artifact).mapError fun e =>
    (artifactReport e).under s!"cannot read artifact {artifact.display}"
  return m.summary

def readOptions (files : Files) : Option Path → Except Report LoadOptions
  | none => .ok {}
  | some path => (LoadOptions.ofFile files path).mapError fun e =>
    (optionsReport e).under s!"cannot use loader options {path.display}"

def openLibraries (host : Host) : LibraryBackend → List Path → Attempt Report LibraryBackend
  | b, [] => return b
  | b, path :: rest => do
    Attempt.tell (.libraryNamed path)
    let b ← (b.openLibrary host path).mapError fun e =>
      (libraryReport e).under s!"cannot open library {path.display}"
    openLibraries host b rest

def boundText (m : Module) : String :=
  s!"ok: {m.kernels.length} kernel(s), {m.fields.length} field(s) bound\n" ++
    String.join (m.kernels.map fun k => s!"  {k.name} -> {k.entry.describe}\n")

def check (host : Host) (files : Files) (artifact : Path) (libraries : List Path) (process : Bool)
    (config : Option Path) : Attempt Report String := do
  let options ← readOptions files config
  let name := "aotmod-check"
  let start := if process then LibraryBackend.ofProcess host name else .empty host name
  let libraries ← openLibraries host start libraries
  let (id, registry) := Registry.register {} libraries.backend
  let m ← (load files registry options artifact id).mapError fun e =>
    (loadReport e).under s!"{artifact.display} failed to load ({e.kind.name})"
  return boundText m

def readDocument (files : Files) (path : Path) : Except Report Metadata := do
  let content ← (files.read path).mapError fun fault =>
    (storageReport fault).under s!"cannot read {path.display}"
  let record ← (Record.parse content).mapError fun fault =>
    (documentReport fault).under s!"{path.display} is not a metadata document"
  record.metadata.mapError fun fault =>
    (descriptorReport fault).under s!"{path.display} has invalid descriptors"

def packedText (output : Path) (m : Metadata) : String :=
  s!"wrote {output.display} (format version {m.version.toNat}, {m.kernels.length} kernel(s), " ++
    s!"{m.fields.length} field(s))\n"

def pack (files : Files) (document output : Path) (checksum : Bool) : Action :=
  let writer : Artifact.Writer := { checksum }
  match readDocument files document with
  | .error report => .done (.fail report)
  | .ok m =>
    match writer.plan output m with
    | .error e => .done (.fail (artifactReport e))
    | .ok effects => .change effects fun stopped => do
      (Artifact.Writer.conclude output m stopped).mapError artifactReport
      return packedText output m

def Command.run (host : Host) (files : Files) : Command → Action
  | .inspect artifact => .done (Cli.inspect files artifact)
  | .check artifact libraries process config =>
    .done (Cli.check host files artifact libraries process config)
  | .pack document output checksum => Cli.pack files document output checksum

/-- The paths that a command may ask about. -/
def Command.looksAt : Command → List Path
  | .inspect artifact => artifactPaths artifact
  | .check artifact _ _ config => config.toList ++ artifactPaths artifact
  | .pack document _ _ => [document]
where
  artifactPaths (dir : Path) : List Path :=
    dir :: [Artifact.versionFile, Artifact.metadataFile, Artifact.checksumFile].map dir.join

def Action.carryOut (t : FileTree) : Action → FileTree × Attempt Report String
  | .done a => (t, a)
  | .change effects conclude =>
    let (t, stopped) := t.carryOut effects
    (t, conclude stopped)

-- ---------------------------------------------------------------------------
-- Whole runs
-- ---------------------------------------------------------------------------

def versionText : String := "aotmod 0.1.0\n"

def usageText : String :=
  "Inspect, check and pack AOT module artifacts\n\n" ++
    "Usage: aotmod [OPTIONS] <COMMAND>\n\n" ++
    "Commands:\n" ++
    "  inspect <ARTIFACT>          Print the version, kernels and fields of an artifact\n" ++
    "  check <ARTIFACT>            Load an artifact against shared libraries\n" ++
    "  pack <METADATA> <OUTPUT>    Write an artifact directory from a metadata document\n"

/-- What a run leaves behind: the exit code, the text that it shows, the report of failure if there
is one, and the events to show. -/
structure Outcome where
  code : Nat
  output : String
  report : Option Report
  events : List Event

/-- The events that a run shows, by the filter of the environment or else by the level that the
command line asks for. Without a filter that can be read nothing is run. -/
def logFilter (environment : Option String) (level : String) : Except Report LogFilter :=
  match environment with
  | none => .ok (.ofLevel level)
  | some text => (LogFilter.parse text).mapError fun faults =>
    ⟨s!"invalid log specification `{text}`",
      ["Failed to parse log specification: " ++ "; ".intercalate (faults.map (·.message))]⟩

def Stop.outcome : Stop → Outcome
  | .help => ⟨0, usageText, none, []⟩
  | .version => ⟨0, versionText, none, []⟩
  | .misuse => ⟨2, "", none, []⟩

def outcome (filter : LogFilter) (a : Attempt Report String) : Outcome :=
  let events := a.events.filter filter.shows
  match a.outcome with
  | .ok output => ⟨0, output, none, events⟩
  | .error report => ⟨1, "", some report, events⟩

def run (host : Host) (environment : Option String) (arguments : List Bytes) (t : FileTree) :
    FileTree × Outcome :=
  match readArguments arguments with
  | .error stop => (t, stop.outcome)
  | .ok invocation =>
    match logFilter environment invocation.logLevel with
    | .error report => (t, ⟨1, "", some report, []⟩)
    | .ok filter =>
      let (t, a) := (invocation.command.run host t.files).carryOut t
      (t, outcome filter a)

end Precompiled.Cli

import Precompiled.Event
import Precompiled.Pattern.Meaning
import Precompiled.Pattern.Search

/-!
# Log filters

Which events are shown. A filter is a list of rules with commas between them: a level for all
events, or the start of a source's name with a level for what comes from there. Of the rules that
fit an event the one with the longest name counts, and of several such the first. Behind a slash may
stand a pattern; then only events are shown whose messages it occurs in.
-/

namespace Precompiled.Cli

/-- A rule for sources whose names start with `source`. Without a level it shows nothing. -/
structure LogRule where
  source : String
  limit : Option Level
  deriving DecidableEq, Repr

structure LogFilter where
  rules : List LogRule
  pattern : Option Pattern.Automaton := none
  deriving DecidableEq, Repr

inductive LogFault where
  | secondSlash (text : String)
  | blankInSource (source : String)
  | secondLevel (part : String)
  | unknownLevel
  | badPattern (text : String) (fault : Pattern.Fault)
  deriving DecidableEq, Repr

def LogFault.message : LogFault → String
  | secondSlash text => s!"invalid log spec '{text}' (too many '/'s), ignoring it"
  | blankInSource source =>
    s!"ignoring invalid part in log spec '{source}' (contains a whitespace)"
  | secondLevel part => s!"invalid part in log spec '{part}', ignoring it"
  | unknownLevel => "Invalid level filter"
  | badPattern text fault => "invalid regex filter - " ++ fault.message text.toList

namespace LogFilter

def lower (text : String) : String := String.ofList (text.toList.map Char.toLower)

/-- The level, or none, that a word stands for. -/
def limit? (word : String) : Option (Option Level) :=
  if lower word = "off" then some none else (Level.ofName? (lower word)).map some

def fields (separator : Char) (text : String) : List String :=
  (text.split (· = separator)).toStringList

def sourceOf (word : String) : Except LogFault String :=
  if word.toList.any Text.isBlank then .error (.blankInSource word) else .ok word

/-- The rule that a part of a filter spells. A source without a level shows everything. -/
def ruleOf (part : String) : Except LogFault LogRule :=
  match (fields '=' part).map Text.trim with
  | [word] => do
    let source ← sourceOf word
    match limit? word with
    | some limit => return ⟨"", limit⟩
    | none => return ⟨source, some .trace⟩
  | [word, level] => do
    let source ← sourceOf word
    if level = "" then return ⟨source, some .trace⟩
    match limit? level with
    | some limit => return ⟨source, limit⟩
    | none => throw .unknownLevel
  | _ => .error (.secondLevel part)

def gather {α : Type} : List (Except LogFault α) → Except (List LogFault) (List α)
  | [] => .ok []
  | .ok a :: rest => (gather rest).map (a :: ·)
  | .error fault :: rest =>
    match gather rest with
    | .ok _ => .error [fault]
    | .error faults => .error (fault :: faults)

def rulesOf (text : String) : Except (List LogFault) (List LogRule) :=
  gather ((((fields ',' text).map Text.trim).filter (· ≠ "")).map ruleOf)

def patternOf (text : String) : Except LogFault Pattern.Automaton :=
  (Pattern.ofText text).mapError (.badPattern text)

/-- The filter that a text spells, or all that is wrong with it. -/
def parse (text : String) : Except (List LogFault) LogFilter :=
  match fields '/' text with
  | [] => .ok ⟨[], none⟩
  | [rules] => (rulesOf rules).map fun rules => ⟨rules, none⟩
  | [rules, pattern] =>
    match rulesOf rules, patternOf pattern with
    | .ok rules, .ok pattern => .ok ⟨rules, some pattern⟩
    | .ok _, .error fault => .error [fault]
    | .error faults, .ok _ => .error faults
    | .error faults, .error fault => .error (faults ++ [fault])
  | _ => .error [.secondSlash text]

/-- The filter of a level's name, blanks and large letters in it apart. Any other text is taken for
the level of warnings. -/
def ofLevel (text : String) : LogFilter where
  rules := [⟨"", (limit? (Text.trim text)).getD (some .warn)⟩]

def ruleFor (f : LogFilter) (source : String) : Option LogRule :=
  f.rules.foldl (fun best rule =>
    if rule.source.toList.isPrefixOf source.toList &&
        best.all (fun b : LogRule => b.source.length < rule.source.length) then some rule
    else best) none

def covers (f : LogFilter) (e : Event) : Bool :=
  match f.ruleFor e.source with
  | some ⟨_, some limit⟩ => limit.covers e.level
  | _ => false

def shows (f : LogFilter) (e : Event) : Bool :=
  f.covers e && f.pattern.all (·.occursIn e.message)

end LogFilter
end Precompiled.Cli

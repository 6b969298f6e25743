/-!
# Reports of failure

What a command shows when it fails: a headline and, below it, what lies behind, nearest cause
first.
-/

namespace Precompiled.Cli

structure Report where
  headline : String
  causes : List String := []
  deriving DecidableEq, Repr

namespace Report

/-- A report under a headline of its own, with the former headline as its nearest cause. -/
def under (headline : String) (r : Report) : Report := ⟨headline, r.headline :: r.causes⟩

def lines (text : String) : List String := (text.split (· = '\n')).toStringList

/-- The lines of a text after a mark. Later lines are moved to the right as far as the first. -/
def indented (mark text : String) : List String :=
  match lines text with
  | [] => [mark]
  | first :: rest =>
    (mark ++ first) :: rest.map (String.ofList (List.replicate mark.length ' ') ++ ·)

/-- The mark of a cause. A cause that is not alone has its number before it. -/
def mark (alone : Bool) (number : Nat) : String :=
  if alone then "    " else
    let digits := toString number
    String.ofList (List.replicate (5 - digits.length) ' ') ++ digits ++ ": "

def render (r : Report) : List String :=
  lines ("Error: " ++ r.headline) ++
    if r.causes.isEmpty then []
    else
      ["", "Caused by:"] ++ r.causes.zipIdx.flatMap fun (cause, number) =>
        indented (mark (r.causes.length = 1) number) cause

end Report
end Precompiled.Cli

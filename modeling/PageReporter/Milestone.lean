import PageReporter.Value.Access

/-!
# Milestones

The milestones of loading that a navigation can wait for, by their names in the settings and in
the browser's notices.

* `Milestone` — the milestones; `Milestone.ofValue?` — the one that a setting names.
-/

namespace PageReporter

/-- The milestones of loading that a navigation can wait for. -/
inductive Milestone
  | load
  | domContentLoaded
  | networkIdle
  | networkAlmostIdle
deriving DecidableEq

namespace Milestone

/-- All milestones. -/
def all : List Milestone :=
  [.load, .domContentLoaded, .networkIdle, .networkAlmostIdle]

/-- The name of a milestone in the settings. -/
def setting : Milestone → String
  | .load => "load"
  | .domContentLoaded => "domcontentloaded"
  | .networkIdle => "networkidle0"
  | .networkAlmostIdle => "networkidle2"

/-- The name of a milestone in the browser's notices. -/
def notice : Milestone → String
  | .load => "load"
  | .domContentLoaded => "DOMContentLoaded"
  | .networkIdle => "networkIdle"
  | .networkAlmostIdle => "networkAlmostIdle"

/-- The milestone of this name in the settings. -/
def ofSetting? (name : String) : Option Milestone :=
  all.find? fun m => m.setting = name

/-- The milestone that a value names. What cannot be the key of a table cannot be looked up. -/
def ofValue? (v : Value) : Except Fault (Option Milestone) :=
  match v with
  | .str name => .ok (ofSetting? name)
  | v => v.asKey.map fun _ => none

end Milestone

end PageReporter

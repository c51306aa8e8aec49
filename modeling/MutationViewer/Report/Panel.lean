import MutationViewer.Report.Basic

/-!
# What a page shows of a report

The picker shows replacements, and the filters offer the labels of the report or the values in
use.  The info panel describes one mutant and names the first of its covering test cases, each
with the number of mutants that it kills in the whole report.
-/

namespace MutationViewer

/-- The status of the mutants that no test case has killed. -/
def Mutant.alive : String := "alive"

/-- The picker shows the replacement, and marks the mutants that are alive. -/
def Mutant.pickerText (mutant : Mutant) : String :=
  (if mutant.status = Mutant.alive then "+" else "") ++ "'" ++ mutant.replacement ++ "'"

structure InfoPanel where
  status : String
  metadata : String
  id : String
  replaced : String
  testCases : List (String × Int)
deriving DecidableEq, Repr

/-- The first `limit` items; a negative limit leaves out as many at the end. -/
def takeUpTo {Item : Type} (limit : Int) (items : List Item) : List Item :=
  if 0 ≤ limit then items.take limit.toNat
  else items.take ((items.length : Int) + limit).toNat

namespace Report

/-- The labels if there are any, else the values in use, each once. -/
def offered (labels inUse : List String) : List String :=
  if labels.isEmpty then inUse.eraseDups else labels

def offeredStatuses (report : Report) : List String :=
  offered report.statusLabels (report.mutants.values.map Mutant.status)

def offeredKindGroups (report : Report) : List String :=
  offered report.kindLabels (report.mutants.values.map Mutant.kindGroup)

/-- The number of test cases that the panel lists by default. -/
def standardTestCases : Int := 3

/-- The info panel of a mutant.  A test case without a count kills nothing. -/
def panel (report : Report) (limit : Int) (mutant : Mutant) : InfoPanel where
  status := mutant.status
  metadata := mutant.metadata
  id := mutant.id
  replaced := mutant.replaced
  testCases := (takeUpTo limit mutant.testCases).map fun name =>
    (name, (report.kills.get? name).getD 0)

end Report
end MutationViewer

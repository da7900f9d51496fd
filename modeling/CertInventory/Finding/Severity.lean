import CertInventory.Text.Case

/-!
How urgent a finding is.
-/

namespace CertInventory

/-- The severities, least urgent first. -/
inductive Severity where
  | info
  | warn
  | critical
  deriving DecidableEq, Repr

namespace Severity

def label : Severity → String
  | .info => "info"
  | .warn => "warn"
  | .critical => "critical"

def ofLabel? (s : String) : Option Severity :=
  if s = "info" then some .info
  else if s = "warn" then some .warn
  else if s = "critical" then some .critical
  else none

def rank : Severity → Nat
  | .info => 0
  | .warn => 1
  | .critical => 2

/-- How urgent a severity given by its name in any case is; any other text is as urgent as the least. -/
def rankOfLabel (s : String) : Nat :=
  match ofLabel? (Text.lowered s) with
  | some severity => severity.rank
  | none => 0

/-- The more urgent of two severities; of two equally urgent ones they are the same. -/
def max (a b : Severity) : Severity := if a.rank < b.rank then b else a

def worst : List Severity → Severity := List.foldl max .info

end Severity

end CertInventory

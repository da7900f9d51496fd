import CertInventory.Finding.Basic
import CertInventory.Outside.Failure

/-!
Sources of findings, as a run sees them: what they are called, and what their discovery came to. A source that fails
is known by its error; a source whose name cannot be had is known by the name of its kind.
-/

namespace CertInventory

structure Source where
  name : Except Failure String
  kindName : String
  outcome : Except Fault (List Finding)

abbrev Timer := String → Except Failure Unit

/-- What became of a source: its findings or its error, and whether a timer was told. -/
structure SourceReport where
  name : String
  outcome : Except String (List Finding)
  timed : Option (Except Failure Unit)

namespace Source

def displayName (s : Source) : String :=
  match s.name with
  | .ok name => name
  | .error _ => s.kindName

/-- What became of a source. A timer is told whatever the outcome, and its own failure counts for nothing. -/
def report (timer : Option Timer) (s : Source) : SourceReport where
  name := s.displayName
  outcome := s.outcome.mapError Fault.report
  timed := timer.map fun tell => tell s.displayName

end Source

namespace SourceReport

def findings (reports : List SourceReport) : List Finding :=
  reports.flatMap fun r => match r.outcome with
    | .ok fs => fs
    | .error _ => []

/-- Puts an error under a name: of several errors under one name the last stays, in the place of the first. -/
def putError (name text : String) : List (String × String) → List (String × String)
  | [] => [(name, text)]
  | (n, t) :: r => if n = name then (n, text) :: r else (n, t) :: putError name text r

def errors (reports : List SourceReport) : List (String × String) :=
  reports.foldl (fun found r => match r.outcome with
    | .ok _ => found
    | .error text => putError r.name text found) []

def timedNames (reports : List SourceReport) : List String :=
  reports.filterMap fun r => r.timed.map fun _ => r.name

end SourceReport

end CertInventory

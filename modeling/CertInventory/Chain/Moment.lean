import CertInventory.Chain.Defect
import CertInventory.Time.Written

/-!
Checks at a time as it is written. A time without an offset names no instant of its own: the defects of a chain are
then looked for at that time in universal time, but a trust path cannot be checked at it. A time with an offset may
lie beyond the calendar in universal time; no check has an answer there.
-/

namespace CertInventory.Chain

open Time

inductive MomentFault where
  | noOffset
  | beyondCalendar
  | damaged (f : DecodeFault)
  deriving DecidableEq, Repr

def instantOf (w : WrittenTime) : Except MomentFault Instant :=
  if w.offset.isNone then .error .noOffset
  else
    match w.toInstant? with
    | some t => .ok t
    | none => .error .beyondCalendar

def validityFailureAt (c : Certificate) (w : WrittenTime) : Except MomentFault (Option TrustFailure) :=
  (instantOf w).map (validityFailure? c)

/-- `trustFailure` at a written time, which is looked at behind the authorities of the chain. -/
def trustFailureAt (leaf : Certificate) (rest : List Certificate) (w : WrittenTime) :
    Except MomentFault (Option TrustFailure) := do
  if rest.isEmpty then return none
  else
    let _ ← (Pools.ofList rest).mapError .damaged
    (trustFailure leaf rest (← instantOf w)).mapError .damaged

/-- `defects` at a written time; the time of an empty chain is not looked at. -/
def defectsAt (chain : List Certificate) (hostname : String) (w : WrittenTime) : Except MomentFault (List Defect) :=
  if chain.isEmpty then .ok []
  else
    match w.toInstant? with
    | none => .error .beyondCalendar
    | some t => (defects chain hostname t).mapError .damaged

end CertInventory.Chain

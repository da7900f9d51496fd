import CertInventory.Datum.Json.Reader
import CertInventory.Datum.Json.Writer
import CertInventory.Datum.Shown
import CertInventory.History.Basic

/-!
Snapshots in the history. Saving writes the parts of a snapshot as JSON, and loading reads them back; a row whose
texts were changed meanwhile may be unreadable. A snapshot with a number of too many digits cannot be written, and
numbers that do not fit into 64 bits can neither be given nor be asked for.
-/

namespace CertInventory

/-- Why the history gives no snapshot. -/
inductive HistoryError where
  | oversizedNumber
  | unreadableText (e : Json.ReadProblem)
  | unreadable (e : Snapshot.ReadError)
  deriving DecidableEq, Repr

/-- Why a snapshot is not saved: a number in it cannot be written, or every number of a row was given. -/
inductive SaveError where
  | unwritableNumber
  | noNumberLeft
  deriving DecidableEq, Repr

def SaveError.message : SaveError → String
  | .unwritableNumber => Text.digitLimitMessage ""
  | .noNumberLeft => "database or disk is full"

/-- Whether a snapshot can be written: no number in it or in its summary has too many digits. -/
def Snapshot.isWritable (s : Snapshot) : Bool :=
  s.findingsDatum.isShowable && (Summary.ofSnapshot s).toDatum.isShowable

/-- A row as listed: its number, its time as written, and its summary. -/
structure HistoryEntry where
  id : Nat
  time : String
  summary : Datum

def HistoryEntry.toDatum (e : HistoryEntry) : Datum :=
  .object [("id", .int e.id), ("at", .text e.time), ("summary", e.summary)]

namespace HistoryRow

def ofSnapshot (s : Snapshot) (id : Nat) : HistoryRow where
  id := id
  time := s.time.text
  findings := Json.render s.findingsDatum
  errors := Json.render s.errorsDatum
  summary := Json.render (Summary.ofSnapshot s).toDatum

def content (text : String) (default : Datum) : Except Json.ReadProblem Datum :=
  if text.isEmpty then .ok default else Json.read text

def toSnapshot (r : HistoryRow) : Except HistoryError Snapshot := do
  let findings ← (content r.findings (.list [])).mapError .unreadableText
  let errors ← (content r.errors (.map [])).mapError .unreadableText
  (Snapshot.ofParts (.text r.time) findings errors).mapError .unreadable

/-- The row as listed; a summary that cannot be read shows as an empty one. -/
def toEntry (r : HistoryRow) : HistoryEntry := ⟨r.id, r.time, (content r.summary (.map [])).toOption.getD (.map [])⟩

end HistoryRow

namespace History

def fits (n : Int) : Bool := -(Nat.pow 2 63 : Int) ≤ n && n < (Nat.pow 2 63 : Int)

def nextId (h : History) : Nat := h.lastId + 1

/-- Saves a snapshot under the next number: that number, and the history with its row. -/
def save (h : History) (s : Snapshot) : Except SaveError (Nat × History) :=
  if s.isWritable then
    if hroom : h.lastId < HistoryRow.maxId then
      .ok (h.nextId, h.push (HistoryRow.ofSnapshot s) (fun _ => rfl) hroom)
    else .error .noNumberLeft
  else .error .unwritableNumber

def load (h : History) (id : Int) : Except HistoryError (Option Snapshot) :=
  if fits id then
    match h.row? id with
    | none => .ok none
    | some r => r.toSnapshot.map some
  else .error .oversizedNumber

def latest (h : History) : Except HistoryError (Option Snapshot) :=
  match h.rows with
  | [] => .ok none
  | r :: _ => r.toSnapshot.map some

def defaultLimit : Int := 20

/-- The newest rows, newest first: at most so many, or all of them where the limit is negative. -/
def list (h : History) (limit : Int) : Except HistoryError (List HistoryEntry) :=
  if fits limit then
    .ok ((if limit < 0 then h.rows else h.rows.take limit.toNat).map HistoryRow.toEntry)
  else .error .oversizedNumber

end History

end CertInventory

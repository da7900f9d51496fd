import CertInventory.Finding.Written

/-!
Snapshots: the findings of one run, with the errors of the sources that failed. A snapshot is written as a document
and read back from one; what findings carry for the revocation checks is not written.
-/

namespace CertInventory

/-- The findings of one run, and the errors of sources by their names. -/
structure Snapshot where
  time : Time.Instant
  findings : List Finding
  errors : List (String × String)

namespace Snapshot

def withoutTransients (s : Snapshot) : Snapshot :=
  { s with findings := s.findings.map Finding.withoutTransients }

def errorsDatum (s : Snapshot) : Datum := .object (s.errors.map fun (name, text) => (name, .text text))

def findingsDatum (s : Snapshot) : Datum := .list (s.findings.map Finding.toDatum)

def fields (s : Snapshot) : List (String × Datum) :=
  [("at", .text s.time.text)] ++ (if s.errors.isEmpty then [] else [("errors", s.errorsDatum)]) ++
    [("findings", s.findingsDatum)]

def toDatum (s : Snapshot) : Datum := .object s.fields

inductive ReadError where
  | notDocument
  | noTime
  | notFindings
  | refused (r : Refusal)
  deriving DecidableEq, Repr

/-- Reads findings one by one; the first that is refused is reported, by itself. -/
def readAll : List Datum → Except ReadError (List Finding)
  | [] => .ok []
  | d :: r =>
    match Finding.ofDatum d with
    | .refused why => .error (.refused why)
    | .good f => (readAll r).map (f :: ·)

/-- Reads findings: nothing stands for none, and the parts of a map or a text are no findings. -/
def readFindings (d : Datum) : Except ReadError (List Finding) :=
  if d.isVoid then .ok []
  else
    match d with
    | .list items => readAll items
    | .map _ | .scalar (.text _) => .error (.refused (.invalid [⟨[], .notRecord⟩]))
    | _ => .error .notFindings

def readErrors (d : Datum) : Checked (List (String × String)) :=
  if d.isVoid then .good [] else d.toTextMap

/-- Reads a snapshot from its three parts. The findings come first; time and errors are checked together. -/
def ofParts (written findings errors : Datum) : Except ReadError Snapshot :=
  match readFindings findings with
  | .error e => .error e
  | .ok fs =>
    let rest := (Checked.map (fun t errors => Snapshot.mk t fs errors) (written.toTime.under (.field "at"))).both
      ((readErrors errors).under (.field "errors"))
    match rest with
    | .good s => .ok s
    | .refused r => .error (.refused r)

def ofDatum : Datum → Except ReadError Snapshot
  | .map entries =>
    match Datum.field? entries "at" with
    | none => .error .noTime
    | some written =>
      ofParts written ((Datum.field? entries "findings").getD .null) ((Datum.field? entries "errors").getD .null)
  | _ => .error .notDocument

end Snapshot

end CertInventory

import CertInventory.Config.Basic
import CertInventory.Datum.Checked
import CertInventory.Datum.Shown
import CertInventory.Time.DurationText

/-!
Reading a configuration out of a document. Every field has a default; all problems of all fields are reported
together, and the whole is checked only when every field is good.
-/

namespace CertInventory

open Time

inductive DurationProblem where
  | empty
  | invalid (shown : String)
  | notShowable
  | notANumber
  | outOfRange
  deriving DecidableEq, Repr

def DurationProblem.message : DurationProblem → String
  | .empty => "empty duration"
  | .invalid shown => "invalid duration: " ++ shown
  | .notShowable => Text.digitLimitMessage ""
  | .notANumber => "cannot convert float NaN to integer"
  | .outOfRange => "days out of range"

def durationOfSeconds : Except SecondsError Duration → Except DurationProblem Duration
  | .ok d => .ok d
  | .error .notANumber => .error .notANumber
  | .error .outOfRange => .error .outOfRange

/-- A duration: a number of seconds, or a written duration. Values that count as absent are empty. -/
def durationOfDatum (v : Datum) : Except DurationProblem Duration :=
  match v with
  | .bool _ => .error (.invalid v.shown)
  | .int n => durationOfSeconds (Duration.ofWholeSeconds n)
  | .real x => durationOfSeconds (Duration.ofFloatSeconds x)
  | .text s =>
    match Duration.parse s with
    | .ok d => .ok d
    | .error .empty => .error .empty
    | .error .invalid => .error (.invalid v.shown)
    | .error .outOfRange => .error .outOfRange
  | _ =>
    if v.isVoid then .error .empty
    else if v.isShowable then .error (.invalid v.shown)
    else .error .notShowable

namespace Config

def readDuration (v : Datum) : Checked Duration :=
  match durationOfDatum v with
  | .ok d => .good d
  | .error .outOfRange => .refused .outOfRange
  | .error p => .problem (.rejected p.message)

def readTarget (v : Datum) : Checked String :=
  v.toRecord fun entries => Datum.requiredField entries "url" "url" Datum.toText

def readBundle (v : Datum) : Checked FileBundle :=
  v.toRecord fun entries =>
    FileBundle.mk <$> Datum.requiredField entries "path" "path" Datum.toText
      <*> Datum.fieldOr entries "hostname" "hostname" "" Datum.toText
      <*> Datum.fieldOr entries "name" "name" "" Datum.toText

def ofEntries (entries : List (Scalar × Datum)) : Checked Config :=
  Config.mk <$> Datum.fieldOr entries "listenAddr" "listen_addr" defaults.listenAddress Datum.toText
    <*> Datum.fieldOr entries "clusterName" "cluster_name" defaults.clusterName Datum.toText
    <*> Datum.fieldOr entries "refreshEvery" "refresh_every" defaults.refreshEvery readDuration
    <*> Datum.fieldOr entries "warnBefore" "warn_before" defaults.warnBefore readDuration
    <*> Datum.fieldOr entries "critBefore" "crit_before" defaults.critBefore readDuration
    <*> Datum.fieldOr entries "checkRevocation" "check_revocation" defaults.checkRevocation Datum.toTruth
    <*> Datum.fieldOr entries "external" "external" [] (Datum.toList readTarget)
    <*> Datum.fieldOr entries "files" "files" [] (Datum.toList readBundle)

def checked (c : Config) : Checked Config :=
  match c.flaw? with
  | none => .good c
  | some f => .problem (.rejected f.message)

/-- Reads a configuration; a document that counts as absent gives the defaults. -/
def ofDatum (v : Datum) : Except Refusal Config :=
  let document := if v.isVoid then Datum.map [] else v
  match document.toRecord ofEntries with
  | .refused r => .error r
  | .good c => c.checked.toExcept

end Config

end CertInventory

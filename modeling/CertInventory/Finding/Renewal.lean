import CertInventory.Finding.Basic

/-!
Certificates that a manager renews by itself. An urgent finding about one, matched by name or by serial number, is
mere information while the renewal is healthy; where a renewal request is pending it stays urgent and says so.
-/

namespace CertInventory.Finding

def managedKey (f : Finding) : String := f.namespaceName ++ "/" ++ f.name

/-- Whether a finding shows that its certificate is managed. -/
def showsManaged (f : Finding) : Bool := f.source == certManagerSource && f.probeOk

def showsPending (f : Finding) : Bool := f.source == renewalSource && f.findingType == requestPending

/-- The keys of the managed certificates of a run. -/
def managedKeys (all : List Finding) : List String := (all.filter showsManaged).map managedKey

def pendingKeys (all : List Finding) : List String := (all.filter showsPending).map managedKey

/-- The key of the managed certificate with a serial number; of several the last counts. -/
def keyOfSerial? (all : List Finding) (serial : String) : Option String :=
  ((all.filter fun f => f.showsManaged && f.serial == serial).map managedKey).getLast?

def keyAmong? (all : List Finding) (f : Finding) : Option String :=
  if f.source = certManagerSource then
    if f.managedKey ∈ managedKeys all then some f.managedKey else none
  else if f.serial.isEmpty then none
  else keyOfSerial? all f.serial

def withNote (f : Finding) (note : String) : String := if f.notes.isEmpty then note else f.notes ++ "; " ++ note

/-- The finding in the light of all findings of its run. -/
def renewed (all : List Finding) (f : Finding) : Finding :=
  if f.severity = .info then f
  else
    match f.keyAmong? all with
    | none => f
    | some key =>
      if key ∈ pendingKeys all then
        { f with notes := f.withNote ("managed by cert-manager Certificate " ++ key ++ ", renewal UNHEALTHY") }
      else
        { f with
          findingType := managedExpiry
          severity := .info
          notes := "managed by cert-manager Certificate " ++ key ++ ", renewal healthy" }

def renewAll (all : List Finding) : List Finding := all.map (renewed all)

end CertInventory.Finding

import CertInventory.Revocation.Ocsp

/-!
Looking a certificate up in the revocation lists that it names, one place after the other, until one of them gives a
reason to report; and the whole check of a certificate. Its OCSP part needs the issuer and prefers a staple to asking.
-/

namespace CertInventory.Revocation

open Time

def listRequest (url : String) : HttpRequest := ⟨.get, url, 10000, none⟩

def fetchList {σ : Type} (web : Web σ) (url : String) : Task (Session σ) RevocationList := do
  match (← Session.send web (listRequest url)).revocationList? with
  | some l => return l
  | none => throw (.decode .malformed)

/-- Whether a fault of fetching a list is reported: failures of transport and damaged bytes. -/
def isFetchFault : Fault → Bool
  | .decode .malformed => true
  | f => f.isTransport

def listVerdict (url : String) (l : RevocationList) (c : Certificate) (now : Instant) : Option Result :=
  let listed := if l.serials.contains c.serial then
      some ⟨.revoked, "CRL from " ++ url ++ ": certificate serial " ++ Text.showHex c.serial ++ " revoked"⟩
    else none
  match l.nextUpdate with
  | some limit =>
    if limit < now then some ⟨.listStale, "CRL from " ++ url ++ " expired " ++ limit.secondText⟩ else listed
  | none => listed

def listOf {σ : Type} (web : Web σ) (url : String) (now : Instant) :
    Task (Session σ) (Except Fault RevocationList) := do
  match ← Session.kept? url now with
  | some l => return .ok l
  | none =>
    match ← (fetchList web url).catching isFetchFault with
    | .error f => return .error f
    | .ok l =>
      Session.keep url l now
      return .ok l

/-- Looks a certificate up at these places; the first that gives something to report ends the search. -/
def searchLists {σ : Type} (web : Web σ) (c : Certificate) (now : Instant) :
    List String → Task (Session σ) (Option Result)
  | [] => return none
  | url :: r => do
    match ← listOf web url now with
    | .error f => return some ⟨.unreachable, "CRL fetch from " ++ url ++ ": " ++ f.text⟩
    | .ok l =>
      match listVerdict url l c now with
      | some result => return some result
      | none => searchLists web c now r

def checkLists {σ : Type} (web : Web σ) (c : Certificate) (now : Instant) : Task (Session σ) (Option Result) := do
  searchLists web c now (← Task.ofDecoding c.revocationLists)

def checkOcsp {σ : Type} (web : Web σ) (c : Certificate) (issuer : Option Certificate) (staple : OcspBody)
    (now : Instant) : Task (Session σ) (Option Result) :=
  match issuer with
  | none => return none
  | some _ => if staple.isEmpty then askResponder web c else return checkStaple staple c now

/-- What a check reports about a certificate, as texts; without a certificate there is nothing to check. -/
def check {σ : Type} (web : Web σ) (useLists : Bool) (c : Option Certificate) (issuer : Option Certificate)
    (staple : OcspBody) (now : Instant) : Task (Session σ) (List String) :=
  match c with
  | none => return []
  | some c => do
    let ocsp ← checkOcsp web c issuer staple now
    let lists ← if useLists then checkLists web c now else pure none
    return (ocsp.toList ++ lists.toList).map Result.text

end CertInventory.Revocation

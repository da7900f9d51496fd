import CertInventory.Outside.Web
import CertInventory.Revocation.Session
import CertInventory.Revocation.Result

/-!
The two ways to an OCSP answer: stapled to a handshake, or asked for at the responder that the certificate names
first. A staple has to be about the certificate's serial number and in date; of a responder's answer only its
standing counts.
-/

namespace CertInventory.Revocation

open Time

def stapleStanding : Standing → Option Result
  | .revoked => some ⟨.revoked, "OCSP staple: certificate revoked"⟩
  | .good => none
  | .unknown => some ⟨.unreachable, "OCSP staple status: " ++ Standing.unknown.label⟩

def checkStaple (staple : OcspBody) (c : Certificate) (now : Instant) : Option Result :=
  match staple.read? with
  | none => some ⟨.stapleInvalid, "OCSP staple parse error: " ++ DecodeFault.malformed.message⟩
  | some (.error r) => some ⟨.stapleInvalid, "OCSP staple response status: " ++ r.label⟩
  | some (.ok a) =>
    if a.serial ≠ c.serial then some ⟨.stapleInvalid, "OCSP staple is for a different certificate"⟩
    else
      match a.nextUpdate with
      | some limit =>
        if limit < now then some ⟨.stapleInvalid, "OCSP staple expired at " ++ limit.secondText⟩
        else stapleStanding a.standing
      | none => stapleStanding a.standing

def responderRequest (url : String) : HttpRequest :=
  ⟨.post, String.ofList (requestAddress url), 5000, some "application/ocsp-request"⟩

def responderVerdict (url : String) (body : HttpBody) : Option Result :=
  match body.ocsp? with
  | none => some ⟨.unreachable, "OCSP response parse error: " ++ DecodeFault.malformed.message⟩
  | some (.error r) => some ⟨.unreachable, "OCSP responder at " ++ url ++ " answered " ++ r.label⟩
  | some (.ok a) =>
    match a.standing with
    | .revoked => some ⟨.revoked, "OCSP confirms revocation (responder: " ++ url ++ ")"⟩
    | _ => none

def post {σ : Type} (web : Web σ) (url : String) : Task (Session σ) HttpBody :=
  if hasScheme (requestAddress url) then Session.send web (responderRequest url)
  else throw (.noScheme (String.ofList (requestAddress url)))

/-- Asks the first responder that the certificate names; without one there is nothing to report. -/
def askResponder {σ : Type} (web : Web σ) (c : Certificate) : Task (Session σ) (Option Result) := do
  match ← Task.ofDecoding c.responders with
  | [] => return none
  | url :: _ =>
    match ← (post web url).catching Fault.isTransport with
    | .error f => return some ⟨.unreachable, "OCSP responder at " ++ url ++ ": " ++ f.text⟩
    | .ok body => return responderVerdict url body

end CertInventory.Revocation

import CertInventory.Chain.Defect
import CertInventory.Finding.Basic
import CertInventory.Posture
import CertInventory.Probe
import CertInventory.Certificate.Pem

/-!
Describing a chain in a finding. The facts are copied one after the other, so a certificate that cannot be read
leaves those before the fault in place. A damaged encoding becomes the chain's only error; an unknown kind of key
breaks the task off.
-/

namespace CertInventory.Finding

open Time

def describe (leaf : Certificate) (chain : List Certificate) (f : Finding) : Finding × Except DecodeFault Unit :=
  let f := { f with
    notAfter := some leaf.notAfter
    subject := leaf.subject.text
    issuer := leaf.issuer.text
    serial := Text.showInt leaf.serial }
  match leaf.dnsNames with
  | .error e => (f, .error e)
  | .ok names =>
    let f := { f with
      dnsNames := names
      issuerChain := chain.map fun c => c.issuer.text
      signatureAlgorithm := leaf.signature.algorithm.text }
    match leaf.publicKey with
    | .error e => (f, .error e)
    | .ok key =>
      let f := { f with keyAlgorithm := key.kind.label, keySize := key.kind.size }
      if chain.length = 1 then
        match leaf.isSelfSigned with
        | .error e => (f, .error e)
        | .ok selfSigned => ({ f with selfSigned := selfSigned }, .ok ())
      else (f, .ok ())

/-- Describes a chain and looks for its defects. Without an instant, as for a time beyond the calendar, the looking for
defects breaks the task off. -/
def examine (chain : List Certificate) (hostname : String) (now : Option Instant) (f : Finding) :
    Finding × Except Fault (List Chain.Defect) :=
  match chain with
  | [] => (f, .ok [])
  | leaf :: _ =>
    match f.describe leaf chain, now with
    | (f, .error e), _ => (f, .error (.decode e))
    | (f, .ok ()), none => (f, .error .outOfRange)
    | (f, .ok ()), some t => (f, (Chain.defects chain hostname t).mapError .decode)

def unreadable (e : DecodeFault) : String := "certificate could not be decoded: " ++ e.message

/-- The finding with the defects of a chain; without defects it keeps what it has. -/
def withDefects (ds : List Chain.Defect) (f : Finding) : Finding :=
  if ds.isEmpty then f else { f with chainErrors := ds.map Chain.Defect.message }

/-- The finding with the issues of a handshake; without issues it keeps what it has. -/
def withHandshake (p : Presented) (f : Finding) : Finding :=
  let issues := Posture.issues p.version p.cipher
  let f := { f with tlsVersion := p.version, cipherSuite := p.cipher }
  if issues.isEmpty then f else { f with postureIssues := issues.map Posture.Issue.message }

/-- The finding with what the revocation checks need of a chain; an empty chain leaves it alone. -/
def carrying (p : Presented) (f : Finding) : Finding :=
  match p.chain with
  | [] => f
  | leaf :: rest => { f with certificate := some leaf, issuerCertificate := rest.head?, staple := p.staple }

def presenting (p : Presented) (hostname : String) (now : Option Instant) (f : Finding) :
    Finding × Except Fault Unit :=
  match { f with chainLength := p.chain.length }.examine p.chain hostname now with
  | (f, .ok ds) => (((f.carrying p).withDefects ds).withHandshake p, .ok ())
  | (f, .error e) =>
    match e.encoding? with
    | some d => ({ f with chainErrors := [unreadable d] }.withHandshake p, .ok ())
    | none => (f, .error e)

/-- Describes the bundle in a file. The leaf is given where the bundle can be read; a failure of the loader that is not
expected breaks the task off. -/
def bundling (decode : Pem.Loader) (bundle : List UInt8) (hostname : String) (now : Option Instant) (f : Finding) :
    Finding × Except Fault (Option Certificate) :=
  match Pem.read decode bundle with
  | .error (.unexpected failure) => (f, .error (.outside failure))
  | .error e => ({ f with probeOk := false, probeError := e.message }, .ok none)
  | .ok chain =>
    match { f with probeOk := true, chainLength := chain.length }.examine chain hostname now with
    | (f, .ok ds) => (f.withDefects ds, .ok chain.head?)
    | (f, .error e) =>
      match e.encoding? with
      | some d => ({ f with chainErrors := [unreadable d] }, .ok chain.head?)
      | none => (f, .error e)

end CertInventory.Finding

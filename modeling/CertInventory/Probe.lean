import CertInventory.Outside.Network
import CertInventory.Posture
import CertInventory.Target.Basic

/-!
Probing a target: dialling it, shaking hands and collecting what the peer presents. Only a failing dial is repeated,
after one second and then after two; once the peer has answered, the outcome of the handshake is final.
-/

namespace CertInventory

inductive ProbeFailure where
  | target (e : UrlError)
  | unsupportedScheme (scheme : String)
  | malformedTarget (target : String) (e : HostPortError)
  | dial (f : Failure)
  | handshake (f : Failure)
  | noCertificates
  | unreadableCertificate (f : Failure)
  deriving DecidableEq, Repr

def ProbeFailure.message : ProbeFailure → String
  | .target e => e.message
  | .unsupportedScheme s => "unsupported scheme: " ++ s ++ " (use https or tcp)"
  | .malformedTarget t e => "malformed target " ++ Text.quoted t ++ ": " ++ e.message
  | .dial f => f.report
  | .handshake f => f.report
  | .noCertificates => "no peer certificates presented"
  | .unreadableCertificate f => "parsing peer certificate: " ++ f.text

theorem ProbeFailure.message_ne_empty (f : ProbeFailure) : f.message ≠ "" := by
  unfold message
  cases f with
  | target e => exact e.message_ne_empty
  | dial f | handshake f => exact f.report_ne_empty
  | noCertificates => decide
  | unsupportedScheme s =>
    rw [ne_eq, String.append_eq_empty_iff]
    exact fun h => absurd h.2 (by decide)
  | malformedTarget t e =>
    rw [ne_eq, String.append_eq_empty_iff, String.append_eq_empty_iff]
    exact fun h => absurd h.1.2 (by decide)
  | unreadableCertificate f =>
    rw [ne_eq, String.append_eq_empty_iff]
    exact fun h => absurd h.1 (by decide)

structure Presented where
  chain : List Certificate
  version : String
  cipher : String
  staple : OcspBody

/-- The result of a probe: what the peer presented or why there is nothing, and how often the dial was repeated. -/
structure ProbeResult where
  outcome : Except ProbeFailure Presented
  retries : Nat

namespace ProbeResult

def isOk (r : ProbeResult) : Bool :=
  match r.outcome with
  | .ok _ => true
  | .error _ => false

def error (r : ProbeResult) : String :=
  match r.outcome with
  | .ok _ => ""
  | .error f => f.message

def presented (r : ProbeResult) : Presented :=
  match r.outcome with
  | .ok p => p
  | .error _ => ⟨[], "", "", .empty⟩

def leaf? (r : ProbeResult) : Option Certificate := r.presented.chain.head?

end ProbeResult

/-- What a source is told of a probe, by whatever probed the target: whether it succeeded, what went wrong, how often
the dial was repeated, the certificate it is about and what the peer presented. -/
structure ProbeReport where
  isOk : Bool
  error : String
  retries : Int
  leaf? : Option Certificate
  presented : Presented

def ProbeResult.report (r : ProbeResult) : ProbeReport := ⟨r.isOk, r.error, r.retries, r.leaf?, r.presented⟩

namespace Probe

def maxRetries : Nat := 2

def timeoutMillis : Nat := 5000

/-- The pause before an attempt, which doubles from one to the next; there is none before the first. -/
def pauseBefore : Nat → List Nat
  | 0 => []
  | n + 1 => [1000 * Nat.pow 2 n]

/-- The chain in bytes: as the connection reports it, or else the leaf alone. -/
def chainBytes (h : Handshake) : List PeerBytes :=
  match (h.chain.getD []).filterMap id with
  | [] => h.leaf.toList
  | items => items

/-- The certificates of a chain; the first item that is refused refuses the whole. -/
def readChain : List PeerBytes → Except Failure (List Certificate)
  | [] => .ok []
  | .certificate c :: r => (readChain r).map (c :: ·)
  | .refused f :: _ => .error f

/-- What a completed handshake amounts to. Bytes that are refused by a failure of a value are told of; a refusal of
another kind is not expected, and breaks the probe off. -/
def collect (h : Handshake) : Except Failure (Except ProbeFailure Presented) :=
  let items := chainBytes h
  if items.isEmpty then .ok (.error .noCertificates)
  else
    match readChain items with
    | .error f => if f.kind.isValue then .ok (.error (.unreadableCertificate f)) else .error f
    | .ok chain => .ok (.ok ⟨chain, Posture.versionName (h.version.getD ""), h.cipher.getD "", h.staple⟩)

/-- The result of a handshake; a failure that no handshake is expected to have breaks the probe off. -/
def finish (attempt : Nat) : Except Failure Handshake → Except Failure ProbeResult
  | .ok h => (collect h).map fun outcome => ⟨outcome, attempt⟩
  | .error f => if f.kind.endsHandshake then .ok ⟨.error (.handshake f), attempt⟩ else .error f

/-- A finished probe: its result, what was done, and the network afterwards. -/
structure Finished (α σ : Type) where
  result : Except Failure α
  trace : Trace
  network : σ

def Finished.map {α β σ : Type} (view : α → β) (p : Finished α σ) : Finished β σ :=
  ⟨p.result.map view, p.trace, p.network⟩

def dialTrace (address : String) (attempt : Nat) : Trace :=
  ⟨[⟨timeoutMillis, "tcp", address⟩], pauseBefore attempt, [], 0⟩

/-- Dials an address up to `left` times more after this attempt, and shakes hands on the first connection. -/
def attemptFrom {σ : Type} (net : Network σ) (address serverName : String) (attempt : Nat) :
    Nat → σ → Finished ProbeResult σ
  | left, s =>
    match net.dial address s with
    | (.ok handshake, s') =>
      ⟨finish attempt handshake, dialTrace address attempt ++ ⟨[], [], [serverName], 1⟩, s'⟩
    | (.error f, s') =>
      match left with
      | 0 => ⟨.ok ⟨.error (.dial f), attempt⟩, dialTrace address attempt, s'⟩
      | left + 1 =>
        let later := attemptFrom net address serverName (attempt + 1) left s'
        { later with trace := dialTrace address attempt ++ later.trace }

def schemes : List String := ["https", "tcp"]

/-- The address to dial and the name to ask for, or why a target has none. -/
def endpoint (target : String) : Except ProbeFailure (String × String) :=
  match Url.split target with
  | .error e => .error (.target e)
  | .ok u =>
    if u.scheme ∉ schemes then .error (.unsupportedScheme u.scheme)
    else
      match HostPort.split u.authority with
      | .error e => .error (.malformedTarget target e)
      | .ok hp => .ok (u.authority, (Target.namedBy? u.query).getD hp.host)

/-- Probes a target. -/
def run {σ : Type} (net : Network σ) (target : String) (s : σ) : Finished ProbeResult σ :=
  match endpoint target with
  | .error f => ⟨.ok ⟨.error f, 0⟩, .none, s⟩
  | .ok (address, serverName) => attemptFrom net address serverName 0 maxRetries s

end Probe

/-- A connection made directly: to host and port of an address, within a time limit. -/
structure Connection where
  host : String
  port : Nat
  timeoutMillis : Int
  deriving DecidableEq, Repr

inductive DialError where
  | unsupportedNetwork (name : String)
  | address (e : HostPortError)
  deriving DecidableEq, Repr

def DialError.message : DialError → String
  | .unsupportedNetwork name => "unsupported network: " ++ name
  | .address e => e.message

def Connection.direct (network address : String) (timeoutMillis : Int) : Except DialError Connection :=
  if network ≠ "tcp" then .error (.unsupportedNetwork network)
  else
    match HostPort.split address with
    | .error e => .error (.address e)
    | .ok hp => .ok ⟨hp.host, hp.port, timeoutMillis⟩

end CertInventory

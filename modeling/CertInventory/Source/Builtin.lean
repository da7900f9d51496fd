import CertInventory.Config.Load
import CertInventory.Source.Description

/-!
The sources that a configuration names: external targets, which are probed, and files with certificates. Each gives
one finding per entry, in order, unless a fault breaks it off.
-/

namespace CertInventory.Source

open Time

def probedFinding (url hostname : String) (r : ProbeReport) : Finding :=
  { Finding.ofSource Finding.externalSource with
    target := url
    serverName := hostname
    probeOk := r.isOk
    probeError := r.error
    retryCount := r.retries }

/-- The finding for a probed target with its chain described, where there is one. -/
def describedFinding (url hostname : String) (r : ProbeReport) (now : Instant) : Except Fault Finding :=
  let f := probedFinding url hostname r
  if r.isOk && r.leaf?.isSome then
    match f.presenting r.presented hostname (some now) with
    | (f, .ok ()) => .ok f
    | (_, .error e) => .error e
  else .ok f

/-- What a source did: its findings or the fault that broke it off, the trace, and the network afterwards. -/
structure Discovery (σ : Type) where
  outcome : Except Fault (List Finding)
  trace : Trace
  network : σ

def probeTargets {σ : Type} (probe : String → σ → Probe.Finished ProbeReport σ) (now : Instant) :
    List String → σ → Discovery σ
  | [], s => ⟨.ok [], .none, s⟩
  | url :: r, s =>
    match Target.serverName url with
    | .error e => ⟨.error (.target e), .none, s⟩
    | .ok hostname =>
      let probed := probe url s
      match probed.result with
      | .error f => ⟨.error (.outside f), probed.trace, probed.network⟩
      | .ok result =>
        match describedFinding url hostname result now with
        | .error fault => ⟨.error fault, probed.trace, probed.network⟩
        | .ok f =>
          let later := probeTargets probe now r probed.network
          ⟨later.outcome.map (f :: ·), probed.trace ++ later.trace, later.network⟩

def bundleFinding (b : FileBundle) : Finding :=
  { Finding.ofSource Finding.fileSource with
    name := if b.name.isEmpty then b.path else b.name
    target := b.path
    serverName := b.hostname }

def readingError (path : String) (f : Failure) : String :=
  let said := f.systemMessage?.getD ""
  "reading " ++ path ++ ": " ++ (if said.isEmpty then f.text else said)

theorem readingError_ne_empty (path : String) (f : Failure) : readingError path f ≠ "" := by
  unfold readingError
  rw [ne_eq, String.append_eq_empty_iff, String.append_eq_empty_iff, String.append_eq_empty_iff]
  exact fun h => absurd h.1.1.1 (by decide)

def readBundle (files : Files) (decode : Pem.Loader) (now : Instant) (b : FileBundle) :
    Except Fault Finding :=
  let f := bundleFinding b
  match files b.path with
  | .error e =>
    if e.kind.isSystem then .ok { f with probeOk := false, probeError := readingError b.path e }
    else .error (.outside e)
  | .ok bytes =>
    match f.bundling decode bytes b.hostname (some now) with
    | (f, .ok _) => .ok f
    | (_, .error e) => .error e

def readBundles (files : Files) (decode : Pem.Loader) (now : Instant)
    (bs : List FileBundle) : Except Fault (List Finding) :=
  bs.mapM (readBundle files decode now)

def targetsName : String := "externals"

def bundlesName : String := "files"

end CertInventory.Source

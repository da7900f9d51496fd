import CertInventory.Config.Load
import CertInventory.History.Store
import CertInventory.Run
import CertInventory.Source.Builtin

/-!
Jobs. A job loads the configuration, looks at every source that it names, and saves the snapshot. A job that fails
saves nothing.
-/

namespace CertInventory

open Time

/-- Where a job takes place: its files, its way to read certificates, the network, the web, and the instant. -/
structure Scene (ν ω : Type) where
  files : Files
  decode : Pem.Loader
  network : Network ν
  web : Web ω
  now : Instant

/-- What a job leaves behind outside the history: what it did, the network, and the state of the revocation checks. -/
structure Aftermath (ν ω : Type) where
  trace : Trace
  network : ν
  session : Revocation.Session ω

inductive JobError where
  | config (e : ConfigError)
  | fault (f : Fault)
  | save (e : SaveError)
  deriving DecidableEq, Repr

namespace Job

variable {ν ω : Type}

def targets (s : Scene ν ω) (c : Config) (network : ν) : Source.Discovery ν :=
  Source.probeTargets (fun url network => (Probe.run s.network url network).map ProbeResult.report) s.now c.external
    network

def bundles (s : Scene ν ω) (c : Config) : Except Fault (List Finding) :=
  Source.readBundles s.files s.decode s.now c.files

def sources (s : Scene ν ω) (c : Config) (targets : Source.Discovery ν) : List Source :=
  [⟨.ok Source.targetsName, Source.targetsName, targets.outcome⟩,
    ⟨.ok Source.bundlesName, Source.bundlesName, bundles s c⟩]

/-- The snapshot that a configuration leads to. -/
def collect (s : Scene ν ω) (c : Config) (network : ν) (session : Revocation.Session ω) :
    Except Fault Snapshot × Aftermath ν ω :=
  let found := targets s c network
  let (outcome, session) := ((Run.ofConfig c s.web s.now).snapshot s.now (sources s c found)).run session
  (outcome, ⟨found.trace, found.network, session⟩)

/-- The file that a configuration is loaded from, where none or an empty name is given the usual one. -/
def configPath (usual : String) : Option String → String
  | none => usual
  | some path => if path.isEmpty then usual else path

structure Saved where
  id : Nat
  snapshot : Snapshot

/-- Runs a job with the configuration in a file. -/
def run (s : Scene ν ω) (path : String) (history : History) (network : ν) (session : Revocation.Session ω) :
    Except JobError Saved × History × Aftermath ν ω :=
  match Config.load s.files path with
  | .error e => (.error (.config e), history, ⟨.none, network, session⟩)
  | .ok c =>
    match collect s c network session with
    | (.error f, aftermath) => (.error (.fault f), history, aftermath)
    | (.ok snapshot, aftermath) =>
      match history.save snapshot with
      | .error e => (.error (.save e), history, aftermath)
      | .ok (id, history) => (.ok ⟨id, snapshot⟩, history, aftermath)

def usualRefresh : Duration := .ofSeconds 120

def refreshEvery (files : Files) (path : String) : Except ConfigError Duration :=
  match Config.load files path with
  | .ok c => .ok c.refreshEvery
  | .error e => if e.fallsBack then .ok usualRefresh else .error e

def wholeSeconds (d : Duration) : Int :=
  match Decimal.Dyadic.ofFloat? (Float.ofScientific d.micros.natAbs true 6) with
  | some seconds => if d.micros < 0 then -seconds.truncate else seconds.truncate
  | none => 0

end Job

end CertInventory

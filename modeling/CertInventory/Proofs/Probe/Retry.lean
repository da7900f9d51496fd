import CertInventory.Probe
import CertInventory.Proofs.Sample

/-!
The retry protocol of a probe. The network may answer each dial of an address as it likes; what a probe does on it is
decided by how many dials fail before the first connection. A connection is used once, whatever becomes of it, and
after three failing dials there is none (`run_retries_only_dials`). The outcome of the handshake is the result, unless
it fails in a way that is not expected: then the probe breaks off and has none. The pauses are counted and not
measured, and where they stand between the dials is not part of a trace.
-/

namespace CertInventory

namespace Network

variable {σ : Type} (net : Network σ) (address : String)

def after : Nat → σ → σ
  | 0, s => s
  | n + 1, s => after n (net.dial address s).2

def answer (n : Nat) (s : σ) : Dial := (net.dial address (net.after address n s)).1

def Fails (s : σ) (n : Nat) : Prop := ∃ f, net.answer address n s = .error f

/-- The first dials of an address fail, so many of them, and the next makes a connection whose handshake ends so. -/
structure Connects (s : σ) (k : Nat) (outcome : Except Failure Handshake) : Prop where
  failing : ∀ i < k, net.Fails address s i
  connected : net.answer address k s = .ok outcome

variable {net address}

theorem Connects.succ_iff {s : σ} {k : Nat} {outcome : Except Failure Handshake} :
    net.Connects address s (k + 1) outcome ↔
      net.Fails address s 0 ∧ net.Connects address (net.dial address s).2 k outcome := by
  constructor
  · intro h
    exact ⟨h.failing 0 k.succ_pos, fun i hi => h.failing (i + 1) (Nat.succ_lt_succ hi), h.connected⟩
  · rintro ⟨hfirst, hlater⟩
    refine ⟨fun i hi => ?_, hlater.connected⟩
    cases i with
    | zero => exact hfirst
    | succ i => exact hlater.failing i (Nat.lt_of_succ_lt_succ hi)

/-- The first connection is one. -/
theorem Connects.unique {s : σ} {k k' : Nat} {outcome outcome' : Except Failure Handshake}
    (h : net.Connects address s k outcome) (h' : net.Connects address s k' outcome') : k = k' ∧ outcome = outcome' := by
  have hle : ∀ {j j' : Nat} {o o' : Except Failure Handshake}, net.Connects address s j o →
      net.Connects address s j' o' → j' ≤ j := by
    intro j j' o o' hj hj'
    refine Nat.le_of_not_lt fun hlt => ?_
    obtain ⟨f, hf⟩ := hj'.failing j hlt
    cases hf.symm.trans hj.connected
  obtain rfl : k = k' := Nat.le_antisymm (hle h' h) (hle h h')
  exact ⟨rfl, Except.ok.inj (h.connected.symm.trans h'.connected)⟩

theorem fails_or_connects (s : σ) (n : Nat) :
    (∀ i < n, net.Fails address s i) ∨ ∃ k < n, ∃ outcome, net.Connects address s k outcome := by
  induction n with
  | zero => exact .inl fun i hi => absurd hi i.not_lt_zero
  | succ n ih =>
    obtain hfailing | ⟨k, hk, hconnects⟩ := ih
    · cases hanswer : net.answer address n s with
      | ok outcome => exact .inr ⟨n, n.lt_succ_self, outcome, hfailing, hanswer⟩
      | error f =>
        refine .inl fun i hi => ?_
        obtain hlt | rfl := Nat.lt_succ_iff_lt_or_eq.mp hi
        · exact hfailing i hlt
        · exact ⟨f, hanswer⟩
    · exact .inr ⟨k, Nat.lt_succ_of_lt hk, hconnects⟩

end Network

namespace Trace

theorem append_none (a : Trace) : a ++ none = a := by
  show Trace.mk (a.dials ++ []) (a.pauses ++ []) (a.serverNames ++ []) (a.closed + 0) = a
  simp only [List.append_nil, Nat.add_zero]

theorem append_assoc (a b c : Trace) : a ++ b ++ c = a ++ (b ++ c) := by
  show Trace.mk (a.dials ++ b.dials ++ c.dials) (a.pauses ++ b.pauses ++ c.pauses)
    (a.serverNames ++ b.serverNames ++ c.serverNames) (a.closed + b.closed + c.closed) = _
  simp only [List.append_assoc, Nat.add_assoc]
  rfl

end Trace

namespace Probe

/-- The target is a URL of a scheme that is probed, its authority is an address to dial, and the name to ask for is
the one that its query gives, or else the host. -/
def IsEndpoint (target address name : String) : Prop :=
  ∃ u hp, Url.split target = .ok u ∧ (u.scheme = "https" ∨ u.scheme = "tcp") ∧
    HostPort.split u.authority = .ok hp ∧ address = u.authority ∧ name = (Target.namedBy? u.query).getD hp.host

theorem endpoint_eq_ok_iff {target address name : String} :
    endpoint target = .ok (address, name) ↔ IsEndpoint target address name := by
  unfold endpoint IsEndpoint
  cases Url.split target with
  | error e => simp
  | ok u =>
    have hschemes : u.scheme ∈ schemes ↔ u.scheme = "https" ∨ u.scheme = "tcp" := by simp [schemes]
    simp only [Except.ok.injEq, exists_and_left, exists_eq_left', ← hschemes]
    by_cases hscheme : u.scheme ∈ schemes
    · cases HostPort.split u.authority <;> simp [hscheme, eq_comm]
    · simp [hscheme]

/-- What the peer of a handshake presents: the entries of the reported chain that are bytes, if there are any, and
otherwise the leaf, if there is one. -/
inductive Presents (h : Handshake) : List PeerBytes → Prop where
  | chain {entries : List (Option PeerBytes)} :
      h.chain = some entries → entries.filterMap id ≠ [] → Presents h (entries.filterMap id)
  | leaf : (∀ entries, h.chain = some entries → entries.filterMap id = []) → Presents h h.leaf.toList

theorem chainBytes_eq_iff {h : Handshake} {items : List PeerBytes} : chainBytes h = items ↔ Presents h items := by
  constructor
  · rintro rfl
    unfold chainBytes
    split
    next hnone => exact .leaf fun entries hentries => by rwa [hentries] at hnone
    next hsome =>
      cases hchain : h.chain with
      | none =>
        rw [hchain] at hsome
        exact absurd rfl hsome
      | some entries =>
        rw [hchain] at hsome
        exact .chain hchain hsome
  · rintro (⟨hentries, hsome⟩ | hnone)
    · rw [chainBytes, hentries]
      dsimp only [Option.getD_some]
      split
      next hnone => exact absurd hnone hsome
      next => rfl
    · have hempty : (h.chain.getD []).filterMap id = [] := by
        cases hchain : h.chain with
        | none => rfl
        | some entries => exact hnone entries hchain
      rw [chainBytes, hempty]

/-- The outcome of a handshake fails in a way that is not expected: with a failure that no handshake is expected to
have, or by a certificate that is refused with one that is no failure of a value, while all before it are read. -/
inductive Unexpected : Except Failure Handshake → Failure → Prop where
  | handshake {f : Failure} : f.kind.endsHandshake = false → Unexpected (.error f) f
  | certificate {h : Handshake} {chain : List Certificate} {f : Failure} {behind : List PeerBytes} :
      Presents h (chain.map .certificate ++ .refused f :: behind) → f.kind.isValue = false → Unexpected (.ok h) f

/-- What becomes of a probe by the outcome of its handshake: a broken handshake, a peer without certificates and one
with a certificate that cannot be read are failed probes; any other peer is presented, with its whole chain. An
unexpected failure breaks the probe off. -/
inductive Ends (k : Nat) : Except Failure Handshake → Except Failure ProbeResult → Prop where
  | broken {f : Failure} : f.kind.endsHandshake = true → Ends k (.error f) (.ok ⟨.error (.handshake f), k⟩)
  | bare {h : Handshake} : Presents h [] → Ends k (.ok h) (.ok ⟨.error .noCertificates, k⟩)
  | unreadable {h : Handshake} {chain : List Certificate} {f : Failure} {behind : List PeerBytes} :
      Presents h (chain.map .certificate ++ .refused f :: behind) → f.kind.isValue = true →
      Ends k (.ok h) (.ok ⟨.error (.unreadableCertificate f), k⟩)
  | presented {h : Handshake} {chain : List Certificate} : chain ≠ [] → Presents h (chain.map .certificate) →
      Ends k (.ok h) (.ok ⟨.ok ⟨chain, Posture.versionName (h.version.getD ""), h.cipher.getD "", h.staple⟩, k⟩)
  | brokenOff {outcome : Except Failure Handshake} {f : Failure} : Unexpected outcome f → Ends k outcome (.error f)

theorem readChain_map_certificate (chain : List Certificate) : readChain (chain.map .certificate) = .ok chain := by
  induction chain with
  | nil => rfl
  | cons c chain ih =>
    rw [List.map_cons, readChain, ih]
    rfl

theorem readChain_of_refused (chain : List Certificate) (f : Failure) (behind : List PeerBytes) :
    readChain (chain.map .certificate ++ .refused f :: behind) = .error f := by
  induction chain with
  | nil => rfl
  | cons c chain ih =>
    rw [List.map_cons, List.cons_append, readChain, ih]
    rfl

theorem eq_map_or_first_refused (items : List PeerBytes) :
    (∃ chain : List Certificate, items = chain.map .certificate) ∨
      ∃ (chain : List Certificate) (f : Failure) (behind : List PeerBytes),
        items = chain.map .certificate ++ .refused f :: behind := by
  induction items with
  | nil => exact .inl ⟨[], rfl⟩
  | cons item items ih =>
    cases item with
    | refused f => exact .inr ⟨[], f, items, rfl⟩
    | certificate c =>
      obtain ⟨chain, rfl⟩ | ⟨chain, f, behind, rfl⟩ := ih
      · exact .inl ⟨c :: chain, rfl⟩
      · exact .inr ⟨c :: chain, f, behind, rfl⟩

theorem ends_finish (k : Nat) (outcome : Except Failure Handshake) : Ends k outcome (finish k outcome) := by
  cases outcome with
  | error f =>
    cases hends : f.kind.endsHandshake with
    | true =>
      rw [finish, if_pos hends]
      exact .broken hends
    | false =>
      rw [finish, if_neg (Bool.eq_false_iff.mp hends)]
      exact .brokenOff (.handshake hends)
  | ok h =>
    have hpresents : Presents h (chainBytes h) := chainBytes_eq_iff.mp rfl
    simp only [finish, collect]
    obtain ⟨chain, hchain⟩ | ⟨chain, f, behind, hchain⟩ := eq_map_or_first_refused (chainBytes h)
    · rw [hchain] at hpresents ⊢
      rw [readChain_map_certificate]
      cases chain with
      | nil => exact .bare hpresents
      | cons c chain => exact .presented (List.cons_ne_nil c chain) hpresents
    · rw [hchain] at hpresents ⊢
      rw [readChain_of_refused, if_neg (by simp)]
      dsimp only
      cases hvalue : f.kind.isValue with
      | true => exact .unreadable hpresents hvalue
      | false => exact .brokenOff (.certificate hpresents hvalue)

/-- The outcome of a handshake settles what becomes of the probe. -/
theorem Ends.eq_finish {k : Nat} {outcome : Except Failure Handshake} {result : Except Failure ProbeResult}
    (h : Ends k outcome result) : result = finish k outcome := by
  cases h with
  | broken hends => rw [finish, if_pos hends]
  | bare hpresents =>
    simp only [finish, collect, chainBytes_eq_iff.mpr hpresents]
    rfl
  | unreadable hpresents hvalue =>
    simp only [finish, collect, chainBytes_eq_iff.mpr hpresents, readChain_of_refused, if_pos hvalue]
    rw [if_neg (by simp)]
    rfl
  | presented hchain hpresents =>
    simp only [finish, collect, chainBytes_eq_iff.mpr hpresents, readChain_map_certificate]
    rw [if_neg (by simpa using hchain)]
    rfl
  | brokenOff hunexpected =>
    cases hunexpected with
    | handshake hends => rw [finish, if_neg (Bool.eq_false_iff.mp hends)]
    | certificate hpresents hvalue =>
      simp only [finish, collect, chainBytes_eq_iff.mpr hpresents, readChain_of_refused, hvalue]
      rw [if_neg (by simp)]
      rfl

theorem finish_eq_error_iff {k : Nat} {outcome : Except Failure Handshake} {f : Failure} :
    finish k outcome = .error f ↔ Unexpected outcome f := by
  constructor
  · intro h
    have hends := ends_finish k outcome
    rw [h] at hends
    cases hends with
    | brokenOff hunexpected => exact hunexpected
  · exact fun h => (Ends.brokenOff h).eq_finish.symm

variable {σ : Type} {net : Network σ} {address name : String}

/-- What is done before the last of several dials is answered, the first of them being this attempt. -/
def dialsTrace (address : String) : Nat → Nat → Trace
  | _, 0 => .none
  | attempt, n + 1 => dialTrace address attempt ++ dialsTrace address (attempt + 1) n

theorem dialsTrace_one (address : String) (attempt : Nat) :
    dialsTrace address attempt 1 = dialTrace address attempt := Trace.append_none _

theorem dialsTrace_eq (address : String) (attempt n : Nat) :
    dialsTrace address attempt n =
      ⟨.replicate n ⟨timeoutMillis, "tcp", address⟩, (List.range' attempt n).flatMap pauseBefore, [], 0⟩ := by
  induction n generalizing attempt with
  | zero => rfl
  | succ n ih =>
    rw [dialsTrace, ih]
    rfl

theorem dialsTrace_zero {k : Nat} (hk : k ≤ maxRetries) :
    dialsTrace address 0 (k + 1) = ⟨.replicate (k + 1) ⟨5000, "tcp", address⟩, [1000, 2000].take k, [], 0⟩ := by
  have hpauses : ∀ k ≤ 2, (List.range' 0 (k + 1)).flatMap pauseBefore = [1000, 2000].take k := by decide
  rw [dialsTrace_eq, hpauses k hk]
  rfl

section Step

variable {s : σ} {attempt left : Nat}

theorem attemptFrom_of_connected {outcome : Except Failure Handshake} (h : net.answer address 0 s = .ok outcome) :
    attemptFrom net address name attempt left s =
      ⟨finish attempt outcome, dialTrace address attempt ++ ⟨[], [], [name], 1⟩, (net.dial address s).2⟩ := by
  have hdial : net.dial address s = (.ok outcome, (net.dial address s).2) := Prod.ext h rfl
  rw [attemptFrom.eq_def]
  dsimp only
  rw [hdial]

theorem attemptFrom_of_failed {f : Failure} (h : net.answer address 0 s = .error f) :
    attemptFrom net address name attempt (left + 1) s =
      { attemptFrom net address name (attempt + 1) left (net.dial address s).2 with
        trace := dialTrace address attempt ++
          (attemptFrom net address name (attempt + 1) left (net.dial address s).2).trace } := by
  have hdial : net.dial address s = (.error f, (net.dial address s).2) := Prod.ext h rfl
  rw [attemptFrom.eq_def]
  dsimp only
  rw [hdial]

theorem attemptFrom_zero_of_failed {f : Failure} (h : net.answer address 0 s = .error f) :
    attemptFrom net address name attempt 0 s =
      ⟨.ok ⟨.error (.dial f), attempt⟩, dialTrace address attempt, (net.dial address s).2⟩ := by
  have hdial : net.dial address s = (.error f, (net.dial address s).2) := Prod.ext h rfl
  rw [attemptFrom.eq_def]
  dsimp only
  rw [hdial]

end Step

/-- The first connection ends the attempts, if one is left for it. -/
theorem attemptFrom_of_connects {k left : Nat} (hk : k ≤ left) {s : σ} {outcome : Except Failure Handshake}
    (h : net.Connects address s k outcome) (attempt : Nat) :
    attemptFrom net address name attempt left s =
      ⟨finish (attempt + k) outcome, dialsTrace address attempt (k + 1) ++ ⟨[], [], [name], 1⟩,
        net.after address (k + 1) s⟩ := by
  induction k generalizing attempt left s with
  | zero =>
    rw [attemptFrom_of_connected h.connected, dialsTrace_one]
    rfl
  | succ k ih =>
    -- The first dial is one of the failing ones, so an attempt is left, and it starts one later.
    obtain ⟨left, rfl⟩ : ∃ l, left = l + 1 := Nat.exists_eq_add_one.mpr (by omega)
    obtain ⟨⟨f, hfirst⟩, hlater⟩ := Network.Connects.succ_iff.mp h
    rw [attemptFrom_of_failed hfirst, ih (Nat.le_of_succ_le_succ hk) hlater, Nat.add_right_comm attempt 1 k,
      ← Trace.append_assoc]
    rfl

theorem attemptFrom_of_fails (left : Nat) {s : σ} {f : Failure} (hfailing : ∀ i < left, net.Fails address s i)
    (hlast : net.answer address left s = .error f) (attempt : Nat) :
    attemptFrom net address name attempt left s =
      ⟨.ok ⟨.error (.dial f), attempt + left⟩, dialsTrace address attempt (left + 1),
        net.after address (left + 1) s⟩ := by
  induction left generalizing attempt s with
  | zero =>
    rw [attemptFrom_zero_of_failed hlast, dialsTrace_one]
    rfl
  | succ left ih =>
    obtain ⟨g, hfirst⟩ := hfailing 0 left.succ_pos
    rw [attemptFrom_of_failed hfirst, ih (fun i hi => hfailing (i + 1) (Nat.succ_lt_succ hi)) hlast,
      Nat.add_right_comm attempt 1 left]
    rfl

theorem Ends.chain_ne_nil {k : Nat} {outcome : Except Failure Handshake} {r : ProbeResult} {p : Presented}
    (h : Ends k outcome (.ok r)) (hp : r.outcome = .ok p) : p.chain ≠ [] := by
  cases h with
  | broken | bare | unreadable => cases hp
  | presented hchain =>
    obtain rfl := Except.ok.inj hp
    exact hchain

/-- A probe fails without a connection, or its result is what the handshake on the first one amounts to. -/
theorem result_run_cases (net : Network σ) (target : String) (s : σ) :
    (∃ f k, k ≤ maxRetries ∧ (run net target s).result = .ok ⟨.error f, k⟩ ∧
      ∀ address name k outcome, IsEndpoint target address name → k ≤ 2 → ¬ net.Connects address s k outcome) ∨
    ∃ address name k outcome, IsEndpoint target address name ∧ k ≤ 2 ∧ net.Connects address s k outcome ∧
      (run net target s).result = finish k outcome := by
  unfold run
  cases hendpoint : endpoint target with
  | error f =>
    refine .inl ⟨f, 0, Nat.zero_le _, rfl, fun address name k outcome htarget => ?_⟩
    cases hendpoint.symm.trans (endpoint_eq_ok_iff.mpr htarget)
  | ok e =>
    obtain ⟨address, name⟩ := e
    have htarget := endpoint_eq_ok_iff.mp hendpoint
    dsimp only
    obtain hfailing | ⟨k, hk, outcome, hconnects⟩ := @Network.fails_or_connects _ net address s 3
    · obtain ⟨f, hlast⟩ := hfailing 2 (by decide)
      rw [attemptFrom_of_fails maxRetries (fun i hi => hfailing i (Nat.lt_succ_of_lt hi)) hlast, Nat.zero_add]
      refine .inl ⟨.dial f, maxRetries, Nat.le_refl _, rfl, fun address' name' k outcome htarget' hk hconnects => ?_⟩
      cases hendpoint.symm.trans (endpoint_eq_ok_iff.mpr htarget')
      obtain ⟨g, hg⟩ := hfailing k (Nat.lt_succ_of_le hk)
      cases hg.symm.trans hconnects.connected
    · have hleft : k ≤ maxRetries := Nat.le_of_lt_succ hk
      rw [attemptFrom_of_connects hleft hconnects, Nat.zero_add]
      exact .inr ⟨address, name, k, outcome, htarget, hleft, hconnects, rfl⟩

/-- A probe that succeeds presents a leaf. -/
theorem chain_ne_nil_of_run {target : String} {s : σ} {r : ProbeResult} {p : Presented}
    (hrun : (run net target s).result = .ok r) (hp : r.outcome = .ok p) : p.chain ≠ [] := by
  obtain ⟨f, k, _, hresult, _⟩ | ⟨address, name, k, outcome, _, _, _, hresult⟩ := result_run_cases net target s
  · obtain rfl := Except.ok.inj (hresult.symm.trans hrun)
    cases hp
  · have hends := ends_finish k outcome
    rw [← hresult, hrun] at hends
    exact hends.chain_ne_nil hp

/-- A probe of an endpoint dials its address and no other. -/
theorem dials_run {target : String} (h : IsEndpoint target address name) (s : σ) :
    ∃ k ≤ 2, (run net target s).trace.dials = List.replicate (k + 1) ⟨5000, "tcp", address⟩ := by
  have hrun : run net target s = attemptFrom net address name 0 maxRetries s := by
    rw [run, endpoint_eq_ok_iff.mpr h]
  rw [hrun]
  obtain hfailing | ⟨k, hk, outcome, hconnects⟩ := @Network.fails_or_connects _ net address s 3
  · obtain ⟨f, hlast⟩ := hfailing 2 (by decide)
    refine ⟨2, Nat.le_refl 2, ?_⟩
    rw [attemptFrom_of_fails maxRetries (fun i hi => hfailing i (Nat.lt_succ_of_lt hi)) hlast, maxRetries,
      dialsTrace_zero (Nat.le_refl 2)]
  · have hleft : k ≤ maxRetries := Nat.le_of_lt_succ hk
    refine ⟨k, hleft, ?_⟩
    rw [attemptFrom_of_connects hleft hconnects, dialsTrace_zero hleft]
    exact List.append_nil _

theorem serverNames_attemptFrom (attempt left : Nat) (s : σ) :
    ∀ asked ∈ (attemptFrom net address name attempt left s).trace.serverNames, asked = name := by
  induction left generalizing attempt s with
  | zero =>
    cases h : net.answer address 0 s with
    | ok outcome =>
      rw [attemptFrom_of_connected h]
      exact fun asked hasked => List.mem_singleton.mp hasked
    | error f =>
      rw [attemptFrom_zero_of_failed h]
      nofun
  | succ left ih =>
    cases h : net.answer address 0 s with
    | ok outcome =>
      rw [attemptFrom_of_connected h]
      exact fun asked hasked => List.mem_singleton.mp hasked
    | error f =>
      rw [attemptFrom_of_failed h]
      exact ih (attempt + 1) (net.dial address s).2

/-- A probe that dials has an endpoint for a target, and asks for the name of that and no other. -/
theorem exists_isEndpoint_of_dials {target : String} {s : σ} (h : (run net target s).trace.dials ≠ []) :
    ∃ address name, IsEndpoint target address name ∧
      ∀ asked ∈ (run net target s).trace.serverNames, asked = name := by
  unfold run at h ⊢
  cases hendpoint : endpoint target with
  | error f =>
    rw [hendpoint] at h
    exact absurd rfl h
  | ok e =>
    exact ⟨e.1, e.2, endpoint_eq_ok_iff.mp hendpoint, serverNames_attemptFrom 0 maxRetries s⟩

/-- A target that is no endpoint fails without a dial. For an endpoint, let the first connection be made after `k`
failing dials. Up to two of them are made good by another dial, after one second and then after two, and the
connection gets the one handshake of the probe, whose outcome is the result after `k` retries, unless it fails in a way
that is not expected: then, and only then, there is no result. Three failing dials are the end, with what the third one
says. -/
theorem run_retries_only_dials (net : Network σ) (target : String) (s : σ) :
    ((∀ address name, ¬ IsEndpoint target address name) →
      ∃ r, run net target s = ⟨.ok r, .none, s⟩ ∧ r.isOk = false ∧ r.retries = 0) ∧
    ∀ address name, IsEndpoint target address name →
      (∀ k ≤ 2, ∀ outcome, net.Connects address s k outcome →
        ∃ result, Ends k outcome result ∧ (∀ f, result = .error f ↔ Unexpected outcome f) ∧
          run net target s =
            ⟨result, ⟨.replicate (k + 1) ⟨5000, "tcp", address⟩, [1000, 2000].take k, [name], 1⟩,
              net.after address (k + 1) s⟩) ∧
      (∀ f, (∀ i < 2, net.Fails address s i) → net.answer address 2 s = .error f →
        ∃ r, run net target s = ⟨.ok r, ⟨.replicate 3 ⟨5000, "tcp", address⟩, [1000, 2000], [], 0⟩,
            net.after address 3 s⟩ ∧
          r.isOk = false ∧ r.error = (if f.text = "" then f.kind.label else f.text) ∧ r.retries = 2) ∧
      ((∃ k ≤ 2, ∃ outcome, net.Connects address s k outcome) ∨ ∀ i < 3, net.Fails address s i) := by
  constructor
  · intro hnone
    cases hendpoint : endpoint target with
    | ok e => exact absurd (endpoint_eq_ok_iff.mp hendpoint) (hnone e.1 e.2)
    | error f => exact ⟨⟨.error f, 0⟩, by rw [run, hendpoint], rfl, rfl⟩
  · intro address name hendpoint
    have hrun : run net target s = attemptFrom net address name 0 maxRetries s := by
      rw [run, endpoint_eq_ok_iff.mpr hendpoint]
    refine ⟨fun k (hk : k ≤ maxRetries) outcome hconnects =>
        ⟨finish k outcome, ends_finish k outcome, fun f => finish_eq_error_iff, ?_⟩,
      fun f hfailing hlast => ⟨⟨.error (.dial f), 2⟩, ?_, rfl, ?_, rfl⟩, ?_⟩
    · rw [hrun, attemptFrom_of_connects hk hconnects 0, dialsTrace_zero hk, Nat.zero_add]
      show Finished.mk _ (Trace.mk _ _ _ _) _ = _
      simp only [List.append_nil, List.nil_append]
    · rw [hrun, attemptFrom_of_fails maxRetries hfailing hlast 0, maxRetries, dialsTrace_zero (Nat.le_refl 2)]
      rfl
    · show f.report = _
      simp only [Failure.report, String.isEmpty_iff]
    · obtain hfailing | ⟨k, hk, hconnects⟩ := Network.fails_or_connects s 3
      · exact .inr hfailing
      · exact .inl ⟨k, Nat.le_of_lt_succ hk, hconnects⟩

def sampleRefusal : Failure := .saying .connectionRefused "refused"

def sampleAlert : Failure := .saying (.ssl { text := "SSLError" }) "handshake failure"

def sampleLeaf : Certificate := sampleCertificate "edge" "root" false (sampleTime 0) (sampleTime 9)

def sampleVersion : Failure := .saying (.other { text := "InvalidVersion" }) "1 is not a valid X509 version"

def samplePeer : Handshake := ⟨some "TLSv1.3", none, some [none, some (.certificate sampleLeaf)], none, .garbage⟩

def sampleOddPeer : Handshake := ⟨some "TLSv1.3", none, none, some (.refused sampleVersion), .empty⟩

/-- A network that refuses its first dial, and on which every later connection ends its handshake the same way. -/
def sampleShy (outcome : Except Failure Handshake) : Network Nat :=
  ⟨fun _ dials => (if dials = 0 then .error sampleRefusal else .ok outcome, dials + 1)⟩

theorem isEndpoint_sample : IsEndpoint "tcp://edge:443?sni=web" "edge:443" "web" := endpoint_eq_ok_iff.mp (by rfl)

theorem connects_sampleShy (outcome : Except Failure Handshake) :
    (sampleShy outcome).Connects "edge:443" 0 1 outcome := by
  refine ⟨fun i hi => ⟨sampleRefusal, ?_⟩, rfl⟩
  obtain rfl := Nat.lt_one_iff.mp hi
  rfl

def sampleTrace : Trace := ⟨[⟨5000, "tcp", "edge:443"⟩, ⟨5000, "tcp", "edge:443"⟩], [1000], ["web"], 1⟩

theorem run_retries_only_dials_once :
    IsEndpoint "tcp://edge:443?sni=web" "edge:443" "web" ∧
    (sampleShy (.error sampleAlert)).Connects "edge:443" 0 1 (.error sampleAlert) ∧
    run (sampleShy (.error sampleAlert)) "tcp://edge:443?sni=web" 0 =
      ⟨.ok ⟨.error (.handshake sampleAlert), 1⟩, sampleTrace, 2⟩ ∧
    (sampleShy (.ok samplePeer)).Connects "edge:443" 0 1 (.ok samplePeer) ∧
    run (sampleShy (.ok samplePeer)) "tcp://edge:443?sni=web" 0 =
      ⟨.ok ⟨.ok ⟨[sampleLeaf], "TLS 1.3", "", .garbage⟩, 1⟩, sampleTrace, 2⟩ := by
  refine ⟨isEndpoint_sample, connects_sampleShy _, ?_, connects_sampleShy _, ?_⟩
  · obtain ⟨hconnected, _⟩ :=
      (run_retries_only_dials (sampleShy (.error sampleAlert)) "tcp://edge:443?sni=web" 0).2 _ _ isEndpoint_sample
    obtain ⟨_, hends, _, hrun⟩ := hconnected 1 (by decide) _ (connects_sampleShy _)
    rw [hrun, hends.eq_finish]
    rfl
  · obtain ⟨hconnected, _⟩ :=
      (run_retries_only_dials (sampleShy (.ok samplePeer)) "tcp://edge:443?sni=web" 0).2 _ _ isEndpoint_sample
    obtain ⟨_, hends, _, hrun⟩ := hconnected 1 (by decide) _ (connects_sampleShy _)
    rw [hrun, hends.eq_finish]
    rfl

/-- A peer whose certificate is refused by a failure that is none of a value leaves the probe without a result, though
its handshake is completed. -/
theorem exists_handshake_without_result :
    ¬ ∀ (net : Network Nat) (target address name : String) (s k : Nat) (h : Handshake), IsEndpoint target address name →
      k ≤ 2 → net.Connects address s k (.ok h) → ∃ r, (run net target s).result = .ok r ∧ r.retries = k := by
  intro hclaim
  obtain ⟨r, hresult, _⟩ := hclaim (sampleShy (.ok sampleOddPeer)) "tcp://edge:443?sni=web" "edge:443" "web" 0 1
    sampleOddPeer isEndpoint_sample (by decide) (connects_sampleShy _)
  have hbroken : (run (sampleShy (.ok sampleOddPeer)) "tcp://edge:443?sni=web" 0).result = .error sampleVersion := rfl
  cases hbroken.symm.trans hresult

end Probe

end CertInventory

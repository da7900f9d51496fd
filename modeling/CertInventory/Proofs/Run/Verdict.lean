import CertInventory.Proofs.Revocation.Mark
import CertInventory.Proofs.Run.FanIn
import CertInventory.Proofs.Run.Severity

/-!
What becomes of a revoked certificate's OCSP verdict while its revocation lists are looked through. The run keeps the
verdict exactly where the lists come to a result (`verdict_kept_iff`), be that a place that cannot be reached; a fault
that breaks the lists off takes the verdict with it, and leaves its own text alone as an issue.
-/

namespace CertInventory

open Time Finding

namespace Run

variable {σ : Type}

theorem emitted_withIssues (cluster : String) (f : Finding) (issues : List String) (hissues : issues ≠ []) :
    (emitted cluster (withIssues f issues)).revocationIssues = issues ∧
    (emitted cluster (withIssues f issues)).severity =
      if ∃ issue ∈ issues, SaysRevoked issue then .critical else f.severity := by
  refine ⟨?_, by rw [severity_emitted, severity_withIssues]⟩
  have hempty : issues.isEmpty = false := by simpa using hissues
  simp only [emitted, inCluster, withRemedy, withIssues, hempty, Bool.false_eq_true, if_false, withRevocation]
  split <;> split <;> split <;> rfl

open Revocation

theorem append_ne_append_of_head? {a b : String} {x y : Char} (ha : a.toList.head? = some x)
    (hb : b.toList.head? = some y) (hxy : x ≠ y) (text text' : String) : a ++ text ≠ b ++ text' := by
  intro h
  have hhead := congrArg (fun s : String => s.toList.head?) h
  simp only [String.toList_append, List.head?_append, ha, hb, Option.some_or] at hhead
  exact hxy (Option.some.inj hhead)

/-- The issue that a failed check leaves is the text of no revoked result. -/
theorem text_not_mem_issuesOf_error {v : Result} (hrevoked : v.status = .revoked) (fault : Fault) :
    v.text ∉ issuesOf (.error fault) := by
  rw [issuesOf, List.mem_singleton, Result.text, hrevoked, String.append_assoc]
  exact append_ne_append_of_head? (x := 'C') (y := 'O') (by decide +kernel) (by decide +kernel) (by decide) _ _

/-- A revoked result among those that a check returns stays with its finding. -/
theorem verdict_kept_of_ok (cluster : String) (f : Finding) {results : List Result} {v : Result} (hv : v ∈ results)
    (hrevoked : v.status = .revoked) :
    v.text ∈ (emitted cluster (withIssues f (issuesOf (.ok (results.map Result.text))))).revocationIssues ∧
    (emitted cluster (withIssues f (issuesOf (.ok (results.map Result.text))))).severity = .critical := by
  have hmem : v.text ∈ results.map Result.text := List.mem_map_of_mem hv
  have hsays : SaysRevoked v.text := (saysRevoked_text v).mpr (.inl hrevoked)
  obtain ⟨hissues, hseverity⟩ := emitted_withIssues cluster f (results.map Result.text) (List.ne_nil_of_mem hmem)
  rw [issuesOf, hissues, hseverity]
  exact ⟨hmem, if_pos ⟨_, hmem, hsays⟩⟩

/-- A certificate that its OCSP answer finds revoked is emitted with that verdict, and as critical, exactly where the
search through its revocation lists comes to a result. A fault that breaks the search off is all that is left with the
finding; none does where the certificate names its lists readably, an hour ahead is in the calendar and the web fails
only in transport. -/
theorem verdict_kept_iff {config : Config} {web : Web σ} {t now warn critical : Instant}
    (hconfig : config.checkRevocation = true) (hwarn : now.add? config.warnBefore = some warn)
    (hcritical : now.add? config.critBefore = some critical) {sources : List Source} {before behind : List Finding}
    {f : Finding} (hfound : sources.flatMap Source.found = before ++ f :: behind) (hprobe : f.probeOk = true)
    {c issuer : Certificate} (hcertificate : f.certificate = some c) (hissuer : f.issuerCertificate = some issuer)
    {s s₁ : Session σ} {v : Result}
    (hocsp : (checkOcsp web c (some issuer) f.staple t).run
      ((checkAll (ofConfig config web t).revocation before).run s).2 = (.ok (some v), s₁))
    (hrevoked : v.status = .revoked) :
    ∃ snap s' g, ((ofConfig config web t).snapshot now sources).run s = (.ok snap, s') ∧
      snap.findings[before.length]? = some g ∧ g.sighting = f.sighting ∧
      (v.text ∈ g.revocationIssues ∧ g.severity = .critical ↔
        ∃ lists s₂, (checkLists web c t).run s₁ = (.ok lists, s₂)) ∧
      (∀ fault s₂, (checkLists web c t).run s₁ = (.error fault, s₂) →
        g.revocationIssues = ["OCSP_UNREACHABLE: revocation check failed: " ++ fault.report]) ∧
      (FailsInTransport web → t.add? Cache.defaultLife ≠ none → (∃ urls, c.revocationLists = .ok urls) →
        v.text ∈ g.revocationIssues ∧ g.severity = .critical) := by
  have hcheck : (ofConfig config web t).revocation =
      some fun cert issuer staple => Revocation.check web true cert issuer staple t := by
    simp only [ofConfig, hconfig, if_true]
  have hf : isChecked f = true := isChecked_iff.mpr ⟨hprobe, c, hcertificate⟩
  obtain ⟨snap, s', hrun, hg⟩ :=
    exists_snapshot_getElem? hcheck (Cutoffs.at?_eq_some hwarn hcritical) hfound hf s
  rw [hcheck] at hocsp
  simp only [hcertificate, hissuer, check_eq_bind, Task.run_bind_ok hocsp, if_true] at hg
  refine ⟨snap, s', _, hrun, hg, ?_, ?_⟩
  · rw [sighting_emitted, sighting_withIssues]
    exact sighting_renewed _ _
  rcases hlists : (checkLists web c t).run s₁ with ⟨fault | lists, s₂⟩
  · -- The fault ends the whole check, before its results are put together.
    rw [Task.run_bind_error hlists, (emitted_withIssues _ _ (issuesOf (.error fault)) nofun).1]
    refine ⟨iff_of_false (fun h => text_not_mem_issuesOf_error hrevoked fault h.1) nofun, ?_, ?_⟩
    · rintro fault' s₃ ⟨⟩
      rfl
    · rintro htransport hhour ⟨urls, hurls⟩
      obtain ⟨lists, s₃, hreturn⟩ := exists_searchLists_ok htransport hhour urls s₁
      rw [run_checkLists hurls, hreturn] at hlists
      cases hlists
  · rw [Task.run_bind_ok hlists, Task.run_pure]
    have hkept := verdict_kept_of_ok (ofConfig config web t).cluster
      (judgedAmong ⟨now, warn, critical⟩ (sources.flatMap Source.found) f)
      (List.mem_cons_self : v ∈ (some v).toList ++ lists.toList) hrevoked
    exact ⟨iff_of_true hkept ⟨lists, s₂, rfl⟩, nofun, fun _ _ _ => hkept⟩

/-- An endpoint with a staple that finds its certificate revoked, and places of lists. -/
def sampleStapled (lists : List String) : Finding :=
  { sampleFinding externalSource "web" (sampleTime 9) with
    certificate := some (sampleRevocable [] lists)
    issuerCertificate := some (sampleRevocable [] [])
    staple := .answer ⟨1, .revoked, none⟩ }

def sampleConfig : Config := { Config.defaults with warnBefore := ⟨3⟩, critBefore := ⟨1⟩, checkRevocation := true }

def sampleEndpoint (f : Finding) : List Source := [⟨.ok "externals", "Externals", .ok [f]⟩]

/-- A place of lists that cannot be reached leaves the verdict of the staple as it is. -/
theorem verdict_kept_beside_unreachable :
    sampleConfig.checkRevocation = true ∧
    Instant.add? (sampleTime 5) sampleConfig.warnBefore = some (sampleTime 8) ∧
    Instant.add? (sampleTime 5) sampleConfig.critBefore = some (sampleTime 6) ∧
    (sampleEndpoint (sampleStapled ["down"])).flatMap Source.found = [] ++ sampleStapled ["down"] :: [] ∧
    (sampleStapled ["down"]).probeOk = true ∧
    (sampleStapled ["down"]).certificate = some (sampleRevocable [] ["down"]) ∧
    (sampleStapled ["down"]).issuerCertificate = some (sampleRevocable [] []) ∧
    ∃ v, (checkOcsp (sampleWeb []) (sampleRevocable [] ["down"]) (some (sampleRevocable [] []))
        (sampleStapled ["down"]).staple (sampleTime 5)).run (.start ()) = (.ok (some v), .start ()) ∧
      v.status = .revoked ∧
      ∃ snap s' g, ((ofConfig sampleConfig (sampleWeb []) (sampleTime 5)).snapshot (sampleTime 5)
          (sampleEndpoint (sampleStapled ["down"]))).run (.start ()) = (.ok snap, s') ∧
        snap.findings[0]? = some g ∧ v.text ∈ g.revocationIssues ∧ g.severity = .critical := by
  have hwarn : Instant.add? (sampleTime 5) sampleConfig.warnBefore = some (sampleTime 8) := by decide
  have hcritical : Instant.add? (sampleTime 5) sampleConfig.critBefore = some (sampleTime 6) := by decide
  have hfound : (sampleEndpoint (sampleStapled ["down"])).flatMap Source.found = [] ++ sampleStapled ["down"] :: [] :=
    rfl
  have hweb : FailsInTransport (sampleWeb []) := by
    rintro url ρ f ⟨⟩
    rfl
  have hhour : Instant.add? (sampleTime 5) Cache.defaultLife ≠ none := by decide
  have hocsp : (checkOcsp (sampleWeb []) (sampleRevocable [] ["down"]) (some (sampleRevocable [] []))
      (sampleStapled ["down"]).staple (sampleTime 5)).run (.start ()) =
        (.ok (some ⟨.revoked, "OCSP staple: certificate revoked"⟩), .start ()) := rfl
  obtain ⟨snap, s', g, hrun, hg, _, _, _, hkept⟩ :=
    @verdict_kept_iff Unit sampleConfig (sampleWeb []) (sampleTime 5) (sampleTime 5) _ _ rfl hwarn hcritical _ [] [] _
      hfound rfl _ _ rfl rfl (.start ()) _ _ hocsp rfl
  exact ⟨rfl, hwarn, hcritical, hfound, rfl, rfl, rfl, _, hocsp, rfl, snap, s', g, hrun, hg,
    hkept hweb hhour ⟨_, rfl⟩⟩

def sampleBroken : Web Unit := sampleWeb [("broken", .error (.saying .runtime "list too deep"))]

/-- A list that breaks the check off takes the verdict of the staple with it. -/
theorem exists_verdict_lost :
    ¬ ∀ (config : Config) (web : Web Unit) (t now warn critical : Instant) (sources : List Source)
        (before behind : List Finding) (f : Finding) (c issuer : Certificate) (s s₁ : Session Unit) (v : Result),
      config.checkRevocation = true → now.add? config.warnBefore = some warn →
      now.add? config.critBefore = some critical → sources.flatMap Source.found = before ++ f :: behind →
      f.probeOk = true → f.certificate = some c → f.issuerCertificate = some issuer →
      (checkOcsp web c (some issuer) f.staple t).run
        ((checkAll (ofConfig config web t).revocation before).run s).2 = (.ok (some v), s₁) →
      v.status = .revoked →
      ∃ snap s' g, ((ofConfig config web t).snapshot now sources).run s = (.ok snap, s') ∧
        snap.findings[before.length]? = some g ∧ v.text ∈ g.revocationIssues ∧ g.severity = .critical := by
  intro h
  have hwarn : Instant.add? (sampleTime 5) sampleConfig.warnBefore = some (sampleTime 8) := by decide
  have hcritical : Instant.add? (sampleTime 5) sampleConfig.critBefore = some (sampleTime 6) := by decide
  obtain ⟨snap, s', g, hrun, hg, _, hseverity⟩ := h sampleConfig sampleBroken (sampleTime 5) (sampleTime 5) _ _
    (sampleEndpoint (sampleStapled ["broken"])) [] [] (sampleStapled ["broken"]) _ _ (.start ()) _ _ rfl hwarn hcritical
    rfl rfl rfl rfl rfl rfl
  have hcheck : (ofConfig sampleConfig sampleBroken (sampleTime 5)).revocation =
      some fun cert issuer staple => Revocation.check sampleBroken true cert issuer staple (sampleTime 5) := rfl
  have hfound : (sampleEndpoint (sampleStapled ["broken"])).flatMap Source.found =
      [] ++ sampleStapled ["broken"] :: [] := rfl
  obtain ⟨snap', _, hrun', hg'⟩ :=
    exists_snapshot_getElem? hcheck (Cutoffs.at?_eq_some hwarn hcritical) hfound rfl (Session.start ())
  obtain rfl : snap = snap' := Except.ok.inj (congrArg Prod.fst (hrun.symm.trans hrun'))
  obtain rfl := Option.some.inj (hg.symm.trans hg')
  exact absurd hseverity (by decide +kernel)

end Run

end CertInventory

import CertInventory.Proofs.Finding.Mark
import CertInventory.Proofs.Revocation.Lists
import CertInventory.Revocation.Crl

/-!
What makes a finding critical when the issues of a check are stored with it. The status of a result is read back from
its text, and the texts take over addresses of the certificate and failures of the web. The reading is right for a
result of any status whose detail does not bear the mark of a revoked certificate (`saysRevoked_text`), and so for a
whole check where neither addresses nor failures bear it (`severity_withRevocation_iff`); an address that does makes
any certificate look revoked.
-/

namespace CertInventory.Revocation

open Time Finding

variable {σ : Type}

theorem saysRevoked_tag (status : Status) : SaysRevoked status.tag ↔ status = .revoked := by
  cases status with
  | revoked | unreachable | stapleInvalid | listStale => decide +kernel
  | unnamed name =>
    have htag : ¬ SaysRevoked "REVOCATION_UNKNOWN" := by decide +kernel
    exact iff_of_false htag (by simp)

/-- The text of a result says that the certificate is revoked where its status does, or its detail. -/
theorem saysRevoked_text (v : Result) : SaysRevoked v.text ↔ v.status = .revoked ∨ SaysRevoked v.detail := by
  have hcolon : Joins ": " := by decide +kernel
  rw [Result.text, hcolon.saysRevoked_append_iff, saysRevoked_tag]

/-- A result that says that the certificate is revoked only where its status does. -/
def Result.IsFaithful (v : Result) : Prop := SaysRevoked v.detail → v.status = .revoked

/-- A certificate names an address for revocation, of a responder or of a list. -/
def IsNamedBy (url : String) (c : Certificate) : Prop :=
  ∃ urls, (c.responders = .ok urls ∨ c.revocationLists = .ok urls) ∧ url ∈ urls

/-- Nothing that the texts of a check take over bears the mark: no address of the certificate, and no failure of the
web. -/
structure Unmarked (web : Web σ) (c : Certificate) : Prop where
  addresses : ∀ url, IsNamedBy url c → ¬ SaysRevoked url
  failures : ∀ r ρ f, (web.answer r ρ).1 = .error f → ¬ SaysRevoked f.text

theorem Result.isFaithful_of_detail {v : Result} (h : ¬ SaysRevoked v.detail) : v.IsFaithful :=
  fun hsays => absurd hsays h

theorem isFaithful_stapleStanding {standing : Standing} {v : Result} (h : stapleStanding standing = some v) :
    v.IsFaithful := by
  cases standing <;> cases h
  · exact fun _ => rfl
  · exact Result.isFaithful_of_detail (by decide +kernel)

theorem isFaithful_checkStaple {staple : OcspBody} {c : Certificate} {now : Instant} {v : Result}
    (h : checkStaple staple c now = some v) : v.IsFaithful := by
  -- The details are constants, names of refusals and a date: nothing here comes from outside.
  unfold checkStaple at h
  split at h
  · cases h
    exact Result.isFaithful_of_detail (by decide +kernel)
  · rename_i r _
    cases h
    apply Result.isFaithful_of_detail
    cases r <;> decide +kernel
  · split at h
    · cases h
      exact Result.isFaithful_of_detail (by decide +kernel)
    split at h
    · rename_i limit _
      split at h
      · cases h
        have hwords : Leads "OCSP staple expired at " := by decide +kernel
        exact Result.isFaithful_of_detail
          ((hwords.saysRevoked_append_iff _).not.mpr (not_saysRevoked_secondText limit))
      · exact isFaithful_stapleStanding h
    · exact isFaithful_stapleStanding h

/-- A message of words, an address, words and a text says no more than the address and the text do. -/
theorem isFaithful_message {status : Status} {words url joint text : String} (hwords : Leads words)
    (hjoint : Joins joint) (hurl : ¬ SaysRevoked url) (htext : ¬ SaysRevoked text) :
    Result.IsFaithful ⟨status, words ++ url ++ joint ++ text⟩ := by
  apply Result.isFaithful_of_detail
  rw [hjoint.saysRevoked_append_iff, hwords.saysRevoked_append_iff, not_or]
  exact ⟨hurl, htext⟩

theorem isFaithful_responderVerdict {url : String} {body : HttpBody} {v : Result} (hurl : ¬ SaysRevoked url)
    (h : responderVerdict url body = some v) : v.IsFaithful := by
  unfold responderVerdict at h
  split at h
  · cases h
    exact Result.isFaithful_of_detail (by decide +kernel)
  · rename_i r _
    cases h
    have hlabel : ¬ SaysRevoked r.label := by cases r <;> decide +kernel
    exact isFaithful_message (by decide +kernel) (by decide +kernel) hurl hlabel
  · split at h
    · cases h
      exact fun _ => rfl
    · cases h

variable {web : Web σ} {c : Certificate} {now : Instant}

theorem run_askResponder_nil (h : c.responders = .ok []) (s : Session σ) :
    (askResponder web c).run s = (.ok none, s) := by
  rw [askResponder, Task.run_bind, Task.run_ofDecoding, h]
  rfl

/-- The first responder is asked, if its address can be; a failure of transport is its result. -/
theorem run_askResponder_cons {url : String} {urls : List String} (h : c.responders = .ok (url :: urls))
    (s : Session σ) :
    (askResponder web c).run s =
      if hasScheme (requestAddress url) then
        match (web.answer (responderRequest url) s.remote).1 with
        | .error f =>
          (if f.kind.isTransport then .ok (some ⟨.unreachable, "OCSP responder at " ++ url ++ ": " ++ f.text⟩)
            else .error (.outside f), s.after web (responderRequest url))
        | .ok body => (.ok (responderVerdict url body), s.after web (responderRequest url))
      else
        (.ok (some ⟨.unreachable, "OCSP responder at " ++ url ++ ": " ++
          (Fault.noScheme (String.ofList (requestAddress url))).text⟩), s) := by
  rw [askResponder, Task.run_bind, Task.run_ofDecoding, h]
  simp only [Except.mapError, Task.run_bind, Task.run_catching]
  by_cases hscheme : hasScheme (requestAddress url) = true
  · rw [if_pos hscheme, post, if_pos hscheme, Session.run_send]
    cases (web.answer (responderRequest url) s.remote).1 with
    | ok body => rfl
    | error f =>
      by_cases htransport : f.kind.isTransport = true
      · simp only [Except.mapError, Fault.isTransport, htransport, if_true]
        rfl
      · simp only [Except.mapError, Fault.isTransport, htransport, Bool.false_eq_true, if_false]
  · rw [if_neg hscheme, post, if_neg hscheme]
    rfl

theorem isFaithful_askResponder (hweb : Unmarked web c) {s s' : Session σ} {v : Result}
    (h : (askResponder web c).run s = (.ok (some v), s')) : v.IsFaithful := by
  cases hresponders : c.responders with
  | error f =>
    rw [askResponder, Task.run_bind, Task.run_ofDecoding, hresponders] at h
    cases h
  | ok urls =>
    cases urls with
    | nil =>
      rw [run_askResponder_nil hresponders] at h
      cases h
    | cons url urls =>
      have hurl : ¬ SaysRevoked url := hweb.addresses url ⟨_, .inl hresponders, List.mem_cons_self⟩
      rw [run_askResponder_cons hresponders] at h
      split at h
      · split at h
        · rename_i f hanswer
          split at h <;> cases h
          exact isFaithful_message (by decide +kernel) (by decide +kernel) hurl (hweb.failures _ _ f hanswer)
        · exact isFaithful_responderVerdict hurl (Except.ok.inj (congrArg Prod.fst h))
      · cases h
        exact isFaithful_message (by decide +kernel) (by decide +kernel) hurl (mt saysRevoked_of_noScheme hurl)

theorem not_saysRevoked_of_listOf (hweb : Unmarked web c) {url : String} {s s' : Session σ} {f : Fault}
    (h : (listOf web url now).run s = (.ok (.error f), s')) : ¬ SaysRevoked f.text := by
  cases hkept : s.cache.get? url now with
  | some l =>
    rw [listOf_of_kept hkept] at h
    cases h
  | none =>
    rw [listOf_of_not_kept hkept] at h
    split at h
    · rename_i failure hanswer
      split at h <;> cases h
      exact hweb.failures _ _ failure hanswer
    · split at h
      · cases h
        have hmessage : ¬ SaysRevoked DecodeFault.malformed.message := by decide +kernel
        exact hmessage
      · split at h <;> cases h

theorem isFaithful_of_reports (hweb : Unmarked web c) {url : String} (hurl : ¬ SaysRevoked url) {s s' : Session σ}
    {v : Result} (h : Reports web c now url s s' v) : v.IsFaithful := by
  cases h with
  | unreachable hlist =>
    exact isFaithful_message (by decide +kernel) (by decide +kernel) hurl (not_saysRevoked_of_listOf hweb hlist)
  | @stale l limit =>
    exact isFaithful_message (by decide +kernel) (by decide +kernel) hurl (not_saysRevoked_secondText limit)
  | listed => exact fun _ => rfl

theorem isFaithful_checkLists (hweb : Unmarked web c) {s s' : Session σ} {v : Result}
    (h : (checkLists web c now).run s = (.ok (some v), s')) : v.IsFaithful := by
  cases hurls : c.revocationLists with
  | error f =>
    rw [checkLists, Task.run_bind, Task.run_ofDecoding, hurls] at h
    cases h
  | ok urls =>
    rw [run_checkLists hurls] at h
    rcases searchLists_cases web c now urls s with ⟨t, _, hrun⟩ | ⟨before, url, behind, s₁, rfl, _, hstop⟩
    · rw [hrun] at h
      cases h
    · rcases hstop with ⟨f, t, _, hrun⟩ | ⟨w, t, hreports, hrun⟩
      · rw [hrun] at h
        cases h
      · rw [hrun] at h
        cases h
        exact isFaithful_of_reports hweb (hweb.addresses url ⟨_, .inr hurls, by simp⟩) hreports

/-- What the parts of a check report about a certificate, the OCSP part first. -/
def Consulted (web : Web σ) (useLists : Bool) (c : Certificate) (issuer : Option Certificate) (staple : OcspBody)
    (now : Instant) (s s' : Session σ) (results : List Result) : Prop :=
  ∃ ocsp lists s₁, (checkOcsp web c issuer staple now).run s = (.ok ocsp, s₁) ∧
    (if useLists then checkLists web c now else pure none).run s₁ = (.ok lists, s') ∧
    results = ocsp.toList ++ lists.toList

variable {useLists : Bool} {issuer : Option Certificate} {staple : OcspBody}

theorem check_eq_bind :
    check web useLists (some c) issuer staple now =
      checkOcsp web c issuer staple now >>= fun ocsp =>
        (if useLists then checkLists web c now else pure none) >>= fun lists =>
          pure ((ocsp.toList ++ lists.toList).map Result.text) := by
  cases useLists <;> rfl

theorem exists_consulted_iff {s s' : Session σ} {issues : List String} :
    (check web useLists (some c) issuer staple now).run s = (.ok issues, s') ↔
      ∃ results, Consulted web useLists c issuer staple now s s' results ∧ issues = results.map Result.text := by
  simp only [check_eq_bind, Task.run_bind_eq_ok_iff, Consulted]
  constructor
  · rintro ⟨ocsp, s₁, hocsp, lists, s₂, hlists, hissues⟩
    cases hissues
    exact ⟨_, ⟨ocsp, lists, s₁, hocsp, hlists, rfl⟩, rfl⟩
  · rintro ⟨_, ⟨ocsp, lists, s₁, hocsp, hlists, rfl⟩, rfl⟩
    exact ⟨ocsp, s₁, hocsp, lists, s', hlists, rfl⟩

theorem Consulted.isFaithful (hweb : Unmarked web c) {s s' : Session σ} {results : List Result}
    (h : Consulted web useLists c issuer staple now s s' results) : ∀ v ∈ results, v.IsFaithful := by
  obtain ⟨ocsp, lists, s₁, hocsp, hlists, rfl⟩ := h
  intro v hv
  rcases List.mem_append.mp hv with hv | hv
  · obtain rfl := Option.mem_toList.mp hv
    unfold checkOcsp at hocsp
    split at hocsp
    · cases hocsp
    split at hocsp
    · exact isFaithful_askResponder hweb hocsp
    · exact isFaithful_checkStaple (Except.ok.inj (congrArg Prod.fst hocsp))
  · obtain rfl := Option.mem_toList.mp hv
    split at hlists
    · exact isFaithful_checkLists hweb hlists
    · cases hlists

theorem ite_eq_ite_iff_of_imp {α : Type} {a b : Prop} [Decidable a] [Decidable b] {x y : α} (h : b → a) :
    (if a then x else y) = (if b then x else y) ↔ y = x ∨ b ∨ ¬ a := by
  by_cases hb : b
  · rw [if_pos (h hb), if_pos hb]
    exact iff_of_true rfl (.inr (.inl hb))
  · by_cases ha : a
    · rw [if_pos ha, if_neg hb]
      simp only [hb, ha, not_true_eq_false, or_false, eq_comm]
    · rw [if_neg ha, if_neg hb]
      exact iff_of_true rfl (.inr (.inr ha))

/-- With the issues of a check a finding is critical where a part of the check reports that the certificate is
revoked, or where the mark stands in the detail of another result; its severity is left alone elsewhere. So the first
alone decides just where the finding was critical before, or the mark stands in a detail only beside such a result;
and it does at least where neither an address of the certificate nor a failure of the web bears the mark. -/
theorem severity_withRevocation_iff {s s' : Session σ} {issues : List String}
    (h : (check web useLists (some c) issuer staple now).run s = (.ok issues, s')) (f : Finding) :
    ∃ results, Consulted web useLists c issuer staple now s s' results ∧ issues = results.map Result.text ∧
      { f with revocationIssues := issues }.withRevocation.severity =
        (if ∃ v ∈ results, v.status = .revoked ∨ SaysRevoked v.detail then .critical else f.severity) ∧
      ({ f with revocationIssues := issues }.withRevocation.severity =
          (if ∃ v ∈ results, v.status = .revoked then .critical else f.severity) ↔
        f.severity = .critical ∨ (∃ v ∈ results, v.status = .revoked) ∨ ∀ v ∈ results, ¬ SaysRevoked v.detail) ∧
      (Unmarked web c → { f with revocationIssues := issues }.withRevocation.severity =
        if ∃ v ∈ results, v.status = .revoked then .critical else f.severity) := by
  obtain ⟨results, hconsulted, rfl⟩ := exists_consulted_iff.mp h
  have hseverity : { f with revocationIssues := results.map Result.text }.withRevocation.severity =
      if ∃ v ∈ results, v.status = .revoked ∨ SaysRevoked v.detail then .critical else f.severity := by
    rw [severity_withRevocation]
    refine if_congr ?_ rfl rfl
    simp only [List.mem_map, exists_exists_and_eq_and, saysRevoked_text]
  refine ⟨results, hconsulted, rfl, hseverity, ?_, fun hweb => ?_⟩
  · rw [hseverity, ite_eq_ite_iff_of_imp fun ⟨v, hv, hrevoked⟩ => ⟨v, hv, .inl hrevoked⟩]
    refine or_congr_right ⟨?_, ?_⟩
    · rintro (hrevoked | hnone)
      · exact .inl hrevoked
      · exact .inr fun v hv hsays => hnone ⟨v, hv, .inr hsays⟩
    · rintro (hrevoked | hdetails)
      · exact .inl hrevoked
      · by_cases hrevoked : ∃ v ∈ results, v.status = .revoked
        · exact .inl hrevoked
        · exact .inr fun ⟨v, hv, h⟩ => h.elim (fun h => hrevoked ⟨v, hv, h⟩) (hdetails v hv)
  · rw [hseverity]
    have hfaithful := hconsulted.isFaithful hweb
    exact if_congr (exists_congr fun v => and_congr_right fun hv => or_iff_left_of_imp (hfaithful v hv)) rfl rfl

/-- A certificate with a staple that finds it revoked, and a place of lists out of reach. -/
theorem severity_withRevocation_stapled :
    ∃ issues s', (check (sampleWeb []) true (some (sampleRevocable [] ["down"])) (some (sampleRevocable [] []))
        (.answer ⟨1, .revoked, none⟩) (sampleTime 5)).run (.start ()) = (.ok issues, s') ∧
      Unmarked (sampleWeb []) (sampleRevocable [] ["down"]) ∧
      { sampleFinding externalSource "web" (sampleTime 9) with
        revocationIssues := issues }.withRevocation.severity = .critical := by
  have hweb : Unmarked (sampleWeb []) (sampleRevocable [] ["down"]) := by
    constructor
    · rintro url ⟨urls, hurls | hurls, hmem⟩ <;> cases hurls
      · cases hmem
      · rw [List.mem_singleton.mp hmem]
        decide +kernel
    · intro r ρ f hanswer
      cases hanswer
      decide +kernel
  obtain ⟨issues, s', hrun⟩ : ∃ issues s', (check (sampleWeb []) true (some (sampleRevocable [] ["down"]))
      (some (sampleRevocable [] [])) (.answer ⟨1, .revoked, none⟩) (sampleTime 5)).run (.start ()) =
        (.ok issues, s') := ⟨_, _, rfl⟩
  obtain ⟨results, ⟨ocsp, lists, s₁, hocsp, _, rfl⟩, _, _, _, hseverity⟩ :=
    severity_withRevocation_iff hrun (sampleFinding externalSource "web" (sampleTime 9))
  cases hocsp
  exact ⟨issues, s', hrun, hweb, (hseverity hweb).trans (if_pos ⟨_, List.mem_cons_self, rfl⟩)⟩

def sampleMarked : Certificate := sampleRevocable ["http://ocsp/CERT_REVOKED"] []

/-- A responder that is out of reach makes the finding critical if its address bears the mark. -/
theorem exists_critical_not_revoked :
    ¬ ∀ (web : Web Unit) (useLists : Bool) (c : Certificate) (issuer : Option Certificate) (staple : OcspBody)
        (now : Instant) (s s' : Session Unit) (issues : List String) (f : Finding),
      (check web useLists (some c) issuer staple now).run s = (.ok issues, s') →
      ∃ results, Consulted web useLists c issuer staple now s s' results ∧
        { f with revocationIssues := issues }.withRevocation.severity =
          if ∃ v ∈ results, v.status = .revoked then .critical else f.severity := by
  intro h
  have hresponders : sampleMarked.responders = .ok ["http://ocsp/CERT_REVOKED"] := rfl
  have hscheme : hasScheme (requestAddress "http://ocsp/CERT_REVOKED") = true := by decide +kernel
  have hask : (checkOcsp (sampleWeb []) sampleMarked (some sampleMarked) .empty (sampleTime 5)).run (.start ()) =
      (.ok (some ⟨.unreachable, "OCSP responder at " ++ "http://ocsp/CERT_REVOKED" ++ ": " ++
        (Failure.saying .url "no route to host").text⟩),
        .after (sampleWeb []) (responderRequest "http://ocsp/CERT_REVOKED") (.start ())) := by
    show (askResponder (sampleWeb []) sampleMarked).run _ = _
    rw [run_askResponder_cons hresponders, if_pos hscheme]
    rfl
  have hconsulted : Consulted (sampleWeb []) false sampleMarked (some sampleMarked) .empty (sampleTime 5) (.start ())
      _ _ := ⟨_, none, _, hask, rfl, rfl⟩
  obtain ⟨results, ⟨ocsp, lists, s₁, hocsp, hlists, rfl⟩, hseverity⟩ :=
    h (sampleWeb []) false sampleMarked (some sampleMarked) .empty (sampleTime 5) _ _ _
      (sampleFinding externalSource "web" (sampleTime 9))
      (exists_consulted_iff.mpr ⟨_, hconsulted, rfl⟩)
  cases hask.symm.trans hocsp
  cases hlists
  exact absurd hseverity (by decide +kernel)

end CertInventory.Revocation

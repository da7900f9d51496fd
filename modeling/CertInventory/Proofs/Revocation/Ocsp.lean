import CertInventory.Proofs.Revocation.Mark

/-!
What the OCSP part of a check makes of a response, be it stapled or the answer of a responder. A staple counts only
for the certificate's own serial number and only in date; of a responder's answer nothing but the standing counts, and
an unknown standing passes for a good one. Both ways give one guarantee, that a revoked or a silent result rests on a
response about the certificate itself, exactly where a responder's answer is about the certificate and knows it
(`isGuaranteed_iff_own_answer`).
-/

namespace CertInventory

open Time

def OcspAnswer.IsCurrent (a : OcspAnswer) (now : Instant) : Prop :=
  ∀ limit, a.nextUpdate = some limit → now ≤ limit

/-- The bytes load as a successful response about the certificate's own serial number, with this standing. -/
def HttpBody.Gives (body : HttpBody) (c : Certificate) (standing : Standing) : Prop :=
  ∃ a, body.ocsp? = some (.ok a) ∧ a.serial = c.serial ∧ a.standing = standing

namespace Revocation

/-- A part of a check found the certificate revoked. -/
def FindsRevoked (r : Option Result) : Prop := ∃ v, r = some v ∧ v.status = .revoked

theorem findsRevoked_some {v : Result} : FindsRevoked (some v) ↔ v.status = .revoked := by
  simp only [FindsRevoked, Option.some.injEq, exists_eq_left']

section Staple

variable {staple : OcspBody} {c : Certificate} {now : Instant}

/-- A staple that does not load, is a refusal, is about another certificate or is past its next update is invalid;
of any other the standing decides. -/
theorem checkStaple_cases (staple : OcspBody) (c : Certificate) (now : Instant) :
    (∃ detail, checkStaple staple c now = some ⟨.stapleInvalid, detail⟩ ∧
      ∀ a, staple.read? = some (.ok a) → a.serial = c.serial → ¬ a.IsCurrent now) ∨
    ∃ a, staple.read? = some (.ok a) ∧ a.serial = c.serial ∧ a.IsCurrent now ∧
      checkStaple staple c now = stapleStanding a.standing := by
  have hread : staple.read? = none ∨ (∃ r, staple.read? = some (.error r)) ∨ ∃ a, staple.read? = some (.ok a) := by
    cases staple <;> simp [OcspBody.read?]
  rcases hread with h | ⟨r, h⟩ | ⟨a, h⟩
  · left
    simp [checkStaple, h]
  · left
    simp [checkStaple, h]
  · by_cases hserial : a.serial = c.serial
    · cases hlimit : a.nextUpdate with
      | none =>
        right
        exact ⟨a, h, hserial, by simp [OcspAnswer.IsCurrent, hlimit], by simp [checkStaple, h, hserial, hlimit]⟩
      | some limit =>
        by_cases hpast : limit < now
        · left
          have hnot : ¬ a.IsCurrent now := fun hcurrent => Nat.not_le.mpr hpast (hcurrent limit hlimit)
          refine ⟨"OCSP staple expired at " ++ limit.secondText, by simp [checkStaple, h, hserial, hlimit, hpast], ?_⟩
          intro b hb _
          obtain rfl : a = b := by simpa [h] using hb
          exact hnot
        · right
          have hcurrent : a.IsCurrent now := by
            intro t ht
            obtain rfl : limit = t := by simpa [hlimit] using ht
            exact Nat.not_lt.mp hpast
          exact ⟨a, h, hserial, hcurrent, by simp [checkStaple, h, hserial, hlimit, hpast]⟩
    · left
      refine ⟨"OCSP staple is for a different certificate", by simp [checkStaple, h, hserial], ?_⟩
      intro b hb hown
      obtain rfl : a = b := by simpa [h] using hb
      exact absurd hown hserial

/-- A staple finds the certificate revoked just where it says so of the certificate itself, in date. -/
theorem findsRevoked_checkStaple_iff :
    FindsRevoked (checkStaple staple c now) ↔
      ∃ a, staple.read? = some (.ok a) ∧ a.serial = c.serial ∧ a.IsCurrent now ∧ a.standing = .revoked := by
  rcases checkStaple_cases staple c now with ⟨detail, h, hnone⟩ | ⟨a, hread, hserial, hcurrent, h⟩
  · rw [h, findsRevoked_some]
    refine iff_of_false nofun ?_
    rintro ⟨a, hread, hserial, hcurrent, _⟩
    exact hnone a hread hserial hcurrent
  · have hstanding : FindsRevoked (stapleStanding a.standing) ↔ a.standing = .revoked := by
      cases a.standing <;> simp [stapleStanding, FindsRevoked]
    rw [h, hstanding]
    constructor
    · intro hrevoked
      exact ⟨a, hread, hserial, hcurrent, hrevoked⟩
    · rintro ⟨b, hb, _, _, hrevoked⟩
      obtain rfl : a = b := by simpa [hread] using hb
      exact hrevoked

theorem checkStaple_eq_none_iff :
    checkStaple staple c now = none ↔
      ∃ a, staple.read? = some (.ok a) ∧ a.serial = c.serial ∧ a.IsCurrent now ∧ a.standing = .good := by
  rcases checkStaple_cases staple c now with ⟨detail, h, hnone⟩ | ⟨a, hread, hserial, hcurrent, h⟩
  · rw [h]
    refine iff_of_false nofun ?_
    rintro ⟨a, hread, hserial, hcurrent, _⟩
    exact hnone a hread hserial hcurrent
  · have hstanding : stapleStanding a.standing = none ↔ a.standing = .good := by
      cases a.standing <;> simp [stapleStanding]
    rw [h, hstanding]
    constructor
    · intro hgood
      exact ⟨a, hread, hserial, hcurrent, hgood⟩
    · rintro ⟨b, hb, _, _, hgood⟩
      obtain rfl : a = b := by simpa [hread] using hb
      exact hgood

end Staple

section Responder

variable {url : String} {body : HttpBody}

theorem findsRevoked_responderVerdict_iff :
    FindsRevoked (responderVerdict url body) ↔ ∃ a, body.ocsp? = some (.ok a) ∧ a.standing = .revoked := by
  unfold responderVerdict
  split
  · rename_i h
    simp [findsRevoked_some, h]
  · rename_i r h
    simp [findsRevoked_some, h]
  · rename_i a h
    cases hstanding : a.standing <;> simp [FindsRevoked, h, hstanding]

/-- A responder's answer gives nothing to report where its standing is good, and also where it is unknown. -/
theorem responderVerdict_eq_none_iff :
    responderVerdict url body = none ↔ ∃ a, body.ocsp? = some (.ok a) ∧ a.standing ≠ .revoked := by
  unfold responderVerdict
  split
  · rename_i h
    simp [h]
  · rename_i r h
    simp [h]
  · rename_i a h
    cases hstanding : a.standing <;> simp [h, hstanding]

end Responder

variable {σ : Type} {web : Web σ} {c issuer : Certificate} {now : Instant}

/-- The bytes of a response reach the check of a certificate: stapled to the handshake, or without a staple as the
answer of the first responder that the certificate names. -/
inductive Arrives (web : Web σ) (c : Certificate) (s : Session σ) : OcspBody → HttpBody → Prop where
  | stapled {staple : OcspBody} : staple.isEmpty = false → Arrives web c s staple (.ocsp staple)
  | answered {url : String} {urls : List String} {body : HttpBody} : c.responders = .ok (url :: urls) →
      hasScheme (requestAddress url) = true → (web.answer (responderRequest url) s.remote).1 = .ok body →
      Arrives web c s .empty body

/-- What the OCSP part of a check gives to report rests on a response about the certificate itself: a revoked result
on one that revokes it, and nothing at all on one that calls it good. -/
structure IsGuaranteed (body : HttpBody) (c : Certificate) (r : Option Result) : Prop where
  revoked : FindsRevoked r → body.Gives c .revoked
  silent : r = none → body.Gives c .good

theorem isGuaranteed_checkStaple (staple : OcspBody) (c : Certificate) (now : Instant) :
    IsGuaranteed (.ocsp staple) c (checkStaple staple c now) where
  revoked h := by
    obtain ⟨a, hread, hserial, _, hrevoked⟩ := findsRevoked_checkStaple_iff.mp h
    exact ⟨a, hread, hserial, hrevoked⟩
  silent h := by
    obtain ⟨a, hread, hserial, _, hgood⟩ := checkStaple_eq_none_iff.mp h
    exact ⟨a, hread, hserial, hgood⟩

/-- A responder's answer carries the guarantee of a staple just where it is about the certificate's own serial number
and does not call the standing unknown. -/
theorem isGuaranteed_responderVerdict_iff {url : String} {body : HttpBody} :
    IsGuaranteed body c (responderVerdict url body) ↔
      ∀ a, body.ocsp? = some (.ok a) → a.serial = c.serial ∧ a.standing ≠ .unknown := by
  constructor
  · intro h a hread
    by_cases hstanding : a.standing = .revoked
    · obtain ⟨b, hb, hserial, _⟩ := h.revoked (findsRevoked_responderVerdict_iff.mpr ⟨a, hread, hstanding⟩)
      obtain rfl : a = b := by simpa [hread] using hb
      exact ⟨hserial, by simp [hstanding]⟩
    · obtain ⟨b, hb, hserial, hgood⟩ := h.silent (responderVerdict_eq_none_iff.mpr ⟨a, hread, hstanding⟩)
      obtain rfl : a = b := by simpa [hread] using hb
      exact ⟨hserial, by simp [hgood]⟩
  · intro h
    constructor
    · intro hfinds
      obtain ⟨a, hread, hrevoked⟩ := findsRevoked_responderVerdict_iff.mp hfinds
      exact ⟨a, hread, (h a hread).1, hrevoked⟩
    · intro hnone
      obtain ⟨a, hread, hstanding⟩ := responderVerdict_eq_none_iff.mp hnone
      obtain ⟨hserial, hknown⟩ := h a hread
      refine ⟨a, hread, hserial, ?_⟩
      cases hgood : a.standing with
      | good => rfl
      | revoked => exact absurd hgood hstanding
      | unknown => exact absurd hgood hknown

theorem run_checkOcsp_stapled (web : Web σ) (c issuer : Certificate) (now : Instant) {staple : OcspBody}
    (h : staple.isEmpty = false) (s : Session σ) :
    (checkOcsp web c (some issuer) staple now).run s = (.ok (checkStaple staple c now), s) := by
  simp only [checkOcsp, h, Bool.false_eq_true, if_false]
  rfl

theorem run_checkOcsp_answered (issuer : Certificate) (now : Instant) {url : String} {urls : List String}
    {body : HttpBody} {s : Session σ} (hurls : c.responders = .ok (url :: urls))
    (hscheme : hasScheme (requestAddress url) = true)
    (hanswer : (web.answer (responderRequest url) s.remote).1 = .ok body) :
    (checkOcsp web c (some issuer) .empty now).run s =
      (.ok (responderVerdict url body), s.after web (responderRequest url)) := by
  have hask : (askResponder web c).run s = _ := run_askResponder_cons hurls s
  rw [if_pos hscheme, hanswer] at hask
  exact hask

/-- The texts that a check gives begin with what its OCSP part reports. -/
theorem run_check_of_checkOcsp {staple : OcspBody} {s s₁ : Session σ} {r : Option Result}
    (hocsp : (checkOcsp web c (some issuer) staple now).run s = (.ok r, s₁)) :
    (check web false (some c) (some issuer) staple now).run s = (.ok (r.toList.map Result.text), s₁) ∧
    ∀ lists s₂, (checkLists web c now).run s₁ = (.ok lists, s₂) →
      (check web true (some c) (some issuer) staple now).run s =
        (.ok ((r.toList ++ lists.toList).map Result.text), s₂) := by
  constructor
  · rw [check_eq_bind, Task.run_bind_ok hocsp, if_neg Bool.false_ne_true, Task.run_bind_ok (Task.run_pure none s₁),
      Task.run_pure, Option.toList_none, List.append_nil]
  · intro lists s₂ hlists
    rw [check_eq_bind, Task.run_bind_ok hocsp, if_pos rfl, Task.run_bind_ok hlists, Task.run_pure]

/-- Whichever way a response arrives, the check returns, and begins with what its OCSP part makes of the response: it
finds the certificate revoked where the standing says so, and is silent where the standing is good, or unknown in an
answer; a staple has to be about the certificate itself and in date besides. So the result rests on a response about
the certificate itself for every staple, and for an answer just where that is about the certificate's own serial
number and its standing is known. -/
theorem isGuaranteed_iff_own_answer {staple : OcspBody} {body : HttpBody} {s : Session σ}
    (h : Arrives web c s staple body) (issuer : Certificate) (now : Instant) :
    ∃ r s₁, (checkOcsp web c (some issuer) staple now).run s = (.ok r, s₁) ∧
      (check web false (some c) (some issuer) staple now).run s = (.ok (r.toList.map Result.text), s₁) ∧
      (∀ lists s₂, (checkLists web c now).run s₁ = (.ok lists, s₂) →
        (check web true (some c) (some issuer) staple now).run s =
          (.ok ((r.toList ++ lists.toList).map Result.text), s₂)) ∧
      (FindsRevoked r ↔ ∃ a, body.ocsp? = some (.ok a) ∧ a.standing = .revoked ∧
        (staple.isEmpty = false → a.serial = c.serial ∧ a.IsCurrent now)) ∧
      (r = none ↔ ∃ a, body.ocsp? = some (.ok a) ∧ (a.standing = .good ∨ staple.isEmpty = true ∧ a.standing = .unknown) ∧
        (staple.isEmpty = false → a.serial = c.serial ∧ a.IsCurrent now)) ∧
      (IsGuaranteed body c r ↔
        staple.isEmpty = false ∨ ∀ a, body.ocsp? = some (.ok a) → a.serial = c.serial ∧ a.standing ≠ .unknown) := by
  cases h with
  | stapled hstaple =>
    have hocsp := run_checkOcsp_stapled web c issuer now hstaple s
    obtain ⟨hcheck, hlists⟩ := run_check_of_checkOcsp hocsp
    refine ⟨_, s, hocsp, hcheck, hlists, ?_, ?_, iff_of_true (isGuaranteed_checkStaple staple c now) (.inl hstaple)⟩
    · rw [findsRevoked_checkStaple_iff]
      refine exists_congr fun a => and_congr_right fun _ => ?_
      simp only [hstaple, forall_const]
      tauto
    · rw [checkStaple_eq_none_iff]
      refine exists_congr fun a => and_congr_right fun _ => ?_
      simp only [hstaple, forall_const, Bool.false_eq_true, false_and, or_false]
      tauto
  | @answered url urls body hurls hscheme hanswer =>
    have hocsp := run_checkOcsp_answered issuer now hurls hscheme hanswer
    obtain ⟨hcheck, hlists⟩ := run_check_of_checkOcsp hocsp
    have hempty : OcspBody.empty.isEmpty = true := rfl
    refine ⟨_, _, hocsp, hcheck, hlists, ?_, ?_, ?_⟩
    · rw [findsRevoked_responderVerdict_iff]
      simp only [hempty, Bool.true_eq_false, false_imp_iff, and_true]
    · rw [responderVerdict_eq_none_iff]
      refine exists_congr fun a => and_congr_right fun _ => ?_
      cases a.standing <;> simp [hempty]
    · rw [isGuaranteed_responderVerdict_iff]
      simp only [hempty, Bool.true_eq_false, false_or]

/-- A certificate with serial number 1 and a responder, and a web in which that responder answers. -/
def sampleAsked : Certificate := sampleRevocable ["http://ocsp"] []

def sampleResponder (a : OcspAnswer) : Web Unit := sampleWeb [("http://ocsp", .ok (.ocsp (.answer a)))]

theorem sampleAsked_arrives (a : OcspAnswer) :
    Arrives (sampleResponder a) sampleAsked (.start ()) .empty (.ocsp (.answer a)) := by
  have haddress : (responderRequest "http://ocsp").url = "http://ocsp" := by decide +kernel
  refine @Arrives.answered _ _ _ _ "http://ocsp" [] _ rfl (by decide +kernel) ?_
  simp only [sampleResponder, sampleWeb, haddress, List.lookup_cons_self, Option.getD_some]

theorem isGuaranteed_own_answer :
    Arrives (sampleResponder ⟨1, .revoked, none⟩) sampleAsked (.start ()) .empty (.ocsp (.answer ⟨1, .revoked, none⟩)) ∧
    ∃ r s₁, (checkOcsp (sampleResponder ⟨1, .revoked, none⟩) sampleAsked (some sampleAsked) .empty
        (sampleTime 5)).run (.start ()) = (.ok r, s₁) ∧ FindsRevoked r ∧
      IsGuaranteed (.ocsp (.answer ⟨1, .revoked, none⟩)) sampleAsked r := by
  have harrives := sampleAsked_arrives ⟨1, .revoked, none⟩
  obtain ⟨r, s₁, hrun, _, _, hfinds, _, hguaranteed⟩ :=
    isGuaranteed_iff_own_answer harrives sampleAsked (sampleTime 5)
  refine ⟨harrives, r, s₁, hrun, hfinds.mpr ⟨_, rfl, rfl, nofun⟩, hguaranteed.mpr (.inr ?_)⟩
  rintro a ⟨⟩
  exact ⟨rfl, nofun⟩

/-- A responder that answers about another serial number revokes the certificate that was asked about. -/
theorem not_isGuaranteed_foreign_answer :
    ¬ ∀ (web : Web Unit) (c issuer : Certificate) (now : Instant) (s s₁ : Session Unit) (staple : OcspBody)
        (body : HttpBody) (r : Option Result), Arrives web c s staple body →
      (checkOcsp web c (some issuer) staple now).run s = (.ok r, s₁) →
      (check web false (some c) (some issuer) staple now).run s = (.ok (r.toList.map Result.text), s₁) →
      IsGuaranteed body c r := by
  intro h
  have harrives := sampleAsked_arrives ⟨2, .revoked, none⟩
  cases harrives with
  | answered hurls hscheme hanswer =>
    have hocsp := run_checkOcsp_answered sampleAsked (sampleTime 5) hurls hscheme hanswer
    have hguaranteed := h _ sampleAsked sampleAsked (sampleTime 5) _ _ .empty _ _ (.answered hurls hscheme hanswer)
      hocsp (run_check_of_checkOcsp hocsp).1
    have hown := isGuaranteed_responderVerdict_iff.mp hguaranteed _ rfl
    exact absurd hown.1 (by decide)

end Revocation

end CertInventory

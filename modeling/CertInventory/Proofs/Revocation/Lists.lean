import CertInventory.Proofs.Sample
import CertInventory.Revocation.Crl
import Mathlib.Data.List.Basic

/-!
Looking a certificate up in its revocation lists, place by place. The search goes on past a place only where that
place gives a list that is in date and does not hold the certificate (`Passes`), and it ends at the first other one
(`searchLists_cases`). A list that holds the certificate is therefore reported exactly where no earlier place is in
trouble; behind such a place it is not looked at, though something is reported in any case (`revoked_iff_passes`).
-/

namespace CertInventory

open Time

def RevocationList.IsCurrent (l : RevocationList) (now : Instant) : Prop :=
  ∀ limit, l.nextUpdate = some limit → now ≤ limit

namespace Revocation

variable {σ : Type}

theorem isCurrent_iff {l : RevocationList} {now : Instant} :
    l.IsCurrent now ↔ ∀ limit, l.nextUpdate = some limit → ¬ limit < now :=
  forall₂_congr fun _ _ => Nat.not_lt.symm

/-- What a list gives to report at an instant: that it is out of date, or that it holds the certificate. -/
theorem listVerdict_cases (url : String) (l : RevocationList) (c : Certificate) (now : Instant) :
    (∃ limit, l.nextUpdate = some limit ∧ limit < now ∧
      listVerdict url l c now = some ⟨.listStale, "CRL from " ++ url ++ " expired " ++ limit.secondText⟩) ∨
    (l.IsCurrent now ∧ c.serial ∈ l.serials ∧ listVerdict url l c now =
      some ⟨.revoked, "CRL from " ++ url ++ ": certificate serial " ++ Text.showHex c.serial ++ " revoked"⟩) ∨
    (l.IsCurrent now ∧ c.serial ∉ l.serials ∧ listVerdict url l c now = none) := by
  have hcontains : l.serials.contains c.serial = decide (c.serial ∈ l.serials) := List.contains_eq_mem _ _
  simp only [isCurrent_iff, listVerdict, hcontains, decide_eq_true_eq]
  cases l.nextUpdate with
  | none => by_cases hserial : c.serial ∈ l.serials <;> simp [hserial]
  | some limit =>
    by_cases hpast : limit < now
    · exact .inl ⟨limit, rfl, hpast, by simp only [if_pos hpast]⟩
    · by_cases hserial : c.serial ∈ l.serials <;> simp [hserial, hpast]

theorem listOf_of_kept {web : Web σ} {url : String} {now : Instant} {s : Session σ} {l : RevocationList}
    (h : s.cache.get? url now = some l) : (listOf web url now).run s = (.ok (.ok l), s) := by
  have hkept : (Session.kept? url now).run s = (.ok (some l), s) := by rw [← h]; rfl
  rw [listOf, Task.run_bind_ok hkept]
  rfl

theorem run_fetchList (web : Web σ) (url : String) (s : Session σ) :
    (fetchList web url).run s =
      (match (web.answer (listRequest url) s.remote).1 with
        | .error f => .error (.outside f)
        | .ok body =>
          match body.revocationList? with
          | some l => .ok l
          | none => .error (.decode .malformed), s.after web (listRequest url)) := by
  rw [fetchList, Task.run_bind, Session.run_send]
  cases (web.answer (listRequest url) s.remote).1 with
  | error f => rfl
  | ok body => cases h : body.revocationList? <;> simp [Except.mapError, h]

/-- A list that is not kept is asked for: a failure of transport or damaged bytes are the place's fault, and a list
that comes is kept. -/
theorem listOf_of_not_kept {web : Web σ} {url : String} {now : Instant} {s : Session σ}
    (h : s.cache.get? url now = none) :
    (listOf web url now).run s =
      match (web.answer (listRequest url) s.remote).1 with
      | .error f =>
        (if f.kind.isTransport then .ok (.error (.outside f)) else .error (.outside f), s.after web (listRequest url))
      | .ok body =>
        match body.revocationList? with
        | none => (.ok (.error (.decode .malformed)), s.after web (listRequest url))
        | some l =>
          match Cache.expiry? l now with
          | none => (.error .outOfRange, s.after web (listRequest url))
          | some limit =>
            (.ok (.ok l), { s.after web (listRequest url) with cache := s.cache.keep url ⟨l, limit⟩ }) := by
  have hkept : (Session.kept? url now).run s = (.ok none, s) := by rw [← h]; rfl
  rw [listOf, Task.run_bind_ok hkept]
  simp only [Task.run_bind, Task.run_catching, run_fetchList]
  cases (web.answer (listRequest url) s.remote).1 with
  | error f =>
    by_cases htransport : f.kind.isTransport = true
    · simp only [isFetchFault, Fault.isTransport, htransport, if_true]
      rfl
    · simp only [isFetchFault, Fault.isTransport, htransport, Bool.false_eq_true, if_false]
  | ok body =>
    cases hbody : body.revocationList? with
    | none =>
      simp only [hbody, isFetchFault, if_true]
      rfl
    | some l =>
      simp only [hbody]
      cases hlimit : Cache.expiry? l now with
      | none => exact Task.run_bind_error (Session.run_keep_none hlimit url _) _
      | some limit =>
        rw [Task.run_bind_ok (Session.run_keep_some hlimit url _)]
        rfl

theorem searchLists_cons (web : Web σ) (c : Certificate) (now : Instant) (url : String) (urls : List String)
    (s : Session σ) :
    (searchLists web c now (url :: urls)).run s =
      match (listOf web url now).run s with
      | (.error f, s') => (.error f, s')
      | (.ok (.error f), s') => (.ok (some ⟨.unreachable, "CRL fetch from " ++ url ++ ": " ++ f.text⟩), s')
      | (.ok (.ok l), s') =>
        match listVerdict url l c now with
        | some v => (.ok (some v), s')
        | none => (searchLists web c now urls).run s' := by
  rw [searchLists, Task.run_bind]
  rcases (listOf web url now).run s with ⟨f | f | l, s'⟩
  · rfl
  · rfl
  · simp only
    cases listVerdict url l c now <;> rfl

/-- The search goes on past these places: each gives a list that is in date and does not hold the certificate. -/
inductive Passes (web : Web σ) (c : Certificate) (now : Instant) : List String → Session σ → Session σ → Prop where
  | nil {s : Session σ} : Passes web c now [] s s
  | cons {url : String} {urls : List String} {l : RevocationList} {s s' s'' : Session σ} :
      (listOf web url now).run s = (.ok (.ok l), s') → l.IsCurrent now → c.serial ∉ l.serials →
      Passes web c now urls s' s'' → Passes web c now (url :: urls) s s''

/-- What a place gives to report: that it cannot be reached, that its list is out of date, or that its list holds the
certificate. -/
inductive Reports (web : Web σ) (c : Certificate) (now : Instant) (url : String) (s s' : Session σ) :
    Result → Prop where
  | unreachable {f : Fault} : (listOf web url now).run s = (.ok (.error f), s') →
      Reports web c now url s s' ⟨.unreachable, "CRL fetch from " ++ url ++ ": " ++ f.text⟩
  | stale {l : RevocationList} {limit : Instant} : (listOf web url now).run s = (.ok (.ok l), s') →
      l.nextUpdate = some limit → limit < now →
      Reports web c now url s s' ⟨.listStale, "CRL from " ++ url ++ " expired " ++ limit.secondText⟩
  | listed {l : RevocationList} : (listOf web url now).run s = (.ok (.ok l), s') → l.IsCurrent now →
      c.serial ∈ l.serials → Reports web c now url s s'
        ⟨.revoked, "CRL from " ++ url ++ ": certificate serial " ++ Text.showHex c.serial ++ " revoked"⟩

variable {web : Web σ} {c : Certificate} {now : Instant}

theorem searchLists_of_reports {url : String} {s s' : Session σ} {v : Result} (h : Reports web c now url s s' v)
    (urls : List String) : (searchLists web c now (url :: urls)).run s = (.ok (some v), s') := by
  cases h with
  | unreachable hlist => rw [searchLists_cons, hlist]
  | @stale l limit hlist hlimit hpast =>
    rw [searchLists_cons, hlist]
    rcases listVerdict_cases url l c now with ⟨t, ht, _, hv⟩ | ⟨hcurrent, _⟩ | ⟨hcurrent, _⟩
    · obtain rfl : limit = t := Option.some.inj (hlimit.symm.trans ht)
      simp only [hv]
    · exact absurd hpast (isCurrent_iff.mp hcurrent limit hlimit)
    · exact absurd hpast (isCurrent_iff.mp hcurrent limit hlimit)
  | @listed l hlist hcurrent hserial =>
    rw [searchLists_cons, hlist]
    rcases listVerdict_cases url l c now with ⟨t, ht, hpast, _⟩ | ⟨_, _, hv⟩ | ⟨_, hnot, _⟩
    · exact absurd hpast (isCurrent_iff.mp hcurrent t ht)
    · simp only [hv]
    · exact absurd hserial hnot

/-- Places that are passed leave the search to those behind them. -/
theorem Passes.searchLists_append {before : List String} {s s₁ : Session σ} (h : Passes web c now before s s₁)
    (behind : List String) :
    (searchLists web c now (before ++ behind)).run s = (searchLists web c now behind).run s₁ := by
  induction h with
  | nil => rfl
  | @cons url urls l s s' s'' hlist hcurrent hserial _ ih =>
    rw [List.cons_append, searchLists_cons, hlist]
    rcases listVerdict_cases url l c now with ⟨t, ht, hpast, _⟩ | ⟨_, hmem, _⟩ | ⟨_, _, hv⟩
    · exact absurd hpast (isCurrent_iff.mp hcurrent t ht)
    · exact absurd hmem hserial
    · simp only [hv, ih]

/-- The search passes all places, or it ends at the first that it does not pass: broken off there, or with what that
place gives to report. -/
theorem searchLists_cases (web : Web σ) (c : Certificate) (now : Instant) (urls : List String) (s : Session σ) :
    (∃ s', Passes web c now urls s s' ∧ (searchLists web c now urls).run s = (.ok none, s')) ∨
    ∃ before url behind s₁, urls = before ++ url :: behind ∧ Passes web c now before s s₁ ∧
      ((∃ f s', (listOf web url now).run s₁ = (.error f, s') ∧
          (searchLists web c now urls).run s = (.error f, s')) ∨
        ∃ v s', Reports web c now url s₁ s' v ∧ (searchLists web c now urls).run s = (.ok (some v), s')) := by
  induction urls generalizing s with
  | nil => exact .inl ⟨s, .nil, rfl⟩
  | cons url urls ih =>
    have hreports {v : Result} {s' : Session σ} (h : Reports web c now url s s' v) :=
      (⟨v, s', h, searchLists_of_reports h urls⟩ : ∃ v s', Reports web c now url s s' v ∧
        (searchLists web c now (url :: urls)).run s = (.ok (some v), s'))
    rcases hlist : (listOf web url now).run s with ⟨f | f | l, s'⟩
    · exact .inr ⟨[], url, urls, s, rfl, .nil, .inl ⟨f, s', hlist, by rw [searchLists_cons, hlist]⟩⟩
    · exact .inr ⟨[], url, urls, s, rfl, .nil, .inr (hreports (.unreachable hlist))⟩
    · rcases listVerdict_cases url l c now with ⟨t, ht, hpast, _⟩ | ⟨hcurrent, hmem, _⟩ | ⟨hcurrent, hserial, hv⟩
      · exact .inr ⟨[], url, urls, s, rfl, .nil, .inr (hreports (.stale hlist ht hpast))⟩
      · exact .inr ⟨[], url, urls, s, rfl, .nil, .inr (hreports (.listed hlist hcurrent hmem))⟩
      · have hpass : Passes web c now [url] s s' := .cons hlist hcurrent hserial .nil
        have hrun : (searchLists web c now (url :: urls)).run s = (searchLists web c now urls).run s' :=
          hpass.searchLists_append urls
        rcases ih s' with ⟨s'', hall, hnone⟩ | ⟨before, place, behind, s₁, rfl, hbefore, hstop⟩
        · exact .inl ⟨s'', .cons hlist hcurrent hserial hall, hrun.trans hnone⟩
        · rw [hrun]
          exact .inr ⟨url :: before, place, behind, s₁, rfl, .cons hlist hcurrent hserial hbefore, hstop⟩

/-- The web fails to hand out lists only by failures of transport. -/
def FailsInTransport (web : Web σ) : Prop :=
  ∀ url ρ f, (web.answer (listRequest url) ρ).1 = .error f → f.kind.isTransport = true

theorem expiry?_ne_none (l : RevocationList) (hhour : now.add? Cache.defaultLife ≠ none) :
    Cache.expiry? l now ≠ none := by
  unfold Cache.expiry?
  split
  · exact Option.some_ne_none _
  · exact hhour

/-- A list that is in date is kept beyond the present instant. -/
theorem not_expiry?_lt {l : RevocationList} {limit : Instant} (hcurrent : l.IsCurrent now)
    (h : Cache.expiry? l now = some limit) : ¬ limit < now := by
  unfold Cache.expiry? at h
  split at h
  · rename_i t ht
    obtain rfl := Option.some.inj h
    exact isCurrent_iff.mp hcurrent t ht
  · simp only [Instant.add?, Instant.ofMicros?] at h
    split at h
    · obtain rfl := Option.some.inj h
      have hlife : Cache.defaultLife.micros = 3600000000 := rfl
      show ¬ ((now.micros + Cache.defaultLife.micros : Int).toNat < now.micros)
      omega
    · cases h

theorem listOf_ne_error (htransport : FailsInTransport web) (hhour : now.add? Cache.defaultLife ≠ none)
    (url : String) (s s' : Session σ) (f : Fault) : (listOf web url now).run s ≠ (.error f, s') := by
  intro h
  cases hkept : s.cache.get? url now with
  | some l =>
    rw [listOf_of_kept hkept] at h
    cases h
  | none =>
    rw [listOf_of_not_kept hkept] at h
    split at h
    · rename_i failure hanswer
      rw [htransport url _ failure hanswer] at h
      cases h
    · split at h
      · cases h
      · split at h
        · exact expiry?_ne_none _ hhour ‹_›
        · cases h

/-- Where only transport fails, the search comes to a result. -/
theorem exists_searchLists_ok (htransport : FailsInTransport web) (hhour : now.add? Cache.defaultLife ≠ none)
    (urls : List String) (s : Session σ) : ∃ r s', (searchLists web c now urls).run s = (.ok r, s') := by
  rcases searchLists_cases web c now urls s with ⟨s', _, hrun⟩ | ⟨_, url, _, s₁, _, _, hstop⟩
  · exact ⟨none, s', hrun⟩
  · rcases hstop with ⟨f, s', hlist, _⟩ | ⟨v, s', _, hrun⟩
    · exact absurd hlist (listOf_ne_error htransport hhour url s₁ s' f)
    · exact ⟨some v, s', hrun⟩

/-- The list in use at a place: the one kept from it, or else the one its server answers with, whatever was asked
before. -/
def InUse (web : Web σ) (s : Session σ) (now : Instant) (url : String) (l : RevocationList) : Prop :=
  s.cache.get? url now = some l ∨
    s.cache.get? url now = none ∧ ∀ ρ, (web.answer (listRequest url) ρ).1 = .ok (.revocationList (some l))

theorem InUse.exists_listOf {url : String} {l : RevocationList} {s : Session σ} (h : InUse web s now url l)
    (hhour : now.add? Cache.defaultLife ≠ none) : ∃ s', (listOf web url now).run s = (.ok (.ok l), s') := by
  rcases h with hkept | ⟨hkept, hanswer⟩
  · exact ⟨s, listOf_of_kept hkept⟩
  · obtain ⟨limit, hlimit⟩ := Option.ne_none_iff_exists'.mp (expiry?_ne_none l hhour)
    exact ⟨_, by simp only [listOf_of_not_kept hkept, hanswer, HttpBody.revocationList?, hlimit]; rfl⟩

/-- A list in date that is in use stays in use while other places, or its own, are asked. -/
theorem InUse.of_listOf {url place : String} {l l' : RevocationList} {s s' : Session σ}
    (h : InUse web s now url l) (hcurrent : l.IsCurrent now)
    (hlist : (listOf web place now).run s = (.ok (.ok l'), s')) : InUse web s' now url l := by
  cases hkept : s.cache.get? place now with
  | some k =>
    rw [listOf_of_kept hkept] at hlist
    cases hlist
    exact h
  | none =>
    rw [listOf_of_not_kept hkept] at hlist
    split at hlist
    · split at hlist <;> cases hlist
    · rename_i body hbody
      split at hlist
      · cases hlist
      · rename_i k hk
        split at hlist
        · cases hlist
        · rename_i limit hlimit
          cases hlist
          by_cases hplace : url = place
          · -- The place itself was asked: what its server answers with is kept now.
            subst hplace
            rcases h with h | ⟨_, hanswer⟩
            · simp [hkept] at h
            · rw [hanswer] at hbody
              cases hbody
              obtain rfl : l = l' := Option.some.inj hk
              exact .inl (Cache.get?_keep_self _ _ (not_expiry?_lt hcurrent hlimit))
          · simp only [InUse, Cache.get?_keep_of_ne _ hplace]
            exact h

/-- The search does not pass a place whose list in use is in date and holds the certificate. -/
theorem not_passes_of_inUse {url : String} {l : RevocationList} {urls : List String} {s s' : Session σ}
    (h : InUse web s now url l) (hcurrent : l.IsCurrent now) (hserial : c.serial ∈ l.serials)
    (hhour : now.add? Cache.defaultLife ≠ none) (hmem : url ∈ urls) : ¬ Passes web c now urls s s' := by
  intro hpasses
  induction hpasses with
  | nil => simp at hmem
  | @cons place urls l' s s' s'' hlist _ hnot _ ih =>
    rcases List.mem_cons.mp hmem with rfl | hmem
    · obtain ⟨t, ht⟩ := h.exists_listOf hhour
      rw [hlist] at ht
      cases ht
      exact hnot hserial
    · exact ih (h.of_listOf hcurrent hlist) hmem

theorem run_checkLists {urls : List String} (hurls : c.revocationLists = .ok urls) (s : Session σ) :
    (checkLists web c now).run s = (searchLists web c now urls).run s :=
  Task.run_bind_ok (by rw [Task.run_ofDecoding, hurls]; rfl) _

/-- The search comes to a list that holds the certificate where every place in front of one gives a list in date. -/
theorem InUse.exists_listed {url : String} {l : RevocationList} {before : List String} {s : Session σ}
    (h : InUse web s now url l) (hcurrent : l.IsCurrent now) (hserial : c.serial ∈ l.serials)
    (hhour : now.add? Cache.defaultLife ≠ none)
    (hbefore : ∀ place ∈ before, ∃ l', InUse web s now place l' ∧ l'.IsCurrent now) (behind : List String) :
    ∃ passed place others s₁ s₂ l', before ++ url :: behind = passed ++ place :: others ∧
      Passes web c now passed s s₁ ∧ (listOf web place now).run s₁ = (.ok (.ok l'), s₂) ∧
      l'.IsCurrent now ∧ c.serial ∈ l'.serials := by
  induction before generalizing s with
  | nil =>
    obtain ⟨s', hlist⟩ := h.exists_listOf hhour
    exact ⟨[], url, behind, s, s', l, rfl, .nil, hlist, hcurrent, hserial⟩
  | cons first before ih =>
    obtain ⟨k, hfirst, hk⟩ := hbefore first List.mem_cons_self
    obtain ⟨s', hlist⟩ := hfirst.exists_listOf hhour
    by_cases hmem : c.serial ∈ k.serials
    · exact ⟨[], first, before ++ url :: behind, s, s', k, rfl, .nil, hlist, hk, hmem⟩
    · have hrest : ∀ place ∈ before, ∃ l', InUse web s' now place l' ∧ l'.IsCurrent now := by
        intro place hplace
        obtain ⟨l', huse, hl'⟩ := hbefore place (List.mem_cons_of_mem _ hplace)
        exact ⟨l', huse.of_listOf hl' hlist, hl'⟩
      obtain ⟨passed, place, others, s₁, s₂, l', hsplit, hpassed, hlisted⟩ := ih (h.of_listOf hcurrent hlist) hrest
      exact ⟨first :: passed, place, others, s₁, s₂, l', by simp [hsplit], .cons hlist hk hmem hpassed, hlisted⟩

/-- A certificate that some list in use holds is always reported on. It is reported as revoked exactly where the search
comes to a list that holds it, past places whose lists are in date and do not hold it; and so at least where every
place in front of that one gives a list in date. -/
theorem revoked_iff_passes (htransport : FailsInTransport web) (hhour : now.add? Cache.defaultLife ≠ none)
    {urls : List String} (hurls : c.revocationLists = .ok urls) {url : String} (hmem : url ∈ urls)
    {l : RevocationList} {s : Session σ} (huse : InUse web s now url l) (hcurrent : l.IsCurrent now)
    (hserial : c.serial ∈ l.serials) :
    ∃ v s', (checkLists web c now).run s = (.ok (some v), s') ∧
      (v.status = .revoked ↔ ∃ before place behind s₁ s₂ l', urls = before ++ place :: behind ∧
        Passes web c now before s s₁ ∧ (listOf web place now).run s₁ = (.ok (.ok l'), s₂) ∧
        l'.IsCurrent now ∧ c.serial ∈ l'.serials) ∧
      ∀ before behind, urls = before ++ url :: behind →
        (∀ place ∈ before, ∃ l', InUse web s now place l' ∧ l'.IsCurrent now) → v.status = .revoked := by
  rw [run_checkLists hurls]
  rcases searchLists_cases web c now urls s with ⟨s', hpasses, _⟩ | ⟨before, place, behind, s₁, hsplit, hbefore, hstop⟩
  · exact absurd hpasses (not_passes_of_inUse huse hcurrent hserial hhour hmem)
  rcases hstop with ⟨f, s', hlist, _⟩ | ⟨v, s', hreports, hrun⟩
  · exact absurd hlist (listOf_ne_error htransport hhour place s₁ s' f)
  have hiff : v.status = .revoked ↔ ∃ before place behind s₁ s₂ l', urls = before ++ place :: behind ∧
      Passes web c now before s s₁ ∧ (listOf web place now).run s₁ = (.ok (.ok l'), s₂) ∧
      l'.IsCurrent now ∧ c.serial ∈ l'.serials := by
    constructor
    · intro hrevoked
      cases hreports with
      | unreachable | stale => cases hrevoked
      | listed hlist hcurrent hserial =>
        exact ⟨before, place, behind, s₁, s', _, hsplit, hbefore, hlist, hcurrent, hserial⟩
    · rintro ⟨before, place, behind, s₁, s₂, l', rfl, hbefore, hlist, hcurrent, hserial⟩
      have hlisted := searchLists_of_reports (.listed hlist hcurrent hserial) behind
      rw [hbefore.searchLists_append, hlisted] at hrun
      cases hrun
      rfl
  refine ⟨v, s', hrun, hiff, ?_⟩
  rintro before behind rfl hall
  exact hiff.mpr (huse.exists_listed hcurrent hserial hhour hall behind)

def sampleLists : Web Unit := sampleWeb [("calm", sampleList []), ("listing", sampleList [1])]

theorem sampleLists_failsInTransport : FailsInTransport sampleLists := by
  intro url ρ f h
  simp only [sampleLists, sampleWeb, listRequest, List.lookup_cons, List.lookup_nil, sampleList] at h
  split at h
  · cases h
  · split at h <;> cases h
    rfl

theorem revoked_past_calm_place :
    FailsInTransport sampleLists ∧ Instant.add? (sampleTime 5) Cache.defaultLife ≠ none ∧
    (sampleRevocable [] ["calm", "listing", "down"]).revocationLists = .ok ["calm", "listing", "down"] ∧
    "listing" ∈ ["calm", "listing", "down"] ∧ InUse sampleLists (.start ()) (sampleTime 5) "listing" ⟨[1], none⟩ ∧
    RevocationList.IsCurrent ⟨[1], none⟩ (sampleTime 5) ∧
    (sampleRevocable [] ["calm", "listing", "down"]).serial ∈ [1] ∧
    ∃ v s', (checkLists sampleLists (sampleRevocable [] ["calm", "listing", "down"]) (sampleTime 5)).run (.start ()) =
      (.ok (some v), s') ∧ v.status = .revoked := by
  have hhour : Instant.add? (sampleTime 5) Cache.defaultLife ≠ none := by decide
  have hurls : (sampleRevocable [] ["calm", "listing", "down"]).revocationLists = .ok ["calm", "listing", "down"] := rfl
  have hmem : "listing" ∈ ["calm", "listing", "down"] := by decide
  have huse : InUse sampleLists (.start ()) (sampleTime 5) "listing" ⟨[1], none⟩ := .inr ⟨rfl, fun _ => by rfl⟩
  have hcalm : InUse sampleLists (.start ()) (sampleTime 5) "calm" ⟨[], none⟩ := .inr ⟨rfl, fun _ => by rfl⟩
  have hserial : (sampleRevocable [] ["calm", "listing", "down"]).serial ∈ [1] := List.mem_singleton_self _
  obtain ⟨v, s', hrun, _, hrevoked⟩ :=
    revoked_iff_passes sampleLists_failsInTransport hhour hurls hmem huse nofun hserial
  refine ⟨sampleLists_failsInTransport, hhour, hurls, hmem, huse, nofun, hserial, v, s', hrun, ?_⟩
  refine hrevoked ["calm"] ["down"] rfl fun place hplace => ?_
  obtain rfl := List.mem_singleton.mp hplace
  exact ⟨_, hcalm, nofun⟩

/-- Behind a place that cannot be reached a list that holds the certificate is not looked at. -/
theorem not_revoked_behind_unreachable :
    ¬ ∀ (web : Web Unit) (c : Certificate) (now : Instant) (urls : List String) (url : String) (l : RevocationList)
        (s : Session Unit), FailsInTransport web → now.add? Cache.defaultLife ≠ none → c.revocationLists = .ok urls →
      url ∈ urls → InUse web s now url l → l.IsCurrent now → c.serial ∈ l.serials →
      ∃ v s', (checkLists web c now).run s = (.ok (some v), s') ∧ v.status = .revoked := by
  intro h
  have hurls : (sampleRevocable [] ["down", "listing"]).revocationLists = .ok ["down", "listing"] := rfl
  obtain ⟨v, s', hrun, hrevoked⟩ := h sampleLists (sampleRevocable [] ["down", "listing"]) (sampleTime 5) _ "listing"
    ⟨[1], none⟩ (.start ()) sampleLists_failsInTransport (by decide) hurls (by decide) (.inr ⟨rfl, fun _ => by rfl⟩)
    nofun (List.mem_singleton_self _)
  have hdown : (listOf sampleLists "down" (sampleTime 5)).run (.start ()) =
      (.ok (.error (.outside (.saying .url "no route to host"))), .after sampleLists (listRequest "down") (.start ())) :=
    listOf_of_not_kept rfl
  rw [run_checkLists hurls, searchLists_of_reports (.unreachable hdown)] at hrun
  cases hrun
  cases hrevoked

end Revocation

end CertInventory

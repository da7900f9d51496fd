import CertInventory.Proofs.Revocation.Lists

/-!
Calls of the list check that share one cache, over their whole history. Each place that a call comes to is a look
(`looks`, `run_searchLists_eq`), and behind any looks the cache holds for each place the list of the latest fetch from
it (`Remembers`, kept by a look in `remembers_after` and by a run in `Follows.remembers`). So a place is asked exactly
where nothing was fetched from it yet or the latest list is over (`asks_iff_latest_over`). A list without a next update
that is fetched in the last hour of the calendar would last beyond it: no such list is kept, and the call breaks off.
-/

namespace CertInventory.Revocation

open Time

variable {σ : Type}

/-- A list that came from a place, and when. -/
structure Fetched where
  list : RevocationList
  time : Instant

/-- The last microsecond at which a list is used: its next update, or an hour behind its fetch. -/
def Fetched.lastMicros (f : Fetched) : Nat :=
  match f.list.nextUpdate with
  | some limit => limit.micros
  | none => f.time.micros + 3600000000

theorem expiry?_eq_ofMicros? (l : RevocationList) (now : Instant) :
    Cache.expiry? l now = Instant.ofMicros? (Fetched.mk l now).lastMicros := by
  cases hlimit : l.nextUpdate with
  | none =>
    have hlife : Cache.defaultLife.micros = 3600000000 := rfl
    have hsum : (now.micros : Int) + 3600000000 = ((now.micros + 3600000000 : Nat) : Int) := by omega
    simp only [Cache.expiry?, Fetched.lastMicros, hlimit, Instant.add?, hlife, hsum]
  | some limit =>
    have hin : (0 : Int) ≤ limit.micros ∧ (limit.micros : Int) < endOfCalendar := by
      have := limit.inCalendar
      omega
    simp [Cache.expiry?, Fetched.lastMicros, hlimit, Instant.ofMicros?, hin.2]

/-- A look at a place in the course of a call: the session before it, what it gave, and the session behind it. -/
structure Look (σ : Type) where
  certificate : Certificate
  time : Instant
  place : String
  before : Session σ
  given : Except Fault (Except Fault RevocationList)
  after : Session σ

namespace Look

def ofRun (web : Web σ) (c : Certificate) (now : Instant) (url : String) (s : Session σ) : Look σ :=
  ⟨c, now, url, s, ((listOf web url now).run s).1, ((listOf web url now).run s).2⟩

/-- What the call ends with if it ends with this look; it goes on where there is nothing to report. -/
def report (k : Look σ) : Except Fault (Option Result) :=
  match k.given with
  | .error f => .error f
  | .ok (.error f) => .ok (some ⟨.unreachable, "CRL fetch from " ++ k.place ++ ": " ++ f.text⟩)
  | .ok (.ok l) => .ok (listVerdict k.place l k.certificate k.time)

/-- The look sent a request to its place. -/
def Asks (k : Look σ) : Prop := k.after.requests = k.before.requests ++ [listRequest k.place]

instance (k : Look σ) : Decidable k.Asks := inferInstanceAs (Decidable (_ = _))

/-- The list that the server of a place answers with, if it answers and the answer can be read as a list. -/
def answered? (web : Web σ) (k : Look σ) : Option RevocationList :=
  match (web.answer (listRequest k.place) k.before.remote).1 with
  | .ok body => body.revocationList?
  | .error _ => none

/-- The list that a look fetched; there is none where it asked nobody, or the fetch failed. -/
def fetched? (web : Web σ) (k : Look σ) : Option Fetched :=
  if k.Asks then (k.answered? web).map (⟨·, k.time⟩) else none

end Look

/-- The looks of a search: place after place, up to the first that ends it. -/
def looks (web : Web σ) (c : Certificate) (now : Instant) : List String → Session σ → List (Look σ)
  | [], _ => []
  | url :: urls, s =>
    let k := Look.ofRun web c now url s
    match k.report with
    | .ok none => k :: looks web c now urls k.after
    | _ => [k]

/-- A call: the certificate that is looked up, and when. -/
structure Call where
  certificate : Certificate
  time : Instant

/-- The looks of a call; a certificate that does not name its lists readably leads to none. -/
def Call.looks (web : Web σ) (call : Call) (s : Session σ) : List (Look σ) :=
  match call.certificate.revocationLists with
  | .ok urls => Revocation.looks web call.certificate call.time urls s
  | .error _ => []

def Call.after (web : Web σ) (call : Call) (s : Session σ) : Session σ :=
  ((checkLists web call.certificate call.time).run s).2

/-- The looks of calls that are made one after the other, each in the session that the last one left. -/
def history (web : Web σ) : List Call → Session σ → List (Look σ)
  | [], _ => []
  | call :: calls, s => call.looks web s ++ history web calls (call.after web s)

def sessionAfter (web : Web σ) (calls : List Call) (s : Session σ) : Session σ :=
  calls.foldl (fun s call => call.after web s) s

def fetchedFrom (web : Web σ) (url : String) (ks : List (Look σ)) : List Fetched :=
  ks.filterMap fun k => if k.place = url then k.fetched? web else none

def latest? (web : Web σ) (url : String) (ks : List (Look σ)) : Option Fetched :=
  ((fetchedFrom web url ks).filter fun f => f.lastMicros < endOfCalendar).getLast?

theorem latest?_append (web : Web σ) (url : String) (ks ks' : List (Look σ)) :
    latest? web url (ks ++ ks') = (latest? web url ks').or (latest? web url ks) := by
  simp only [latest?, fetchedFrom, List.filterMap_append, List.filter_append, List.getLast?_append]

theorem searchLists_cons_eq (web : Web σ) (c : Certificate) (now : Instant) (url : String) (urls : List String)
    (s : Session σ) :
    (searchLists web c now (url :: urls)).run s =
      match (Look.ofRun web c now url s).report with
      | .ok none => (searchLists web c now urls).run (Look.ofRun web c now url s).after
      | r => (r, (Look.ofRun web c now url s).after) := by
  rw [searchLists_cons]
  simp only [Look.ofRun, Look.report]
  rcases (listOf web url now).run s with ⟨f | f | l, s'⟩
  · rfl
  · rfl
  · cases hverdict : listVerdict url l c now <;> simp [hverdict]

/-- A look with nothing to report leaves the search to the places behind it. -/
theorem looks_of_report_eq {c : Certificate} {now : Instant} {url : String} {s : Session σ} {web : Web σ}
    (h : (Look.ofRun web c now url s).report = .ok none) (urls : List String) :
    looks web c now (url :: urls) s =
        Look.ofRun web c now url s :: looks web c now urls (Look.ofRun web c now url s).after ∧
    (searchLists web c now (url :: urls)).run s =
        (searchLists web c now urls).run (Look.ofRun web c now url s).after := by
  rw [searchLists_cons_eq, looks]
  simp only [h, and_self]

/-- Any other look ends the search with its report. -/
theorem looks_of_report_ne {c : Certificate} {now : Instant} {url : String} {s : Session σ} {web : Web σ}
    (h : (Look.ofRun web c now url s).report ≠ .ok none) (urls : List String) :
    looks web c now (url :: urls) s = [Look.ofRun web c now url s] ∧
    (searchLists web c now (url :: urls)).run s =
        ((Look.ofRun web c now url s).report, (Look.ofRun web c now url s).after) := by
  rw [searchLists_cons_eq, looks]
  rcases hreport : (Look.ofRun web c now url s).report with f | v | v
  · exact ⟨rfl, rfl⟩
  · exact absurd hreport h
  · exact ⟨rfl, rfl⟩

/-- The session that a search leaves and what it ends with are those of its last look. -/
theorem run_searchLists_eq (web : Web σ) (c : Certificate) (now : Instant) (urls : List String) (s : Session σ) :
    (searchLists web c now urls).run s =
      match (looks web c now urls s).getLast? with
      | none => (.ok none, s)
      | some k => (k.report, k.after) := by
  induction urls generalizing s with
  | nil => rfl
  | cons url urls ih =>
    by_cases hreport : (Look.ofRun web c now url s).report = .ok none
    · obtain ⟨hlooks, hrun⟩ := looks_of_report_eq hreport urls
      rw [hlooks, hrun, ih, List.getLast?_cons]
      cases (looks web c now urls (Look.ofRun web c now url s).after).getLast? with
      | none => simp only [Option.getD_none, hreport]
      | some k => rfl
    · obtain ⟨hlooks, hrun⟩ := looks_of_report_ne hreport urls
      rw [hlooks, hrun]
      rfl

/-- Looks that lead from one session to another, each from where the last one ended. -/
inductive Follows (web : Web σ) : Session σ → List (Look σ) → Session σ → Prop where
  | nil {s : Session σ} : Follows web s [] s
  | cons {c : Certificate} {now : Instant} {url : String} {s s' : Session σ} {ks : List (Look σ)} :
      Follows web (Look.ofRun web c now url s).after ks s' → Follows web s (Look.ofRun web c now url s :: ks) s'

variable {web : Web σ}

theorem Follows.append {s s' s'' : Session σ} {ks ks' : List (Look σ)} (h : Follows web s ks s')
    (h' : Follows web s' ks' s'') : Follows web s (ks ++ ks') s'' := by
  induction h with
  | nil => exact h'
  | cons _ ih => exact .cons (ih h')

/-- Each look of a run is the look at its place from the session that those in front of it lead to. -/
theorem Follows.split {s s' : Session σ} {earlier later : List (Look σ)} {k : Look σ}
    (h : Follows web s (earlier ++ k :: later) s') :
    Follows web s earlier k.before ∧ k = Look.ofRun web k.certificate k.time k.place k.before := by
  induction earlier generalizing s with
  | nil =>
    cases h
    exact ⟨.nil, rfl⟩
  | cons first earlier ih =>
    cases h with
    | cons h =>
      obtain ⟨hearlier, hk⟩ := ih h
      exact ⟨.cons hearlier, hk⟩

theorem follows_looks (web : Web σ) (c : Certificate) (now : Instant) (urls : List String) (s : Session σ) :
    Follows web s (looks web c now urls s) ((searchLists web c now urls).run s).2 := by
  induction urls generalizing s with
  | nil => exact .nil
  | cons url urls ih =>
    by_cases hreport : (Look.ofRun web c now url s).report = .ok none
    · obtain ⟨hlooks, hrun⟩ := looks_of_report_eq hreport urls
      rw [hlooks, hrun]
      exact .cons (ih _)
    · obtain ⟨hlooks, hrun⟩ := looks_of_report_ne hreport urls
      rw [hlooks, hrun]
      exact .cons .nil

theorem follows_call (web : Web σ) (call : Call) (s : Session σ) :
    Follows web s (call.looks web s) (call.after web s) := by
  cases hurls : call.certificate.revocationLists with
  | ok urls =>
    simp only [Call.looks, Call.after, hurls, run_checkLists hurls]
    exact follows_looks web _ _ urls s
  | error f =>
    have hrun : (checkLists web call.certificate call.time).run s = (.error (.decode f), s) :=
      Task.run_bind_error (by rw [Task.run_ofDecoding, hurls]; rfl) _
    simp only [Call.looks, Call.after, hurls, hrun]
    exact .nil

theorem follows_history (web : Web σ) (calls : List Call) (s : Session σ) :
    Follows web s (history web calls s) (sessionAfter web calls s) := by
  induction calls generalizing s with
  | nil => exact .nil
  | cons call calls ih => exact (follows_call web call s).append (ih (call.after web s))

/-- What a look does: it uses the list that is kept and leaves the session alone, or it asks the server, and then it
keeps what it fetched if that does not last beyond the calendar, and nothing else. -/
theorem look_cases (web : Web σ) (c : Certificate) (now : Instant) (url : String) (s : Session σ) {k : Look σ}
    (hk : k = Look.ofRun web c now url s) :
    (∃ l, s.cache.get? url now = some l ∧ ¬ k.Asks ∧ k.given = .ok (.ok l) ∧ k.after = s) ∨
    (s.cache.get? url now = none ∧ k.Asks ∧
      ((k.fetched? web = none ∧ k.after.cache = s.cache) ∨
        ∃ f, k.fetched? web = some f ∧
          ((endOfCalendar ≤ f.lastMicros ∧ k.given = .error .outOfRange ∧ k.after.cache = s.cache) ∨
            ∃ limit : Instant, limit.micros = f.lastMicros ∧ k.given = .ok (.ok f.list) ∧
              k.after.cache = s.cache.keep url ⟨f.list, limit⟩))) := by
  subst hk
  cases hkept : s.cache.get? url now with
  | some l =>
    have hrun : (listOf web url now).run s = _ := listOf_of_kept hkept
    refine .inl ⟨l, rfl, ?_, by simp [Look.ofRun, hrun], by simp [Look.ofRun, hrun]⟩
    simp [Look.Asks, Look.ofRun, hrun]
  | none =>
    have hrun : (listOf web url now).run s = _ := listOf_of_not_kept hkept
    right
    refine ⟨rfl, ?_⟩
    -- The four ways in which the server can answer, the last two by what the fetched list's expiry is.
    cases hanswer : (web.answer (listRequest url) s.remote).1 with
    | error f =>
      simp only [hanswer] at hrun
      have hasks : (Look.ofRun web c now url s).Asks := by simp [Look.Asks, Look.ofRun, hrun, Session.after]
      refine ⟨hasks, .inl ⟨?_, by simp [Look.ofRun, hrun, Session.after]⟩⟩
      rw [Look.fetched?, if_pos hasks]
      simp [Look.answered?, Look.ofRun, hanswer]
    | ok body =>
      simp only [hanswer] at hrun
      cases hbody : body.revocationList? with
      | none =>
        simp only [hbody] at hrun
        have hasks : (Look.ofRun web c now url s).Asks := by simp [Look.Asks, Look.ofRun, hrun, Session.after]
        refine ⟨hasks, .inl ⟨?_, by simp [Look.ofRun, hrun, Session.after]⟩⟩
        rw [Look.fetched?, if_pos hasks]
        simp [Look.answered?, Look.ofRun, hanswer, hbody]
      | some l =>
        simp only [hbody, expiry?_eq_ofMicros?] at hrun
        have hfetched (hasks : (Look.ofRun web c now url s).Asks) :
            (Look.ofRun web c now url s).fetched? web = some ⟨l, now⟩ := by
          rw [Look.fetched?, if_pos hasks]
          simp [Look.answered?, Look.ofRun, hanswer, hbody]
        by_cases hlasts : (Fetched.mk l now).lastMicros < endOfCalendar
        · have hlimit : Instant.ofMicros? (Fetched.mk l now).lastMicros =
              some ⟨(Fetched.mk l now).lastMicros, hlasts⟩ := by
            simp [Instant.ofMicros?, hlasts]
          simp only [hlimit] at hrun
          have hasks : (Look.ofRun web c now url s).Asks := by simp [Look.Asks, Look.ofRun, hrun, Session.after]
          exact ⟨hasks, .inr ⟨_, hfetched hasks,
            .inr ⟨⟨_, hlasts⟩, rfl, by simp [Look.ofRun, hrun], by simp [Look.ofRun, hrun]⟩⟩⟩
        · have hlimit : Instant.ofMicros? (Fetched.mk l now).lastMicros = none := by
            simp [Instant.ofMicros?, Nat.not_lt.mp hlasts]
          simp only [hlimit] at hrun
          have hasks : (Look.ofRun web c now url s).Asks := by simp [Look.Asks, Look.ofRun, hrun, Session.after]
          exact ⟨hasks, .inr ⟨_, hfetched hasks,
            .inl ⟨Nat.not_lt.mp hlasts, by simp [Look.ofRun, hrun], by simp [Look.ofRun, hrun, Session.after]⟩⟩⟩

/-- The cache holds for each place the latest list that was fetched from it, up to its last microsecond. -/
def Remembers (web : Web σ) (ks : List (Look σ)) (s : Session σ) : Prop :=
  ∀ url, (s.cache.lookup url).map (fun kept => (kept.list, kept.expires.micros)) =
    (latest? web url ks).map fun f => (f.list, f.lastMicros)

theorem latest?_singleton_of_ne {url : String} {k : Look σ} (h : k.place ≠ url) : latest? web url [k] = none := by
  simp [latest?, fetchedFrom, h]

theorem latest?_singleton_self (web : Web σ) (k : Look σ) :
    latest? web k.place [k] = (k.fetched? web).filter fun f => f.lastMicros < endOfCalendar := by
  cases h : k.fetched? web with
  | none => simp [latest?, fetchedFrom, h]
  | some f => by_cases hlasts : f.lastMicros < endOfCalendar <;> simp [latest?, fetchedFrom, h, hlasts, Option.filter]

theorem remembers_after {ks : List (Look σ)} {c : Certificate} {now : Instant} {url : String} {s : Session σ}
    (h : Remembers web ks s) :
    Remembers web (ks ++ [Look.ofRun web c now url s]) (Look.ofRun web c now url s).after := by
  intro place
  obtain ⟨k, hk⟩ : ∃ k, k = Look.ofRun web c now url s := ⟨_, rfl⟩
  have hplace : k.place = url := by rw [hk]; rfl
  rw [← hk, latest?_append]
  -- A look that keeps nothing fetched nothing that could be remembered.
  have hsame (hcache : k.after.cache = s.cache) (hnone : latest? web url [k] = none) :
      (k.after.cache.lookup place).map (fun kept => (kept.list, kept.expires.micros)) =
        ((latest? web place [k]).or (latest? web place ks)).map fun f => (f.list, f.lastMicros) := by
    have hnone' : latest? web place [k] = none := by
      by_cases hp : k.place = place
      · rw [← hp, hplace, hnone]
      · exact latest?_singleton_of_ne hp
    rw [hcache, hnone', Option.none_or, h place]
  rcases look_cases web c now url s hk with ⟨l, _, hasks, _, hafter⟩ | ⟨_, _, hfetch⟩
  · refine hsame (by rw [hafter]) ?_
    rw [← hplace, latest?_singleton_self, Look.fetched?, if_neg hasks]
    rfl
  · rcases hfetch with ⟨hnone, hcache⟩ | ⟨f, hf, ⟨hover, _, hcache⟩ | ⟨limit, hlimit, _, hcache⟩⟩
    · refine hsame hcache ?_
      rw [← hplace, latest?_singleton_self, hnone]
      rfl
    · refine hsame hcache ?_
      rw [← hplace, latest?_singleton_self, hf]
      simp [Option.filter, hover]
    · have hlasts : f.lastMicros < endOfCalendar := hlimit ▸ limit.inCalendar
      by_cases hp : place = url
      · have hlatest : latest? web place [k] = some f := by
          rw [hp, ← hplace, latest?_singleton_self, hf]
          simp [Option.filter, hlasts]
        rw [hcache, hlatest, hp, Cache.lookup_keep_self]
        simp [hlimit]
      · rw [hcache, Cache.lookup_keep_of_ne _ hp, latest?_singleton_of_ne (fun h => hp (h.symm.trans hplace)),
          Option.none_or, h place]

theorem Follows.remembers {s s' : Session σ} {ks : List (Look σ)} (h : Follows web s ks s') :
    ∀ {ks₀ : List (Look σ)}, Remembers web ks₀ s → Remembers web (ks₀ ++ ks) s' := by
  induction h with
  | nil =>
    intro ks₀ h₀
    rwa [List.append_nil]
  | @cons c now url s s' ks _ ih =>
    intro ks₀ h₀
    rw [List.append_cons]
    exact ih (remembers_after h₀)

theorem remembers_start (web : Web σ) (remote : σ) : Remembers web [] (.start remote) := fun _ => rfl

theorem run_checkLists_of_looks {call : Call} {s : Session σ} {earlier later : List (Look σ)} {k : Look σ}
    (h : call.looks web s = earlier ++ k :: later) :
    (checkLists web call.certificate call.time).run s =
      (((k :: later).getLast (List.cons_ne_nil k later)).report,
        ((k :: later).getLast (List.cons_ne_nil k later)).after) := by
  cases hurls : call.certificate.revocationLists with
  | error f => simp [Call.looks, hurls] at h
  | ok urls =>
    simp only [Call.looks, hurls] at h
    rw [run_checkLists hurls, run_searchLists_eq, h, List.getLast?_append, List.getLast?_eq_some_getLast]
    rfl

/-- A list that a cache holds up to its last microsecond is in date as long as it is used. -/
theorem isCurrent_of_le_lastMicros {f : Fetched} {now : Instant} (h : now.micros ≤ f.lastMicros) :
    f.list.IsCurrent now := by
  intro limit hlimit
  rw [Fetched.lastMicros, hlimit] at h
  exact h

theorem status_ne_listStale_of_isCurrent {url : String} {l : RevocationList} {c : Certificate} {now : Instant}
    {v : Result} (hcurrent : l.IsCurrent now) (h : listVerdict url l c now = some v) : v.status ≠ .listStale := by
  rcases listVerdict_cases url l c now with ⟨limit, hlimit, hpast, _⟩ | ⟨_, _, hv⟩ | ⟨_, _, hv⟩
  · exact absurd hpast (isCurrent_iff.mp hcurrent limit hlimit)
  · rw [hv] at h
    cases h
    nofun
  · rw [hv] at h
    cases h

/-- A list that is kept is the latest one, which is not over. -/
theorem Remembers.used {ks : List (Look σ)} {s : Session σ} (h : Remembers web ks s) {url : String} {now : Instant}
    {l : RevocationList} (hkept : s.cache.get? url now = some l) :
    ∃ f, latest? web url ks = some f ∧ f.list = l ∧ now.micros ≤ f.lastMicros := by
  obtain ⟨kept, hlookup, hlasts, hlist⟩ := Cache.get?_eq_some_iff.mp hkept
  have hview := h url
  rw [hlookup] at hview
  obtain ⟨f, hf, hfkept⟩ := Option.map_eq_some_iff.mp hview.symm
  obtain ⟨hflist, hfmicros⟩ := Prod.mk.inj hfkept
  exact ⟨f, hf, hflist.trans hlist, hfmicros ▸ Nat.not_lt.mp hlasts⟩

theorem Remembers.over {ks : List (Look σ)} {s : Session σ} (h : Remembers web ks s) {url : String} {now : Instant}
    (hkept : s.cache.get? url now = none) {f : Fetched} (hf : latest? web url ks = some f) :
    f.lastMicros < now.micros := by
  have hview := h url
  rw [hf] at hview
  obtain ⟨kept, hlookup, hfkept⟩ := Option.map_eq_some_iff.mp hview
  obtain ⟨_, hfmicros⟩ := Prod.mk.inj hfkept
  exact hfmicros ▸ Cache.get?_eq_none_iff.mp hkept kept hlookup

/-- What one look does from a session that remembers the looks before it. -/
theorem look_of_remembers {ks : List (Look σ)} {k : Look σ} (h : Remembers web ks k.before)
    (hk : k = Look.ofRun web k.certificate k.time k.place k.before) :
    (k.Asks ↔ ∀ f, latest? web k.place ks = some f → f.lastMicros < k.time.micros) ∧
    (¬ k.Asks → ∃ f, latest? web k.place ks = some f ∧ k.given = .ok (.ok f.list) ∧ k.after = k.before ∧
      ∀ v, k.report = .ok (some v) → v.status ≠ .listStale) ∧
    (k.fetched? web = none → k.after.cache = k.before.cache) ∧
    ∀ f, k.fetched? web = some f →
      (f.lastMicros < endOfCalendar → k.given = .ok (.ok f.list)) ∧
      (endOfCalendar ≤ f.lastMicros → k.given = .error .outOfRange ∧ k.after.cache = k.before.cache) := by
  rcases look_cases web _ _ _ _ hk with ⟨l, hkept, hasks, hgiven, hafter⟩ | ⟨hkept, hasks, hfetch⟩
  · obtain ⟨f, hf, rfl, hlasts⟩ := h.used hkept
    have hnone : k.fetched? web = none := by rw [Look.fetched?, if_neg hasks]
    have hfresh : ∀ v, k.report = .ok (some v) → v.status ≠ .listStale := by
      intro v hv
      simp only [Look.report, hgiven] at hv
      exact status_ne_listStale_of_isCurrent (isCurrent_of_le_lastMicros hlasts) (Except.ok.inj hv)
    refine ⟨iff_of_false hasks fun hover => absurd (hover f hf) (Nat.not_lt.mpr hlasts),
      fun _ => ⟨f, hf, hgiven, hafter, hfresh⟩, fun _ => by rw [hafter], ?_⟩
    rw [hnone]
    nofun
  · refine ⟨iff_of_true hasks fun f hf => h.over hkept hf, fun hnot => absurd hasks hnot, ?_⟩
    rcases hfetch with ⟨hnone, hcache⟩ | ⟨f, hf, ⟨hend, hgiven, hcache⟩ | ⟨limit, hlimit, hgiven, _⟩⟩
    · rw [hnone]
      exact ⟨fun _ => hcache, nofun⟩
    · rw [hf]
      refine ⟨nofun, ?_⟩
      rintro _ ⟨⟩
      exact ⟨fun hlasts => absurd hlasts (Nat.not_lt.mpr hend), fun _ => ⟨hgiven, hcache⟩⟩
    · rw [hf]
      refine ⟨nofun, ?_⟩
      rintro _ ⟨⟩
      have hlasts : f.lastMicros < endOfCalendar := hlimit ▸ limit.inCalendar
      exact ⟨fun _ => hgiven, fun hend => absurd hlasts (Nat.not_lt.mpr hend)⟩

/-- In any sequence of calls from an empty cache, a call ends with what its last look reports, and each look asks its
server exactly where no list was fetched from the place before, or the latest one is over. A look that does not ask
uses that latest list, which is then in date, and changes nothing. A look that asks and fetches nothing leaves the
cache as it was; so does one whose list would last beyond the calendar, which breaks the call off and does not count
as fetched; any other list is used as it came. -/
theorem asks_iff_latest_over (web : Web σ) (made : List Call) (remote : σ) (call : Call)
    {earlier later : List (Look σ)} {k : Look σ}
    (h : call.looks web (sessionAfter web made (.start remote)) = earlier ++ k :: later) :
    (checkLists web call.certificate call.time).run (sessionAfter web made (.start remote)) =
      (((k :: later).getLast (List.cons_ne_nil k later)).report,
        ((k :: later).getLast (List.cons_ne_nil k later)).after) ∧
    (k.Asks ↔ ∀ f, latest? web k.place (history web made (.start remote) ++ earlier) = some f →
      f.lastMicros < k.time.micros) ∧
    (¬ k.Asks → ∃ f, latest? web k.place (history web made (.start remote) ++ earlier) = some f ∧
      k.given = .ok (.ok f.list) ∧ k.after = k.before ∧ ∀ v, k.report = .ok (some v) → v.status ≠ .listStale) ∧
    (k.fetched? web = none → k.after.cache = k.before.cache) ∧
    ∀ f, k.fetched? web = some f →
      (f.lastMicros < endOfCalendar → k.given = .ok (.ok f.list)) ∧
      (endOfCalendar ≤ f.lastMicros → k.given = .error .outOfRange ∧ k.after.cache = k.before.cache) := by
  have hfollows := follows_call web call (sessionAfter web made (.start remote))
  rw [h] at hfollows
  obtain ⟨hearlier, hk⟩ := hfollows.split
  have hmade : Remembers web (history web made (.start remote)) (sessionAfter web made (.start remote)) := by
    simpa using (follows_history web made (.start remote)).remembers (remembers_start web remote)
  exact ⟨run_checkLists_of_looks h, look_of_remembers (hearlier.remembers hmade) hk⟩

def sampleEnd : Instant := ⟨endOfCalendar - 1, by decide⟩

def sampleCall (places : List String) (time : Instant) : Call := ⟨sampleRevocable [] places, time⟩

/-- Behind a first call a second one finds the list of its place kept, and the place that cannot be reached asked. -/
theorem asks_iff_latest_over_sample :
    (sampleCall ["calm", "down"] (sampleTime 6)).looks sampleLists
        (sessionAfter sampleLists [sampleCall ["calm"] (sampleTime 5)] (.start ())) =
      [] ++ Look.ofRun sampleLists (sampleRevocable [] ["calm", "down"]) (sampleTime 6) "calm"
          (sessionAfter sampleLists [sampleCall ["calm"] (sampleTime 5)] (.start ())) ::
        [Look.ofRun sampleLists (sampleRevocable [] ["calm", "down"]) (sampleTime 6) "down"
          (sessionAfter sampleLists [sampleCall ["calm"] (sampleTime 5)] (.start ()))] ∧
    ¬ (Look.ofRun sampleLists (sampleRevocable [] ["calm", "down"]) (sampleTime 6) "calm"
        (sessionAfter sampleLists [sampleCall ["calm"] (sampleTime 5)] (.start ()))).Asks := by
  have hlooks : (sampleCall ["calm", "down"] (sampleTime 6)).looks sampleLists
      (sessionAfter sampleLists [sampleCall ["calm"] (sampleTime 5)] (.start ())) =
      [] ++ Look.ofRun sampleLists (sampleRevocable [] ["calm", "down"]) (sampleTime 6) "calm"
          (sessionAfter sampleLists [sampleCall ["calm"] (sampleTime 5)] (.start ())) ::
        [Look.ofRun sampleLists (sampleRevocable [] ["calm", "down"]) (sampleTime 6) "down"
          (sessionAfter sampleLists [sampleCall ["calm"] (sampleTime 5)] (.start ()))] := rfl
  obtain ⟨_, hasks, _⟩ := asks_iff_latest_over sampleLists [sampleCall ["calm"] (sampleTime 5)] () _ hlooks
  refine ⟨hlooks, fun h => ?_⟩
  have hover := hasks.mp h ⟨⟨[], none⟩, sampleTime 5⟩ (by rfl)
  exact absurd hover (by decide)

/-- A list that was fetched, and is not over, is asked for again where its last microsecond is beyond the calendar. -/
theorem exists_asks_fetched_not_over :
    ¬ ∀ (web : Web Unit) (made : List Call) (remote : Unit) (call : Call) (earlier later : List (Look Unit))
        (k : Look Unit), (made ++ [call]).Pairwise (fun a b => a.time ≤ b.time) →
      call.looks web (sessionAfter web made (.start remote)) = earlier ++ k :: later →
      (k.Asks ↔ ∀ f, (fetchedFrom web k.place (history web made (.start remote) ++ earlier)).getLast? = some f →
        f.lastMicros < k.time.micros) := by
  intro h
  have hclock : ([sampleCall ["calm"] sampleEnd] ++ [sampleCall ["calm"] sampleEnd]).Pairwise
      (fun a b => a.time ≤ b.time) := by decide
  have hasks := h sampleLists [sampleCall ["calm"] sampleEnd] () (sampleCall ["calm"] sampleEnd) [] [] _ hclock rfl
  have hover := hasks.mp (by decide +kernel) ⟨⟨[], none⟩, sampleEnd⟩ (by rfl)
  exact absurd hover (by decide)

end CertInventory.Revocation

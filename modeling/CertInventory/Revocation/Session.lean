import CertInventory.Outside.Web

/-!
The state of revocation checks: the web, the requests made so far, and the revocation lists kept from earlier ones.
A list is kept until its next update, or for an hour where it names none.
-/

namespace CertInventory.Revocation

open Time

structure Kept where
  list : RevocationList
  expires : Instant
  deriving DecidableEq

abbrev Cache := List (String × Kept)

namespace Cache

def get? (cache : Cache) (url : String) (now : Instant) : Option RevocationList :=
  match cache.lookup url with
  | some kept => if kept.expires < now then none else some kept.list
  | none => none

def keep (cache : Cache) (url : String) (kept : Kept) : Cache :=
  (url, kept) :: cache.filter fun (u, _) => u != url

theorem lookup_keep_self (cache : Cache) (url : String) (kept : Kept) :
    (cache.keep url kept).lookup url = some kept := List.lookup_cons_self

/-- Keeping a list from one place leaves those from all others. -/
theorem lookup_keep_of_ne (cache : Cache) {url place : String} (h : place ≠ url) (kept : Kept) :
    (cache.keep url kept).lookup place = cache.lookup place := by
  have hne : (place == url) = false := beq_eq_false_iff_ne.mpr h
  rw [keep, List.lookup_cons, hne]
  induction cache with
  | nil => rfl
  | cons entry cache ih =>
    obtain ⟨u, k⟩ := entry
    by_cases hu : u = url
    · simp [hu, List.lookup_cons, hne, ← ih]
    · simp [hu, List.lookup_cons, ← ih]

theorem get?_eq_some_iff {cache : Cache} {url : String} {now : Instant} {l : RevocationList} :
    cache.get? url now = some l ↔ ∃ kept, cache.lookup url = some kept ∧ ¬ kept.expires < now ∧ kept.list = l := by
  unfold get?
  cases cache.lookup url with
  | none => simp
  | some kept => by_cases h : kept.expires < now <;> simp [h]

theorem get?_eq_none_iff {cache : Cache} {url : String} {now : Instant} :
    cache.get? url now = none ↔ ∀ kept, cache.lookup url = some kept → kept.expires < now := by
  unfold get?
  cases cache.lookup url with
  | none => simp
  | some kept => by_cases h : kept.expires < now <;> simp [h]

theorem get?_keep_self (cache : Cache) (url : String) {kept : Kept} {now : Instant} (h : ¬ kept.expires < now) :
    (cache.keep url kept).get? url now = some kept.list := by
  simp only [get?, lookup_keep_self, if_neg h]

theorem get?_keep_of_ne (cache : Cache) {url place : String} (h : place ≠ url) (kept : Kept) (now : Instant) :
    (cache.keep url kept).get? place now = cache.get? place now := by
  simp only [get?, lookup_keep_of_ne cache h]

def defaultLife : Duration := .ofSeconds 3600

/-- The last instant at which a list fetched now is still used; it may lie beyond the calendar. -/
def expiry? (l : RevocationList) (now : Instant) : Option Instant :=
  match l.nextUpdate with
  | some limit => some limit
  | none => now.add? defaultLife

end Cache

/-- The web, the requests made to it, and the lists kept. -/
structure Session (σ : Type) where
  remote : σ
  requests : List HttpRequest
  cache : Cache

namespace Session

variable {σ : Type}

def start (remote : σ) : Session σ := ⟨remote, [], []⟩

def send (web : Web σ) (r : HttpRequest) : Task (Session σ) HttpBody := fun s =>
  let (answer, remote) := web.answer r s.remote
  (answer.mapError Fault.outside, { s with remote := remote, requests := s.requests ++ [r] })

def kept? (url : String) (now : Instant) : Task (Session σ) (Option RevocationList) := fun s =>
  (.ok (s.cache.get? url now), s)

def after (web : Web σ) (r : HttpRequest) (s : Session σ) : Session σ :=
  { s with remote := (web.answer r s.remote).2, requests := s.requests ++ [r] }

theorem run_send (web : Web σ) (r : HttpRequest) (s : Session σ) :
    (send web r).run s = ((web.answer r s.remote).1.mapError Fault.outside, s.after web r) := rfl

def keep (url : String) (l : RevocationList) (now : Instant) : Task (Session σ) Unit := fun s =>
  match Cache.expiry? l now with
  | none => (.error .outOfRange, s)
  | some limit => (.ok (), { s with cache := s.cache.keep url ⟨l, limit⟩ })

theorem run_keep_none {l : RevocationList} {now : Instant} (h : Cache.expiry? l now = none) (url : String)
    (s : Session σ) : (keep url l now).run s = (.error .outOfRange, s) := by
  simp only [keep, ExceptT.run, h]

theorem run_keep_some {l : RevocationList} {now limit : Instant} (h : Cache.expiry? l now = some limit)
    (url : String) (s : Session σ) :
    (keep url l now).run s = (.ok (), { s with cache := s.cache.keep url ⟨l, limit⟩ }) := by
  simp only [keep, ExceptT.run, h]

end Session

end CertInventory.Revocation

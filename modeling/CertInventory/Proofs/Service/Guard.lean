import CertInventory.Proofs.Service.Refresh

/-!
What requests without the key learn and change. Whether the guard stops a request does not depend on the history and
the lock, and every route whose answer does lies under `/api/` (`Route.isOpen_or_isProtected`). How the guard is shown a
path is left open: what is asked of it is that the shown path starts as the path itself does (`ShowsPaths`).
-/

namespace CertInventory.Service

def isPlainInAddress (c : Char) : Bool := 0x20 < c.toNat && c != '?' && c != '#'

/-- A guard that is shown a path sees it start as it does, up to a character that an address ends at or drops. -/
def ShowsPaths (view : PathView) : Prop :=
  ∀ r path, view r = some path → r.path.takeWhile isPlainInAddress <+: path

theorem showsPaths_plainView : ShowsPaths plainView := by
  intro r path hshown
  obtain rfl : r.path = path := Option.some.inj hshown
  exact List.takeWhile_prefix isPlainInAddress

/-- A route whose answers depend on neither history nor lock. -/
def Route.IsOpen (route : Route) : Prop := route = .page ∨ route = .health

theorem Route.isOpen_or_isProtected {path : List Char} {route : Route} (h : Route.ofPath? path = some route) :
    route.IsOpen ∨ Server.isProtected path = true := by
  have hline : Route.withoutLineEnd path <+: path := by
    unfold Route.withoutLineEnd
    split
    · exact List.dropLast_prefix path
    · exact List.prefix_refl path
  have hfixed : ∀ entry ∈ Route.fixed,
      entry.2 = .page ∨ entry.2 = .health ∨ Server.isProtected entry.1.toList = true := by
    decide
  unfold Route.ofPath? at h
  split at h
  · rename_i found hfound
    obtain rfl := Option.some.inj h
    obtain ⟨before, behind, hsplit, _⟩ := List.lookup_eq_some_iff.mp hfound
    have hmem : (String.ofList (Route.withoutLineEnd path), found) ∈ Route.fixed := by
      rw [hsplit]
      exact List.mem_append_right before List.mem_cons_self
    obtain hpage | hhealth | hprotected := hfixed _ hmem
    · exact .inl (.inl hpage)
    · exact .inl (.inr hhealth)
    · rw [String.toList_ofList, Server.isProtected, List.isPrefixOf_iff_prefix] at hprotected
      exact .inr (List.isPrefixOf_iff_prefix.mpr (hprotected.trans hline))
  · split at h
    · rename_i c id hid
      rw [Server.isProtected, List.isPrefixOf_iff_prefix, Text.eq_append_of_dropHead? hid]
      exact .inr ((show "/api/".toList <+: Route.byIdHead by decide).trans (List.prefix_append _ _))
    · cases h

namespace Server

def answers (view : PathView) (s : Server) : List Request → List Response
  | [] => []
  | r :: rs => (s.respond view r).1 :: (s.after view (.request r)).answers view rs

section Requests

variable {view : PathView} {s t : Server} {r : Request} {route : Route} {redirections : Nat}

/-- The history and the lock play no part in what the guard stops. -/
theorem stop?_congr (view : PathView) (hkey : t.key = s.key) (r : Request) : t.stop? view r = s.stop? view r := by
  rw [stop?, stop?, hkey]

/-- The guard sees that a protected path is one. -/
theorem isProtected_of_shown (hview : ShowsPaths view) {path : List Char} (hshown : view r = some path)
    (h : isProtected r.path = true) : isProtected path = true := by
  rw [isProtected, List.isPrefixOf_iff_prefix] at h ⊢
  obtain ⟨rest, hpath⟩ := h
  have hplain : ∀ c ∈ "/api/".toList, isPlainInAddress c = true := List.all_eq_true.mp rfl
  have hhead : "/api/".toList <+: r.path.takeWhile isPlainInAddress := by
    rw [← hpath, List.takeWhile_append_of_pos hplain]
    exact List.prefix_append _ _
  exact hhead.trans (hview r path hshown)

/-- Without the key only open routes are reached. -/
theorem isOpen_of_stop? (hview : ShowsPaths view) (hkey : s.key ≠ "") (hcarries : r.header? "x-api-key" ≠ some s.key)
    (hpasses : s.stop? view r = none) (hroute : Route.ofPath? r.path = some route) : route.IsOpen := by
  refine (Route.isOpen_or_isProtected hroute).resolve_right fun hprotected => ?_
  have hset : s.key.isEmpty = false := by simpa using hkey
  have hother : ((r.header? "x-api-key").getD "" != s.key) = true := by
    rw [bne_iff_ne]
    cases hheader : r.header? "x-api-key" with
    | none => exact hkey.symm
    | some value => exact fun h => hcarries (hheader.trans (congrArg some h))
  unfold stop? at hpasses
  rw [hset, if_neg Bool.false_ne_true] at hpasses
  split at hpasses
  · cases hpasses
  · rename_i path hshown
    rw [isProtected_of_shown hview hshown hprotected, hother] at hpasses
    cases hpasses

/-- At an open route the answer is the same over every history and lock, and changes neither. -/
theorem answer_of_isOpen (h : route.IsOpen) (s t : Server) :
    (s.answer r route).2 = s ∧ (s.answer r route).1 = (t.answer r route).1 := by
  cases haccepts : route.accepts r.method with
  | false =>
    rw [answer_of_not_accepts haccepts, answer_of_not_accepts haccepts]
    exact ⟨rfl, rfl⟩
  | true =>
    have hrefresh : route ≠ .refresh := by
      rintro rfl
      exact h.elim Route.noConfusion Route.noConfusion
    rw [answer_of_accepts haccepts hrefresh, answer_of_accepts haccepts hrefresh]
    rcases h with rfl | rfl
    · exact ⟨rfl, rfl⟩
    · exact ⟨rfl, rfl⟩

/-- A request that comes past the guard at open routes alone changes nothing, and its answer tells nothing. -/
theorem respondOnce_of_withoutKey (hview : ShowsPaths view) (hkey : s.key ≠ "") (ht : t.key = s.key)
    (hcarries : r.header? "x-api-key" ≠ some s.key) {follow follow' : Request → Response × Server}
    (hfollow : ∀ path, (follow (r.redirected path)).2 = s ∧
      (follow (r.redirected path)).1 = (follow' (r.redirected path)).1) :
    (s.respondOnce view r follow).2 = s ∧
      (s.respondOnce view r follow).1 = (t.respondOnce view r follow').1 := by
  unfold respondOnce
  rw [stop?_congr view ht]
  cases hpasses : s.stop? view r with
  | some a => exact ⟨rfl, rfl⟩
  | none =>
    cases hroute : Route.ofPath? r.path with
    | some route => exact answer_of_isOpen (isOpen_of_stop? hview hkey hcarries hpasses hroute) s t
    | none =>
      cases Route.redirection? r.path with
      | none => exact ⟨rfl, rfl⟩
      | some path => exact hfollow path

theorem respondWithin_of_withoutKey (hview : ShowsPaths view) (hkey : s.key ≠ "") (ht : t.key = s.key)
    (hcarries : r.header? "x-api-key" ≠ some s.key) :
    (s.respondWithin view redirections r).2 = s ∧
      (s.respondWithin view redirections r).1 = (t.respondWithin view redirections r).1 := by
  induction redirections generalizing r with
  | zero =>
    apply respondOnce_of_withoutKey hview hkey ht hcarries
    exact fun _ => ⟨rfl, rfl⟩
  | succ redirections ih =>
    apply respondOnce_of_withoutKey hview hkey ht hcarries
    -- A redirected request carries the same headers.
    exact fun path => ih hcarries

/-- One request without the key changes nothing, and its answer tells nothing. -/
theorem respond_of_withoutKey (hview : ShowsPaths view) (hkey : s.key ≠ "") (ht : t.key = s.key)
    (hcarries : r.header? "x-api-key" ≠ some s.key) :
    s.after view (.request r) = s ∧ (s.respond view r).1 = (t.respond view r).1 :=
  respondWithin_of_withoutKey hview hkey ht hcarries

end Requests

end Server

/-- Requests that change nothing and learn nothing, whatever the history and the lock are. -/
structure KeepsShut (view : PathView) (key : String) (rs : List Request) : Prop where
  unchanged : ∀ s : Server, s.key = key → s.afterAll view (rs.map .request) = s
  silent : ∀ s t : Server, s.key = key → t.key = key → s.answers view rs = t.answers view rs

/-- Where a key is set, requests without it change and learn nothing, however many there are and whatever they ask. -/
theorem keepsShut_of_withoutKey {view : PathView} (hview : ShowsPaths view) {key : String} (hkey : key ≠ "")
    {rs : List Request} (hrs : ∀ r ∈ rs, r.header? "x-api-key" ≠ some key) : KeepsShut view key rs := by
  induction rs with
  | nil => exact ⟨fun _ _ => rfl, fun _ _ _ _ => rfl⟩
  | cons r rs ih =>
    obtain ⟨hr, hrest⟩ := List.forall_mem_cons.mp hrs
    obtain ⟨hunchanged, hsilent⟩ := ih hrest
    constructor
    · rintro s rfl
      rw [List.map_cons, Server.afterAll, List.foldl_cons, (Server.respond_of_withoutKey hview hkey rfl hr).1]
      exact hunchanged s rfl
    · rintro s t rfl ht
      obtain ⟨hsame, hanswer⟩ := Server.respond_of_withoutKey hview hkey ht hr
      have hsame' : t.after view (.request r) = t := (Server.respond_of_withoutKey hview (ht ▸ hkey) rfl (ht ▸ hr)).1
      rw [Server.answers, Server.answers, hsame, hsame', hanswer, hsilent s t rfl ht]

/-- Three requests without the key: one with none, one with another that is redirected first, and one for the open
route. -/
def sampleRequests : List Request :=
  [⟨.get, "/api/v1/snapshot", [("host", "a/b")]⟩, ⟨.post, "/api/v1/refresh/", [("X-Api-Key", "secret")]⟩,
    ⟨.get, "/health", []⟩]

theorem keepsShut_sample :
    ShowsPaths plainView ∧ "s3cret" ≠ "" ∧ (∀ r ∈ sampleRequests, r.header? "x-api-key" ≠ some "s3cret") ∧
      KeepsShut plainView "s3cret" sampleRequests ∧
      ((Server.start "s3cret").answers plainView sampleRequests).map Response.status = [401, 401, 200] := by
  have hkey : "s3cret" ≠ "" := by decide
  have hcarries : ∀ r ∈ sampleRequests, r.header? "x-api-key" ≠ some "s3cret" := by decide +kernel
  have hshut := keepsShut_of_withoutKey showsPaths_plainView hkey hcarries
  exact ⟨showsPaths_plainView, hkey, hcarries, hshut, by decide +kernel⟩

end CertInventory.Service

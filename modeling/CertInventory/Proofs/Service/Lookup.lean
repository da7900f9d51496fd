import CertInventory.Proofs.Datum.Numeral
import CertInventory.Proofs.Service.Path
import CertInventory.Proofs.Service.Refresh
import Mathlib.Data.Bool.AllAny

/-!
Snapshots asked for by their numbers. Over a history of saved snapshots each of them is found under its number and the
newest also without one, and a number of 64 bits that none of them has is told to be missing. The history takes no
larger numbers, so that a request for one of those fails, and a number too long to be read does not reach it.
-/

namespace CertInventory

theorem Snapshot.fields_withoutTransients (s : Snapshot) : s.withoutTransients.fields = s.fields := by
  have hfindings : s.withoutTransients.findingsDatum = s.findingsDatum := by
    simp only [findingsDatum, withoutTransients, List.map_map]
    rfl
  rw [fields, fields, hfindings]
  rfl

theorem History.Represents.getLast?_eq {h : History} {log : List (Nat × Snapshot)} (hr : h.Represents log)
    {e : Nat × Snapshot} (he : e ∈ log) (hnewest : ∀ other ∈ log, other.1 ≤ e.1) : log.getLast? = some e := by
  obtain ⟨older, newer, rfl⟩ := List.append_of_mem he
  cases newer with
  | nil => rw [List.getLast?_append_of_ne_nil _ (List.cons_ne_nil e []), List.getLast?_singleton]
  | cons next newer =>
    have hmore : e.1 < next.1 := by
      have hascending := List.pairwise_map.mp hr.ascending
      exact (List.pairwise_cons.mp (List.pairwise_append.mp hascending).2.1).1 next List.mem_cons_self
    have hless := hnewest next (List.mem_append_right older (List.mem_cons_of_mem e List.mem_cons_self))
    omega

namespace Service

open Server

def snapshotReference (id : Int) : String := "/api/v1/snapshots/" ++ Text.showInt id

def newestReference : String := "/api/v1/snapshot"

def shownFields (s : Snapshot) : List (String × Datum) :=
  s.fields ++ [("summary", (Summary.ofSnapshot s).toDatum)]

theorem payload_withoutTransients (s : Snapshot) (id : Option Int) : payload s.withoutTransients id = payload s id := by
  unfold payload
  rw [Snapshot.fields_withoutTransients, Summary.ofSnapshot_withoutTransients]

theorem payload_some (s : Snapshot) (id : Int) :
    payload s (some id) = .object (shownFields s ++ [("id", .int id)]) := rfl

theorem payload_none (s : Snapshot) : payload s none = .object (shownFields s) :=
  congrArg Datum.object (List.append_nil _)

/-- None of what an answer shows of a snapshot is called its number. -/
theorem id_not_mem_shownFields (s : Snapshot) : "id" ∉ (shownFields s).map Prod.fst := by
  unfold shownFields Snapshot.fields
  split <;> simp

namespace Server

/-- A request to read what a reference names, which the guard lets pass. -/
structure Grants (view : PathView) (s : Server) (r : Request) (reference : String) : Prop where
  method : r.method = .get
  reference_eq : r.reference = reference
  passes : s.stop? view r = none

section Requests

variable {view : PathView} {s : Server} {r : Request} {reference : String} {route : Route}

theorem respond_of_ofPath? (h : s.Grants view r reference) (hroute : Route.ofPath? r.path = some route) :
    s.respond view r = s.answer r route := by
  have honce (follow : Request → Response × Server) : s.respondOnce view r follow = s.answer r route := by
    rw [respondOnce, h.passes]
    dsimp only
    rw [hroute]
  rw [respond, maxRedirections, respondWithin, honce]

theorem accepts_of_grants (h : s.Grants view r reference) (hmethod : route.method = .get) :
    route.accepts r.method = true := by
  rw [Route.accepts, h.method, hmethod, beq_self_eq_true, Bool.true_or]

theorem isPathChar_hexChar : ∀ {d : Nat}, d < 10 →
    IsPathChar (Text.hexChar d) ∧ Text.hexChar d ≠ '/' ∧ Text.hexChar d ≠ '\n' := by decide

theorem plain_signedDecimal {id : Int} {c : Char} (h : c ∈ Text.signedDecimal id) :
    IsPathChar c ∧ c ≠ '/' ∧ c ≠ '\n' := by
  have hdecimal {n : Nat} (h : c ∈ Text.decimal n) : IsPathChar c ∧ c ≠ '/' ∧ c ≠ '\n' := by
    obtain ⟨ds, hspells, htext⟩ := Text.exists_spells_decimal n
    rw [htext] at h
    obtain ⟨d, hd, rfl⟩ := List.mem_map.mp h
    exact isPathChar_hexChar (hspells.digit d hd)
  unfold Text.signedDecimal at h
  split at h
  · rcases List.mem_cons.mp h with rfl | h
    · decide
    · exact hdecimal h
  · exact hdecimal h

theorem signedDecimal_ne_nil (id : Int) : Text.signedDecimal id ≠ [] := by
  obtain ⟨ds, hspells, htext⟩ := Text.exists_spells_decimal id.natAbs
  have hne : Text.decimal id.natAbs ≠ [] := by
    rw [htext]
    exact mt List.map_eq_nil_iff.mp hspells.ne_nil
  unfold Text.signedDecimal
  split
  · exact List.cons_ne_nil _ _
  · exact hne

theorem exists_byIdHead_eq :
    ∃ head, Route.byIdHead = '/' :: head ∧ head.head? = some 'a' ∧ ∀ c ∈ head, IsPathChar c :=
  ⟨Route.byIdHead.tail, by decide +kernel, by decide +kernel, List.all_iff_forall_prop.mp (by decide +kernel)⟩

theorem toList_snapshotReference (id : Int) :
    (snapshotReference id).toList = Route.byIdHead ++ Text.signedDecimal id := by
  unfold snapshotReference
  rw [String.toList_append]
  exact congrArg (Route.byIdHead ++ ·) String.toList_ofList

/-- A request for the snapshot with a number, as written. -/
theorem respond_snapshotReference {id : Int} (h : s.Grants view r (snapshotReference id)) :
    s.respond view r =
      (withInteger "path" "snapshot_id" (Text.showInt id) fun n =>
        showSnapshot (s.history.load n) (some n) "Snapshot not found", s) := by
  obtain ⟨head, hhead, hfirst, hplain⟩ := exists_byIdHead_eq
  have hreference : r.reference.toList = '/' :: (head ++ Text.signedDecimal id) := by
    rw [h.reference_eq, toList_snapshotReference, hhead, List.cons_append]
  have hslash : (head ++ Text.signedDecimal id).head? ≠ some '/' := by
    rw [List.head?_append, hfirst, Option.some_or]
    decide
  have hpath : r.path = Route.byIdHead ++ Text.signedDecimal id := by
    rw [Request.path_of_plain hreference hslash, hhead, List.cons_append]
    exact List.forall_mem_append.mpr ⟨hplain, fun c hc => (plain_signedDecimal hc).1⟩
  have hroute : Route.ofPath? r.path = some (.byId (Text.signedDecimal id)) := by
    rw [hpath]
    refine Route.ofPath?_byId (signedDecimal_ne_nil id) (fun hmem => (plain_signedDecimal hmem).2.1 rfl) fun hlast => ?_
    exact (plain_signedDecimal (List.mem_of_getLast? hlast)).2.2 rfl
  rw [respond_of_ofPath? h hroute, answer_of_accepts (accepts_of_grants h rfl) Route.noConfusion]
  rfl

theorem respond_newestReference (h : s.Grants view r newestReference) :
    s.respond view r = (showSnapshot s.history.latest none "No snapshot yet", s) := by
  have hreference : r.reference.toList = '/' :: "api/v1/snapshot".toList := by
    rw [h.reference_eq]
    decide +kernel
  have hpath : r.path = '/' :: "api/v1/snapshot".toList :=
    Request.path_of_plain hreference (by decide +kernel) (List.all_iff_forall_prop.mp (by decide +kernel))
  have hroute : Route.ofPath? r.path = some .latest := by
    rw [hpath]
    decide +kernel
  rw [respond_of_ofPath? h hroute, answer_of_accepts (accepts_of_grants h rfl) Route.noConfusion]
  rfl

end Requests

end Server

/-- How a service answers for a log of saved snapshots, to requests that it grants access. -/
structure AnswersFor (view : PathView) (s : Server) (log : List (Nat × Snapshot)) : Prop where
  stored : ∀ e ∈ log, ∀ r, s.Grants view r (snapshotReference e.1) →
    s.respond view r = (.reply 200 (.object (shownFields e.2 ++ [("id", .int e.1)])), s)
  summary : ∀ e ∈ log, ⟨e.1, e.2.time.text, (Summary.ofSnapshot e.2).toDatum⟩ ∈ s.history.rows.map HistoryRow.toEntry
  missing : ∀ id : Int, -2 ^ 63 ≤ id → id < 2 ^ 63 → (∀ e ∈ log, (e.1 : Int) ≠ id) →
    ∀ r, s.Grants view r (snapshotReference id) → s.respond view r = (.because 404 "Snapshot not found", s)
  beyond : ∀ id : Int, id < -2 ^ 63 ∨ 2 ^ 63 ≤ id → (Text.showInt id).length ≤ 4300 →
    ∀ r, s.Grants view r (snapshotReference id) → s.respond view r = (.failed, s)
  oversized : ∀ id : Int, 4300 < (Text.showInt id).length → ∀ r, s.Grants view r (snapshotReference id) →
    s.respond view r = (.invalid [⟨[.field "path", .field "snapshot_id"], .oversizedInteger⟩], s)
  newest : ∀ e ∈ log, (∀ other ∈ log, other.1 ≤ e.1) → ∀ r, s.Grants view r newestReference →
    s.respond view r = (.reply 200 (.object (shownFields e.2)), s) ∧ "id" ∉ (shownFields e.2).map Prod.fst

section Answers

variable {view : PathView} {s : Server} {log : List (Nat × Snapshot)}

/-- A number that fits into 64 bits can be read. -/
theorem length_showInt_le {id : Int} (h : History.fits id = true) : (Text.showInt id).length ≤ Text.digitLimit := by
  have hsmall : id.natAbs < Nat.pow 10 19 := by
    have hmax : 9223372036854775808 < Nat.pow 10 19 := by decide
    obtain ⟨hleast, hmost⟩ := History.fits_iff.mp h
    omega
  have hdigits : (Text.decimal id.natAbs).length ≤ 19 := Text.length_decimal_le (by decide) hsmall
  have hsign : (if id < 0 then 1 else 0) ≤ 1 := by
    split <;> omega
  have hlimit : 19 + 1 ≤ Text.digitLimit := by decide
  rw [Datum.length_showInt]
  omega

/-- A number that can be read is looked up. -/
theorem respond_of_readable {r : Request} {id : Int} (h : s.Grants view r (snapshotReference id))
    (hshort : (Text.showInt id).length ≤ Text.digitLimit) :
    s.respond view r = (showSnapshot (s.history.load id) (some id) "Snapshot not found", s) := by
  rw [respond_snapshotReference h, withInteger, Datum.toInteger_showInt, if_neg (Nat.not_lt.mpr hshort)]

theorem answersFor_of_represents (hr : s.history.Represents log) : AnswersFor view s log where
  stored e he r h := by
    rw [respond_of_readable h (length_showInt_le (hr.fits_of_mem he)), hr.load_saved he, showSnapshot,
      payload_withoutTransients, payload_some]
  summary e he := by
    rw [← HistoryRow.toEntry_ofSnapshot (hr.readable e he).1]
    exact List.mem_map_of_mem (hr.mem_rows he)
  missing id hleast hmost hother r h := by
    have hfits : History.fits id = true := History.fits_iff.mpr ⟨hleast, hmost⟩
    rw [respond_of_readable h (length_showInt_le hfits), hr.load_other hfits hother, showSnapshot]
  beyond id hbeyond hshort r h := by
    have hfits : ¬ History.fits id = true := by
      rw [History.fits_iff]
      omega
    rw [respond_of_readable h hshort, History.load, if_neg hfits, showSnapshot]
  oversized id hlong r h := by
    have hlimit : Text.digitLimit < (Text.showInt id).length := hlong
    rw [respond_snapshotReference h, withInteger, Datum.toInteger_showInt, if_pos hlimit]
    rfl
  newest e he hnewest r h := by
    refine ⟨?_, id_not_mem_shownFields e.2⟩
    rw [respond_newestReference h, hr.latest, hr.getLast?_eq he hnewest, Option.map_some, showSnapshot,
      payload_withoutTransients, payload_none]

end Answers

/-- However many snapshots were saved, and whatever else the service does at the moment: a stored snapshot is found
under its number, with the summary that the history has of it, and under no number the newest one; any other number of
64 bits is told to be missing; a larger one makes the lookup fail, and one of too many digits is not read. -/
theorem answersFor_saveAll (view : PathView) {ss : List Snapshot}
    (hss : ∀ snapshot ∈ ss, (snapshot.errors.map Prod.fst).Nodup) {s : Server}
    (hs : s.history = (History.empty.saveAll ss).2) :
    AnswersFor view s (History.logOf ss (History.empty.saveAll ss).1) := by
  have hr : s.history.Represents (History.logOf ss (History.empty.saveAll ss).1) := by
    rw [hs]
    exact History.represents_empty.saveAll hss
  exact answersFor_of_represents hr

def serving (ss : List Snapshot) : Server := { start "s3cret" with history := (History.empty.saveAll ss).2 }

theorem history_serving (ss : List Snapshot) : (serving ss).history = (History.empty.saveAll ss).2 := rfl

def requestWithKey (reference : String) : Request := ⟨.get, reference, [("host", "edge:8080"), ("X-Api-Key", "s3cret")]⟩

theorem grants_requestWithKey (ss : List Snapshot) (reference : String) :
    (serving ss).Grants plainView (requestWithKey reference) reference := by
  have hcarried : [("host", "edge:8080"), ("X-Api-Key", "s3cret")].find? (fun header =>
      Text.asciiLower header.1.toList == Text.asciiLower "x-api-key".toList) = some ("X-Api-Key", "s3cret") := by
    decide +kernel
  have hkey : (requestWithKey reference).header? "x-api-key" = some "s3cret" := congrArg (Option.map Prod.snd) hcarried
  refine ⟨rfl, rfl, ?_⟩
  have hserving : (serving ss).key = "s3cret" := rfl
  simp [stop?, plainView, hkey, hserving]

def sampleSaves : List Snapshot := [History.sampleSnapshot 1, History.sampleSnapshot 2]

theorem respond_serving_sample :
    (∀ snapshot ∈ sampleSaves, (snapshot.errors.map Prod.fst).Nodup) ∧
      (serving sampleSaves).respond plainView (requestWithKey (snapshotReference 1)) =
        (.reply 200 (.object (shownFields (History.sampleSnapshot 1) ++ [("id", .int 1)])), serving sampleSaves) ∧
      (serving sampleSaves).respond plainView (requestWithKey (snapshotReference 3)) =
        (.because 404 "Snapshot not found", serving sampleSaves) ∧
      (serving sampleSaves).respond plainView (requestWithKey newestReference) =
        (.reply 200 (.object (shownFields (History.sampleSnapshot 2))), serving sampleSaves) := by
  have hnames : ∀ snapshot ∈ sampleSaves, (snapshot.errors.map Prod.fst).Nodup := by decide
  have hanswers : (History.empty.saveAll sampleSaves).1 = [.ok 1, .ok 2] := by
    decide +kernel
  have hlog : History.logOf sampleSaves (History.empty.saveAll sampleSaves).1 =
      [(1, History.sampleSnapshot 1), (2, History.sampleSnapshot 2)] := by
    rw [hanswers]
    rfl
  have h := answersFor_saveAll plainView hnames (history_serving sampleSaves)
  have hgrants := grants_requestWithKey sampleSaves
  rw [hlog] at h
  refine ⟨hnames, ?_, ?_, ?_⟩
  · exact h.stored (1, History.sampleSnapshot 1) (by simp) _ (hgrants (snapshotReference 1))
  · exact h.missing 3 (by decide) (by decide) (by simp) _ (hgrants (snapshotReference 3))
  · exact (h.newest (2, History.sampleSnapshot 2) (by simp) (by simp) _ (hgrants newestReference)).1

/-- A number of more than 64 bits that no snapshot has is not told to be missing. -/
theorem exists_missing_untold :
    ¬ ∀ (ss : List Snapshot) (s : Server) (id : Int) (r : Request), s.history = (History.empty.saveAll ss).2 →
      (∀ e ∈ History.logOf ss (History.empty.saveAll ss).1, (e.1 : Int) ≠ id) →
      s.Grants plainView r (snapshotReference id) → s.respond plainView r = (.because 404 "Snapshot not found", s) := by
  intro h
  let beyond := requestWithKey (snapshotReference 9223372036854775808)
  have htold := h [] (serving []) 9223372036854775808 beyond rfl nofun (grants_requestWithKey [] _)
  have hfails : ((serving []).respond plainView beyond).1.status = 500 := by decide +kernel
  rw [htold] at hfails
  cases hfails

end Service

end CertInventory

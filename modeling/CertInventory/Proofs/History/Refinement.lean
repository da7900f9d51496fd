import CertInventory.Proofs.History.Row
import CertInventory.Proofs.Sample
import CertInventory.Proofs.Snapshot.Summary

/-!
The history as an append-only log of snapshots. Saving appends to the log (`Represents.save`), so after any saves the
rows are those of the log, newest first, and every reading of the history is a reading of the log (`Refines`).
-/

namespace CertInventory.History

/-- Saves snapshots one after the other: what each call answers, and the history in the end. -/
def saveAll (h : History) : List Snapshot → List (Except SaveError Nat) × History
  | [] => ([], h)
  | s :: rest =>
    match h.save s with
    | .ok (id, h') => (.ok id :: (saveAll h' rest).1, (saveAll h' rest).2)
    | .error e => (.error e :: (saveAll h rest).1, (saveAll h rest).2)

def logOf : List Snapshot → List (Except SaveError Nat) → List (Nat × Snapshot)
  | s :: rest, .ok id :: answers => (id, s) :: logOf rest answers
  | _ :: rest, .error _ :: answers => logOf rest answers
  | _, _ => []

/-- The history tells of a log what was saved when: every reading of it is a reading of the log. -/
structure Refines (h : History) (log : List (Nat × Snapshot)) : Prop where
  ascending : (log.map Prod.fst).Pairwise (· < ·)
  load_saved : ∀ e ∈ log, h.load e.1 = .ok (some e.2.withoutTransients)
  load_other : ∀ id : Int, fits id = true → (∀ e ∈ log, (e.1 : Int) ≠ id) → h.load id = .ok none
  latest : h.latest = .ok (log.getLast?.map fun e => e.2.withoutTransients)
  list : ∀ n : Int, 0 ≤ n → n < 2 ^ 63 → ∃ entries, h.list n = .ok entries ∧
    entries.map HistoryEntry.id = (log.map Prod.fst).reverse.take n.toNat ∧
    ∀ entry ∈ entries, ∃ s, h.load entry.id = .ok (some s) ∧ entry.time = s.time.text ∧
      entry.summary = (Summary.ofSnapshot s).toDatum ∧ (Summary.ofSnapshot s).Coherent

/-- The rows of a history are those of a log of snapshots that can be written. -/
structure Represents (h : History) (log : List (Nat × Snapshot)) : Prop where
  rows : h.rows = log.reverse.map fun e => HistoryRow.ofSnapshot e.2 e.1
  readable : ∀ e ∈ log, e.2.isWritable = true ∧ (e.2.errors.map Prod.fst).Nodup

theorem represents_empty : Represents empty [] := ⟨rfl, by simp⟩

theorem save_eq_ok_iff {h h' : History} {s : Snapshot} {id : Nat} :
    h.save s = .ok (id, h') ↔ s.isWritable = true ∧ ∃ hroom : h.lastId < HistoryRow.maxId,
      id = h.nextId ∧ h' = h.push (HistoryRow.ofSnapshot s) (fun _ => rfl) hroom := by
  unfold save
  split
  · rename_i hwritable
    split
    · rename_i hroom
      simp [hwritable, hroom, eq_comm]
    · rename_i hroom
      simp [hwritable, hroom]
  · rename_i hwritable
    simp [hwritable]

theorem Represents.save {h h' : History} {log : List (Nat × Snapshot)} {s : Snapshot} {id : Nat}
    (hr : Represents h log) (herrors : (s.errors.map Prod.fst).Nodup) (hs : h.save s = .ok (id, h')) :
    Represents h' (log ++ [(id, s)]) := by
  obtain ⟨hwritable, hroom, rfl, rfl⟩ := save_eq_ok_iff.mp hs
  constructor
  · rw [List.reverse_append, List.reverse_singleton, List.singleton_append, List.map_cons, ← hr.rows]
    rfl
  · intro e he
    rcases List.mem_append.mp he with he | he
    · exact hr.readable e he
    · rw [List.mem_singleton.mp he]
      exact ⟨hwritable, herrors⟩

theorem Represents.saveAll {h : History} {log : List (Nat × Snapshot)} (hr : Represents h log) {ss : List Snapshot}
    (herrors : ∀ s ∈ ss, (s.errors.map Prod.fst).Nodup) :
    Represents (h.saveAll ss).2 (log ++ logOf ss (h.saveAll ss).1) := by
  induction ss generalizing h log with
  | nil => simpa [History.saveAll, logOf] using hr
  | cons s rest ih =>
    obtain ⟨hs, hrest⟩ := List.forall_mem_cons.mp herrors
    rw [History.saveAll]
    cases hsave : h.save s with
    | ok answer =>
      obtain ⟨id, h'⟩ := answer
      have := ih (hr.save hs hsave) hrest
      rwa [List.append_assoc, List.singleton_append] at this
    | error e => exact ih hr hrest

/-- All snapshots that can be written are saved, as long as there are numbers for them. -/
theorem map_snd_logOf_saveAll (h : History) (ss : List Snapshot) :
    (logOf ss (h.saveAll ss).1).map Prod.snd = (ss.filter Snapshot.isWritable).take (HistoryRow.maxId - h.lastId) := by
  induction ss generalizing h with
  | nil => simp [logOf]
  | cons s rest ih =>
    rw [History.saveAll]
    cases hsave : h.save s with
    | ok answer =>
      obtain ⟨id, h'⟩ := answer
      obtain ⟨hwritable, hroom, rfl, rfl⟩ := save_eq_ok_iff.mp hsave
      have hcount : HistoryRow.maxId - h.lastId = HistoryRow.maxId - (h.lastId + 1) + 1 := by omega
      rw [List.filter_cons_of_pos hwritable, hcount, List.take_succ_cons]
      exact congrArg (s :: ·) (ih _)
    | error e =>
      by_cases hwritable : s.isWritable = true
      -- A snapshot that can be written is refused only when no number is left, and then all others are.
      · have hfull : HistoryRow.maxId - h.lastId = 0 := by
          by_contra hleft
          have hroom : h.lastId < HistoryRow.maxId := by omega
          have hok := save_eq_ok_iff.mpr ⟨hwritable, hroom, rfl, rfl⟩
          rw [hsave] at hok
          cases hok
        have hnone := ih h
        rw [hfull, List.take_zero] at hnone ⊢
        exact hnone
      · rw [List.filter_cons_of_neg hwritable]
        exact ih h

/-- A row is found under its number, because no newer row has it. -/
theorem find?_id_of_mem {rows : List HistoryRow} (hnewest : rows.Pairwise fun newer older => older.id < newer.id)
    {r : HistoryRow} (hr : r ∈ rows) : rows.find? (fun a => (a.id : Int) == r.id) = some r := by
  induction rows with
  | nil => cases hr
  | cons a rest ih =>
    obtain ⟨hfirst, hrest⟩ := List.pairwise_cons.mp hnewest
    rcases List.mem_cons.mp hr with rfl | hr
    · exact List.find?_cons_of_pos (beq_self_eq_true _)
    · have hne : ((a.id : Int) == r.id) = false := by
        have := hfirst r hr
        rw [beq_eq_false_iff_ne]
        omega
      rw [List.find?_cons, hne]
      exact ih hrest hr

theorem row?_of_mem (h : History) {r : HistoryRow} (hr : r ∈ h.rows) : h.row? r.id = some r :=
  find?_id_of_mem h.newestFirst hr

theorem row?_eq_none {h : History} {id : Int} (hid : ∀ r ∈ h.rows, (r.id : Int) ≠ id) : h.row? id = none :=
  List.find?_eq_none.mpr fun r hr => by simpa using hid r hr

theorem fits_iff {n : Int} : fits n = true ↔ -9223372036854775808 ≤ n ∧ n < 9223372036854775808 := by
  have hpow : Nat.pow 2 63 = 9223372036854775808 := rfl
  rw [fits, hpow, Bool.and_eq_true, decide_eq_true_eq, decide_eq_true_eq]
  rfl

namespace Represents

variable {h : History} {log : List (Nat × Snapshot)}

theorem mem_rows (hr : Represents h log) {e : Nat × Snapshot} (he : e ∈ log) :
    HistoryRow.ofSnapshot e.2 e.1 ∈ h.rows := by
  rw [hr.rows]
  exact List.mem_map.mpr ⟨e, List.mem_reverse.mpr he, rfl⟩

theorem toSnapshot (hr : Represents h log) {e : Nat × Snapshot} (he : e ∈ log) :
    (HistoryRow.ofSnapshot e.2 e.1).toSnapshot = .ok e.2.withoutTransients :=
  HistoryRow.toSnapshot_ofSnapshot (hr.readable e he).1 (hr.readable e he).2 e.1

theorem ascending (hr : Represents h log) : (log.map Prod.fst).Pairwise (· < ·) := by
  have hnewest := h.newestFirst
  rw [hr.rows, List.pairwise_map, List.pairwise_reverse] at hnewest
  exact List.pairwise_map.mpr hnewest

theorem fits_of_mem (hr : Represents h log) {e : Nat × Snapshot} (he : e ∈ log) : fits e.1 = true := by
  have hbound : e.1 ≤ HistoryRow.maxId := Nat.le_trans (h.bounded _ (hr.mem_rows he)) h.lastId_le
  have hmax : HistoryRow.maxId = 9223372036854775807 := rfl
  rw [fits_iff]
  omega

theorem load_saved (hr : Represents h log) {e : Nat × Snapshot} (he : e ∈ log) :
    h.load e.1 = .ok (some e.2.withoutTransients) := by
  have hrow : h.row? e.1 = some (HistoryRow.ofSnapshot e.2 e.1) := h.row?_of_mem (hr.mem_rows he)
  rw [load, if_pos (hr.fits_of_mem he), hrow]
  dsimp only
  rw [hr.toSnapshot he]
  rfl

theorem load_other (hr : Represents h log) {id : Int} (hfits : fits id = true) (hid : ∀ e ∈ log, (e.1 : Int) ≠ id) :
    h.load id = .ok none := by
  have hrow : h.row? id = none := by
    apply row?_eq_none
    rw [hr.rows]
    intro r hmem
    obtain ⟨e, he, rfl⟩ := List.mem_map.mp hmem
    exact hid e (List.mem_reverse.mp he)
  rw [load, if_pos hfits, hrow]

theorem latest (hr : Represents h log) : h.latest = .ok (log.getLast?.map fun e => e.2.withoutTransients) := by
  rw [History.latest, hr.rows]
  cases hlast : log.getLast? with
  | none =>
    rw [List.getLast?_eq_none_iff.mp hlast]
    rfl
  | some e =>
    obtain ⟨older, rfl⟩ := List.getLast?_eq_some_iff.mp hlast
    have hrow := hr.toSnapshot (e := e) (List.mem_append_right _ List.mem_cons_self)
    rw [List.reverse_append, List.reverse_singleton, List.singleton_append, List.map_cons]
    dsimp only
    rw [hrow]
    rfl

theorem list (hr : Represents h log) {n : Int} (hn : 0 ≤ n) (hlarge : n < 2 ^ 63) :
    ∃ entries, h.list n = .ok entries ∧ entries.map HistoryEntry.id = (log.map Prod.fst).reverse.take n.toNat ∧
      ∀ entry ∈ entries, ∃ s, h.load entry.id = .ok (some s) ∧ entry.time = s.time.text ∧
        entry.summary = (Summary.ofSnapshot s).toDatum ∧ (Summary.ofSnapshot s).Coherent := by
  have hfits : fits n = true := fits_iff.mpr ⟨by omega, hlarge⟩
  refine ⟨((h.rows.take n.toNat).map HistoryRow.toEntry), ?_, ?_, ?_⟩
  · rw [History.list, if_pos hfits, if_neg (by omega)]
  · rw [hr.rows, ← List.map_take, List.map_map, List.map_map, ← List.map_reverse, ← List.map_take]
    rfl
  · intro entry hentry
    obtain ⟨r, hrow, rfl⟩ := List.mem_map.mp hentry
    have hmem := List.mem_of_mem_take hrow
    rw [hr.rows] at hmem
    obtain ⟨e, he, rfl⟩ := List.mem_map.mp hmem
    have he := List.mem_reverse.mp he
    rw [HistoryRow.toEntry_ofSnapshot (hr.readable e he).1]
    exact ⟨_, hr.load_saved he, rfl, congrArg Summary.toDatum (Summary.ofSnapshot_withoutTransients e.2).symm,
      Summary.coherent_ofSnapshot _⟩

theorem refines (hr : Represents h log) : Refines h log where
  ascending := hr.ascending
  load_saved := fun _ he => hr.load_saved he
  load_other := fun _ => hr.load_other
  latest := hr.latest
  list := fun _ => hr.list

end Represents

/-- A history that was empty before some saves tells, then and after any `later` saves, of the snapshots saved so far
as an append-only log does. Saved are all snapshots that can be written, as long as there are numbers for them. -/
theorem saveAll_refines {ss later : List Snapshot} (h : ∀ s ∈ ss ++ later, (s.errors.map Prod.fst).Nodup) :
    let first := empty.saveAll ss
    let last := first.2.saveAll later
    (logOf ss first.1).map Prod.snd = (ss.filter Snapshot.isWritable).take HistoryRow.maxId ∧
      Refines first.2 (logOf ss first.1) ∧ Refines last.2 (logOf ss first.1 ++ logOf later last.1) := by
  intro first last
  obtain ⟨hss, hlater⟩ := List.forall_mem_append.mp h
  have hsaved : (logOf ss first.1).map Prod.snd = (ss.filter Snapshot.isWritable).take HistoryRow.maxId :=
    map_snd_logOf_saveAll empty ss
  have hfirst : Represents first.2 (logOf ss first.1) := represents_empty.saveAll hss
  have hlast : Represents last.2 (logOf ss first.1 ++ logOf later last.1) := hfirst.saveAll hlater
  exact ⟨hsaved, hfirst.refines, hlast.refines⟩

/-- A snapshot of one finding, which carries a certificate, and of one source that failed. -/
def sampleSnapshot (tick : Nat) : Snapshot :=
  ⟨sampleTime tick, [sampleFinding "external" "shop" (sampleTime 5)], [("file", "no such file")]⟩

theorem saveAll_refines_sample :
    (∀ s ∈ [sampleSnapshot 1] ++ [sampleSnapshot 2], (s.errors.map Prod.fst).Nodup) ∧
      Refines (empty.saveAll [sampleSnapshot 1]).2 [(1, sampleSnapshot 1)] ∧
      Refines ((empty.saveAll [sampleSnapshot 1]).2.saveAll [sampleSnapshot 2]).2
        [(1, sampleSnapshot 1), (2, sampleSnapshot 2)] := by
  have hnames : ∀ s ∈ [sampleSnapshot 1] ++ [sampleSnapshot 2], (s.errors.map Prod.fst).Nodup := by
    intro s hs
    rcases List.mem_cons.mp hs with rfl | hs
    · decide
    · rw [List.mem_singleton.mp hs]
      decide
  have hwritable (tick : Nat) (h : tick = 1 ∨ tick = 2) : (sampleSnapshot tick).isWritable = true := by
    rcases h with rfl | rfl <;> decide +kernel
  have hlog (h : History) (s : Snapshot) (hs : s.isWritable = true) (hroom : h.lastId < HistoryRow.maxId) :
      logOf [s] (h.saveAll [s]).1 = [(h.lastId + 1, s)] ∧ (h.saveAll [s]).2.lastId = h.lastId + 1 := by
    have hsave := save_eq_ok_iff.mpr ⟨hs, hroom, rfl, rfl⟩
    rw [saveAll, hsave]
    exact ⟨rfl, rfl⟩
  obtain ⟨hfirst, hid⟩ := hlog empty (sampleSnapshot 1) (hwritable 1 (.inl rfl)) (by decide)
  obtain ⟨hsecond, -⟩ := hlog (empty.saveAll [sampleSnapshot 1]).2 (sampleSnapshot 2) (hwritable 2 (.inr rfl))
    (by rw [hid]; decide)
  obtain ⟨-, hone, htwo⟩ := saveAll_refines hnames
  rw [hfirst] at hone htwo
  rw [hsecond, hid] at htwo
  exact ⟨hnames, hone, htwo⟩

/-- A number that does not fit into 64 bits is refused as the length of a listing, be the history ever so short. -/
theorem list_beyond_64_bits : ¬ ∀ n : Int, 0 ≤ n → ∃ entries, (empty.saveAll []).2.list n = .ok entries := by
  intro hlists
  obtain ⟨entries, hentries⟩ := hlists 9223372036854775808 (by decide)
  have hrefused : (empty.saveAll []).2.list 9223372036854775808 = .error .oversizedNumber := rfl
  rw [hrefused] at hentries
  cases hentries

end CertInventory.History

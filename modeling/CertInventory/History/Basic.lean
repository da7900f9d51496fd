import CertInventory.Snapshot.Summary

/-!
The history of snapshots. Every snapshot that is saved gets a number larger than all numbers given before, also
after rows were deleted, as long as there are such numbers. Rows hold texts: the time, and the JSON of findings, errors
and summary. The newest row stands first.
-/

namespace CertInventory

/-- A saved snapshot: its number and its parts as texts. -/
structure HistoryRow where
  id : Nat
  time : String
  findings : String
  errors : String
  summary : String
  deriving DecidableEq, Repr

inductive HistoryColumn where
  | time
  | findings
  | errors
  | summary
  deriving DecidableEq, Repr

def HistoryRow.set (r : HistoryRow) (column : HistoryColumn) (text : String) : HistoryRow :=
  match column with
  | .time => { r with time := text }
  | .findings => { r with findings := text }
  | .errors => { r with errors := text }
  | .summary => { r with summary := text }

@[simp] theorem HistoryRow.id_set (r : HistoryRow) (column : HistoryColumn) (text : String) :
    (r.set column text).id = r.id := by
  cases column <;> rfl

def HistoryRow.maxId : Nat := Nat.pow 2 63 - 1

/-- The rows, newest first, and the largest number ever given. -/
structure History where
  rows : List HistoryRow
  lastId : Nat
  newestFirst : rows.Pairwise fun newer older => older.id < newer.id
  bounded : ∀ r ∈ rows, r.id ≤ lastId
  lastId_le : lastId ≤ HistoryRow.maxId

namespace History

def empty : History where
  rows := []
  lastId := 0
  newestFirst := .nil
  bounded := by simp
  lastId_le := Nat.zero_le _

def row? (h : History) (id : Int) : Option HistoryRow := h.rows.find? fun r => (r.id : Int) == id

def push (h : History) (row : Nat → HistoryRow) (hid : ∀ n, (row n).id = n) (hroom : h.lastId < HistoryRow.maxId) :
    History where
  rows := row (h.lastId + 1) :: h.rows
  lastId := h.lastId + 1
  newestFirst := by
    refine .cons (fun r hr => ?_) h.newestFirst
    rw [hid]
    exact Nat.lt_succ_of_le (h.bounded r hr)
  bounded := by
    intro r hr
    rcases List.mem_cons.1 hr with rfl | hr
    · exact Nat.le_of_eq (hid _)
    · exact Nat.le_succ_of_le (h.bounded r hr)
  lastId_le := hroom

def delete (h : History) (id : Int) : History where
  rows := h.rows.filter fun r => (r.id : Int) != id
  lastId := h.lastId
  newestFirst := h.newestFirst.filter _
  bounded := fun r hr => h.bounded r (List.mem_filter.1 hr).1
  lastId_le := h.lastId_le

def amend (h : History) (id : Int) (column : HistoryColumn) (text : String) : History where
  rows := h.rows.map fun r => if (r.id : Int) = id then r.set column text else r
  lastId := h.lastId
  newestFirst := by
    refine h.newestFirst.map _ fun a b hab => ?_
    split <;> split <;> simpa using hab
  bounded := by
    intro r hr
    obtain ⟨a, ha, rfl⟩ := List.mem_map.1 hr
    have := h.bounded a ha
    split <;> simpa using this
  lastId_le := h.lastId_le

end History

end CertInventory

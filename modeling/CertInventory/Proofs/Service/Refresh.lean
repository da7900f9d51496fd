import CertInventory.Proofs.History.Refinement
import CertInventory.Service.Server

/-!
Refreshes while requests and the steps of workers come in any order. The journal notes the start of every worker and
each step that one makes; `InTurn` says that these come in rounds, one worker after the other, and that the service
shows how far the last one is. What is in the history follows from the steps alone: a worker that loaded, found and
saved a snapshot added its row, and no other worker changed anything (`Leaves`).
-/

namespace CertInventory.Service

open Server

/-- What happens to the service: a request arrives, or the worker at a position comes to a step. -/
inductive Event where
  | request (r : Request)
  | work (position : Nat) (step : WorkerStep)

/-- What the journal notes: the start of a worker, and each step that one makes. -/
inductive Mark where
  | started
  | made (step : WorkerStep)

def Mark.step? : Mark → Option WorkerStep
  | .started => none
  | .made step => some step

/-- An answer that neither reports nor refuses the start of a refresh. -/
def Response.IsOrdinary (a : Response) : Prop := a.status ≠ 202 ∧ a.status ≠ 409

instance (a : Response) : Decidable a.IsOrdinary := inferInstanceAs (Decidable (_ ∧ _))

/-- The steps that a worker can make at a stage: the one that is due there, with any outcome. -/
inductive Stage.Makes : Stage → WorkerStep → Prop where
  | loads (ok : Bool) : Makes .loading (.loads ok)
  | runs (found : Option Snapshot) : Makes .running (.runs found)
  | saves (found : Snapshot) (ok : Bool) : Makes (.saving found) (.saves ok)
  | releases : Makes .releasing .releases

/-- The most steps that a worker has left, the release of the lock among them. -/
def Stage.stepsLeft : Stage → Nat
  | .loading => 4
  | .running => 3
  | .saving _ => 2
  | .releasing => 1

theorem Stage.stepsLeft_pos (stage : Stage) : 0 < stage.stepsLeft := by
  cases stage with
  | loading | running | saving | releasing => exact Nat.succ_pos _

theorem Stage.stepsLeft_le (stage : Stage) : stage.stepsLeft ≤ 4 := by
  cases stage with
  | loading => exact Nat.le_refl 4
  | running | saving | releasing => exact Nat.le_of_ble_eq_true rfl

/-- How far a worker is after the steps that it made: a step that fails leaves only the release. -/
inductive Progress : List WorkerStep → Stage → Prop where
  | started : Progress [] .loading
  | loaded : Progress [.loads true] .running
  | unloaded : Progress [.loads false] .releasing
  | found (found : Snapshot) : Progress [.loads true, .runs (some found)] (.saving found)
  | broken : Progress [.loads true, .runs none] .releasing
  | saved (found : Snapshot) (ok : Bool) : Progress [.loads true, .runs (some found), .saves ok] .releasing

def succeeding (found : Snapshot) : List WorkerStep := [.loads true, .runs (some found), .saves true]

/-- What a worker leaves of the history by the steps that it made: the row of what it found in front, if it succeeds
with a snapshot that can be written while a number is left, and the history as it was otherwise. -/
inductive Leaves (h : History) : List WorkerStep → History → Prop where
  | row {found : Snapshot} {h' : History} : found.isWritable = true → h.lastId < HistoryRow.maxId →
      h'.rows = HistoryRow.ofSnapshot found (h.lastId + 1) :: h.rows → h'.lastId = h.lastId + 1 →
      Leaves h (succeeding found) h'
  | same {steps : List WorkerStep} :
      (∀ found, steps = succeeding found → ¬ (found.isWritable = true ∧ h.lastId < HistoryRow.maxId)) → Leaves h steps h

/-- What workers leave that came one after the other, each with its steps, and have let the lock go. -/
inductive Rounds (h : History) : List (List WorkerStep) → History → Prop where
  | none : Rounds h [] h
  | next {rounds : List (List WorkerStep)} {steps : List WorkerStep} {before after : History} :
      Rounds h rounds before → Progress steps .releasing → Leaves before steps after →
      Rounds h (rounds ++ [steps]) after

def round (steps : List WorkerStep) : List Mark := .started :: steps.map .made ++ [.made .releases]

/-- The workers came in rounds since the history was `h`, and the service shows how far the last one is: all are over,
or one is at work and holds the lock. -/
inductive InTurn (h : History) : List Mark → Server → Prop where
  | idle {rounds : List (List WorkerStep)} {key : String} {history : History} :
      Rounds h rounds history → InTurn h (rounds.flatMap round) ⟨key, history, false, []⟩
  | working {rounds : List (List WorkerStep)} {steps : List WorkerStep} {stage : Stage} {key : String}
      {before history : History} :
      Rounds h rounds before → Progress steps stage → Leaves before steps history →
      InTurn h (rounds.flatMap round ++ .started :: steps.map .made) ⟨key, history, true, [stage]⟩

namespace Server

section Events

variable (view : PathView)

def after (s : Server) : Event → Server
  | .request r => (s.respond view r).2
  | .work position step => s.advance position step

def afterAll (s : Server) (es : List Event) : Server := es.foldl (after view) s

/-- What the journal notes of an event: the start of a worker where a request is told of one, and a step where a worker
is there that can make it. -/
def marks (s : Server) : Event → List Mark
  | .request r => if (s.respond view r).1.status = 202 then [.started] else []
  | .work position step =>
    match s.workers[position]?, step with
    | some .releasing, .releases => [.made .releases]
    | some stage, step => if (Stage.after? stage step).isSome then [.made step] else []
    | none, _ => []

def journal (s : Server) : List Event → List Mark
  | [] => []
  | e :: es => s.marks view e ++ (s.after view e).journal es

/-- A request that the guard lets pass to the route of refreshes with its method, after so many redirections at
most. -/
inductive ComesToRefresh (s : Server) : Nat → Request → Prop where
  | straight {redirections : Nat} {r : Request} :
      s.stop? view r = none → Route.ofPath? r.path = some .refresh → r.method = Route.refresh.method →
      ComesToRefresh s redirections r
  | redirected {redirections : Nat} {r : Request} {path : List Char} :
      s.stop? view r = none → Route.ofPath? r.path = none → Route.redirection? r.path = some path →
      ComesToRefresh s redirections (r.redirected path) → ComesToRefresh s (redirections + 1) r

end Events

/-- An outcome that tells of no refresh and leaves the service as it is. -/
def Untouched (s : Server) (outcome : Response × Server) : Prop := outcome.1.IsOrdinary ∧ outcome.2 = s

section Answers

variable {view : PathView} {s : Server} {r : Request} {redirections : Nat}

theorem refresh_of_locked (h : s.locked = true) : s.refresh = (.because 409 "Refresh already running", s) := by
  rw [refresh, if_pos h]

theorem refresh_of_free (h : s.locked = false) :
    s.refresh = (.standing 202 "started", { s with locked := true, workers := s.workers ++ [.loading] }) := by
  rw [refresh, if_neg (by simp [h])]

theorem isOrdinary_showSnapshot (found : Except HistoryError (Option Snapshot)) (id : Option Int) (missing : String) :
    (showSnapshot found id missing).IsOrdinary := by
  unfold showSnapshot
  split
  · decide
  · exact ⟨nofun, nofun⟩
  · exact ⟨nofun, nofun⟩

theorem isOrdinary_showList (s : Server) (limit : Int) : (s.showList limit).IsOrdinary := by
  unfold showList
  split
  · decide
  · split
    · exact ⟨nofun, nofun⟩
    · decide

theorem isOrdinary_withInteger (place name text : String) {answer : Int → Response}
    (h : ∀ n, (answer n).IsOrdinary) : (withInteger place name text answer).IsOrdinary := by
  unfold withInteger
  split
  · exact h _
  · exact ⟨nofun, nofun⟩
  · decide

theorem isOrdinary_read (s : Server) (r : Request) (route : Route) : (s.read r route).IsOrdinary := by
  cases route with
  | page | health | refresh => exact ⟨nofun, nofun⟩
  | latest => exact isOrdinary_showSnapshot _ _ _
  | list =>
    simp only [read]
    split
    · exact isOrdinary_showList s _
    · exact isOrdinary_withInteger _ _ _ (isOrdinary_showList s)
  | byId id => exact isOrdinary_withInteger _ _ _ fun n => isOrdinary_showSnapshot _ _ _

theorem isOrdinary_of_stop? {a : Response} (h : s.stop? view r = some a) : a.IsOrdinary := by
  unfold stop? at h
  repeat' split at h
  all_goals cases h
  all_goals exact ⟨nofun, nofun⟩

theorem answer_of_not_accepts {route : Route} (h : route.accepts r.method = false) :
    s.answer r route = (.because 405 "Method Not Allowed", s) := by
  unfold answer
  rw [h, Bool.not_false, if_pos rfl]

theorem answer_refresh (h : r.method = Route.refresh.method) : s.answer r .refresh = s.refresh := by
  unfold answer
  rw [(Route.accepts_iff Route.noConfusion).mpr h, Bool.not_true, if_neg Bool.false_ne_true]

theorem answer_of_accepts {route : Route} (h : route.accepts r.method = true) (hrefresh : route ≠ .refresh) :
    s.answer r route = (s.read r route, s) := by
  unfold answer
  rw [h, Bool.not_true, if_neg Bool.false_ne_true]
  cases route with
  | refresh => exact absurd rfl hrefresh
  | page | health | latest | list | byId => rfl

/-- At any other route, or with another method, the service stays as it is. -/
theorem answer_of_ne {route : Route} (h : route = .refresh → r.method ≠ Route.refresh.method) :
    s.Untouched (s.answer r route) := by
  cases haccepts : route.accepts r.method with
  | false =>
    rw [answer_of_not_accepts haccepts]
    exact ⟨⟨nofun, nofun⟩, rfl⟩
  | true =>
    have hrefresh : route ≠ .refresh := by
      rintro rfl
      exact h rfl ((Route.accepts_iff Route.noConfusion).mp haccepts)
    rw [answer_of_accepts haccepts hrefresh]
    exact ⟨isOrdinary_read s r route, rfl⟩

/-- A request that comes to the route of refreshes is answered there. -/
theorem respondWithin_of_comesToRefresh (h : s.ComesToRefresh view redirections r) :
    s.respondWithin view redirections r = s.refresh := by
  induction h with
  | @straight redirections r hopen hroute hmethod =>
    cases redirections with
    | zero => simp only [respondWithin, respondOnce, hopen, hroute, answer_refresh hmethod]
    | succ redirections => simp only [respondWithin, respondOnce, hopen, hroute, answer_refresh hmethod]
  | redirected hopen hroute hpath _ ih => simp only [respondWithin, respondOnce, hopen, hroute, hpath, ih]

theorem respondOnce_of_not_refresh {follow : Request → Response × Server}
    (hroute : s.stop? view r = none → Route.ofPath? r.path = some .refresh → r.method ≠ Route.refresh.method)
    (hfollow : s.stop? view r = none → Route.ofPath? r.path = none → ∀ path,
      Route.redirection? r.path = some path → s.Untouched (follow (r.redirected path))) :
    s.Untouched (s.respondOnce view r follow) := by
  unfold respondOnce
  cases hopen : s.stop? view r with
  | some a => exact ⟨isOrdinary_of_stop? hopen, rfl⟩
  | none =>
    dsimp only
    split
    · rename_i route hpath
      exact answer_of_ne fun h => hroute hopen (h ▸ hpath)
    · rename_i hpath
      split
      · exact ⟨⟨nofun, nofun⟩, rfl⟩
      · exact hfollow hopen hpath _ (by assumption)

theorem respondWithin_of_not_comesToRefresh (h : ¬ s.ComesToRefresh view redirections r) :
    s.Untouched (s.respondWithin view redirections r) := by
  induction redirections generalizing r with
  | zero =>
    apply respondOnce_of_not_refresh
    · exact fun hopen hroute hmethod => h (.straight hopen hroute hmethod)
    · exact fun _ _ _ _ => ⟨⟨nofun, nofun⟩, rfl⟩
  | succ redirections ih =>
    apply respondOnce_of_not_refresh
    · exact fun hopen hroute hmethod => h (.straight hopen hroute hmethod)
    · exact fun hopen hroute path hpath => ih fun hnext => h (.redirected hopen hroute hpath hnext)

theorem respond_of_comesToRefresh (h : s.ComesToRefresh view maxRedirections r) : s.respond view r = s.refresh :=
  respondWithin_of_comesToRefresh h

theorem respond_of_not_comesToRefresh (h : ¬ s.ComesToRefresh view maxRedirections r) :
    s.Untouched (s.respond view r) :=
  respondWithin_of_not_comesToRefresh h

theorem request_of_not_comesToRefresh (h : ¬ s.ComesToRefresh view maxRedirections r) :
    s.after view (.request r) = s ∧ s.marks view (.request r) = [] := by
  obtain ⟨⟨hstatus, _⟩, hsame⟩ := respond_of_not_comesToRefresh h
  exact ⟨hsame, if_neg hstatus⟩

/-- While the lock is held no request changes anything. -/
theorem request_of_locked (h : s.locked = true) (r : Request) :
    s.after view (.request r) = s ∧ s.marks view (.request r) = [] := by
  by_cases hcomes : s.ComesToRefresh view maxRedirections r
  · have hrespond : s.respond view r = (.because 409 "Refresh already running", s) :=
      (respond_of_comesToRefresh hcomes).trans (refresh_of_locked h)
    have hstatus : ¬ (s.respond view r).1.status = 202 := by
      rw [hrespond]
      exact nofun
    exact ⟨congrArg Prod.snd hrespond, if_neg hstatus⟩
  · exact request_of_not_comesToRefresh hcomes

/-- A request changes nothing, or it starts a worker while the lock is free. -/
theorem request_cases (view : PathView) (s : Server) (r : Request) :
    (s.after view (.request r) = s ∧ s.marks view (.request r) = []) ∨
    (s.locked = false ∧ s.after view (.request r) = { s with locked := true, workers := s.workers ++ [.loading] } ∧
      s.marks view (.request r) = [.started]) := by
  by_cases hcomes : s.ComesToRefresh view maxRedirections r
  · cases hlocked : s.locked with
    | true => exact .inl (request_of_locked hlocked r)
    | false =>
      have hrespond := (respond_of_comesToRefresh hcomes).trans (refresh_of_free hlocked)
      have hstatus : (s.respond view r).1.status = 202 := by
        rw [hrespond]
        rfl
      exact .inr ⟨rfl, congrArg Prod.snd hrespond, if_pos hstatus⟩
  · exact .inl (request_of_not_comesToRefresh hcomes)

end Answers

section Steps

variable {view : PathView} {s : Server} {stage next : Stage} {position : Nat} {step : WorkerStep}

theorem after?_releasing : Stage.after? .releasing step = none := by
  cases step with
  | loads | runs | saves | releases => rfl

theorem stepsLeft_of_after? (h : Stage.after? stage step = some next) : next.stepsLeft < stage.stepsLeft := by
  unfold Stage.after? at h
  split at h
  · rename_i ok
    cases ok <;> cases h <;> decide
  · cases h
    exact Nat.lt_succ_self 2
  · cases h
    decide
  · cases h
    exact Nat.lt_succ_self 1
  · cases h

/-- What a step of a worker does: nothing, or it lets the lock go at the last stage, or it comes to the next one. -/
theorem work_cases (view : PathView) (s : Server) (position : Nat) (step : WorkerStep) :
    (s.advance position step = s ∧ s.marks view (.work position step) = []) ∨
    (s.workers[position]? = some .releasing ∧
      s.advance position step = { s with locked := false, workers := s.workers.eraseIdx position } ∧
      s.marks view (.work position step) = [.made .releases]) ∨
    ∃ stage next, s.workers[position]? = some stage ∧ Stage.after? stage step = some next ∧
      s.advance position step =
        { s with history := historyAfter s.history stage step, workers := s.workers.set position next } ∧
      s.marks view (.work position step) = [.made step] := by
  cases hworker : s.workers[position]? with
  | none => exact .inl (by simp [advance, marks, hworker])
  | some stage =>
    cases hnext : Stage.after? stage step with
    | some next =>
      refine .inr (.inr ⟨stage, next, rfl, hnext, ?_⟩)
      cases stage with
      | releasing => rw [after?_releasing] at hnext; cases hnext
      | loading | running | saving => simp [advance, marks, hworker, hnext]
    | none =>
      cases stage with
      | loading | running | saving => exact .inl (by simp [advance, marks, hworker, hnext])
      | releasing =>
        cases step with
        | releases => exact .inr (.inl (by simp [advance, marks, hworker]))
        | loads | runs | saves => exact .inl (by simp [advance, marks, hworker, Stage.after?])

theorem marks_of_makes (hworkers : s.workers = [stage]) (h : stage.Makes step) :
    s.marks view (.work 0 step) = [.made step] := by
  cases h with
  | loads | saves | releases => simp [marks, hworkers, Stage.after?]
  | runs found => cases found <;> simp [marks, hworkers, Stage.after?]

/-- An event leaves the one worker and its lock alone, or is the release, or is a step behind which fewer are left. -/
theorem after_cases (view : PathView) (hworkers : s.workers = [stage]) (hlocked : s.locked = true) (e : Event) :
    (s.after view e = s ∧ s.marks view e = []) ∨ .made .releases ∈ s.marks view e ∨
    ∃ step next, s.marks view e = [.made step] ∧ Stage.stepsLeft next < stage.stepsLeft ∧
      (s.after view e).workers = [next] ∧ (s.after view e).locked = true := by
  cases e with
  | request r => exact .inl (request_of_locked hlocked r)
  | work position step =>
    rcases s.work_cases view position step with hnothing | ⟨_, _, hmarks⟩ |
      ⟨stage', next, hworker, hnext, hadvance, hmarks⟩
    · exact .inl hnothing
    · exact .inr (.inl (hmarks ▸ List.mem_singleton_self _))
    · rw [hworkers] at hworker
      cases position with
      | succ position => cases hworker
      | zero =>
        obtain rfl : stage = stage' := Option.some.inj hworker
        refine .inr (.inr ⟨step, next, hmarks, stepsLeft_of_after? hnext, ?_, ?_⟩)
        · rw [after, hadvance, hworkers]
          rfl
        · rw [after, hadvance]
          exact hlocked

/-- A worker that makes the steps it has left lets the lock go, however they come out and whatever comes between. -/
theorem released_of_stepsLeft (hworkers : s.workers = [stage]) (hlocked : s.locked = true) {es : List Event}
    (h : stage.stepsLeft ≤ ((s.journal view es).filterMap Mark.step?).length) :
    .made .releases ∈ s.journal view es := by
  induction es generalizing s stage with
  | nil =>
    have hpos := stage.stepsLeft_pos
    rw [journal, List.filterMap_nil, List.length_nil] at h
    omega
  | cons e es ih =>
    rw [journal, List.filterMap_append, List.length_append] at h
    rw [journal, List.mem_append]
    rcases after_cases view hworkers hlocked e with ⟨hsame, hmarks⟩ | hreleased |
      ⟨step, next, hmarks, hless, hworkers', hlocked'⟩
    · rw [hsame, hmarks] at h
      rw [hsame]
      exact .inr (ih hworkers hlocked (by simpa using h))
    · exact .inl hreleased
    · rw [hmarks] at h
      have hone : ([Mark.made step].filterMap Mark.step?).length = 1 := rfl
      exact .inr (ih hworkers' hlocked' (by omega))

end Steps

end Server

section Histories

variable {h h' : History} {steps : List WorkerStep} {stage next : Stage} {step : WorkerStep} {found : Snapshot}

theorem Progress.after? (hsteps : Progress steps stage) (hnext : Stage.after? stage step = some next) :
    Progress (steps ++ [step]) next := by
  cases hsteps with
  | started =>
    cases step with
    | loads ok =>
      cases ok with
      | true => cases hnext; exact .loaded
      | false => cases hnext; exact .unloaded
    | runs | saves | releases => cases hnext
  | loaded =>
    cases step with
    | runs outcome =>
      cases outcome with
      | some found => cases hnext; exact .found found
      | none => cases hnext; exact .broken
    | loads | saves | releases => cases hnext
  | found found =>
    cases step with
    | saves ok => cases hnext; exact .saved found ok
    | loads | runs | releases => cases hnext
  | unloaded | broken | saved => rw [after?_releasing] at hnext; cases hnext

theorem Leaves.eq_of_progress (hleaves : Leaves h steps h') (hsteps : Progress steps stage)
    (hstage : stage ≠ .releasing) : h' = h := by
  cases hleaves with
  | same => rfl
  | row => cases hsteps with
    | saved => exact absurd rfl hstage

theorem historyAfter_of_ne (h : History) (stage : Stage) (hstep : step ≠ .saves true) :
    historyAfter h stage step = h := by
  unfold historyAfter
  split
  · exact absurd rfl hstep
  · rfl

/-- What saving a snapshot leaves: its row, where it can be written and a number is left. -/
theorem leaves_save (h : History) (found : Snapshot) :
    Leaves h (succeeding found) (historyAfter h (.saving found) (.saves true)) := by
  by_cases hsaved : found.isWritable = true ∧ h.lastId < HistoryRow.maxId
  · obtain ⟨hwritable, hroom⟩ := hsaved
    rw [historyAfter, History.save_eq_ok_iff.mpr ⟨hwritable, hroom, rfl, rfl⟩]
    exact .row hwritable hroom rfl rfl
  · cases hsave : h.save found with
    | ok saved =>
      obtain ⟨hwritable, hroom, _⟩ := History.save_eq_ok_iff.mp hsave
      exact absurd ⟨hwritable, hroom⟩ hsaved
    | error e =>
      rw [historyAfter, hsave]
      refine .same fun other hother => ?_
      obtain rfl : found = other := by simpa [succeeding] using hother
      exact hsaved

/-- A step of a worker leaves of the history what its steps up to this one tell. -/
theorem leaves_historyAfter (hsteps : Progress steps stage) (hnext : Stage.after? stage step = some next) :
    Leaves h (steps ++ [step]) (historyAfter h stage step) := by
  by_cases hstep : step = .saves true
  · subst hstep
    cases hsteps with
    | found found => exact leaves_save h found
    | started | loaded => cases hnext
    | unloaded | broken | saved => rw [after?_releasing] at hnext; cases hnext
  · rw [historyAfter_of_ne h stage hstep]
    refine .same fun found hsucceeding => absurd ?_ hstep
    have hlast : steps ++ [step] = [.loads true, .runs (some found)] ++ [.saves true] := hsucceeding
    exact (List.cons.inj (List.append_inj' hlast rfl).2).1

theorem Leaves.rows_suffix (hleaves : Leaves h steps h') : h.rows <:+ h'.rows := by
  cases hleaves with
  | row _ _ hrows => exact hrows ▸ List.suffix_cons _ _
  | same => exact List.suffix_refl _

theorem rows_suffix_historyAfter (h : History) (stage : Stage) (step : WorkerStep) :
    h.rows <:+ (historyAfter h stage step).rows := by
  by_cases hstep : step = .saves true
  · subst hstep
    cases stage with
    | saving found => exact (leaves_save h found).rows_suffix
    | loading | running | releasing => exact List.suffix_refl _
  · have hsame := congrArg History.rows (historyAfter_of_ne h stage hstep)
    exact hsame ▸ List.suffix_refl _

end Histories

namespace Server

variable {view : PathView} {s : Server}

theorem rows_suffix_after (s : Server) (e : Event) : s.history.rows <:+ (s.after view e).history.rows := by
  have hkept {s' : Server} (h : s'.history = s.history) : s.history.rows <:+ s'.history.rows := h ▸ List.suffix_refl _
  cases e with
  | request r =>
    rcases s.request_cases view r with ⟨hafter, _⟩ | ⟨_, hafter, _⟩
    · exact hkept (congrArg Server.history hafter :)
    · exact hkept (congrArg Server.history hafter :)
  | work position step =>
    rcases s.work_cases view position step with ⟨hadvance, _⟩ | ⟨_, hadvance, _⟩ | ⟨stage, _, _, _, hadvance, _⟩
    · exact hkept (congrArg Server.history hadvance :)
    · exact hkept (congrArg Server.history hadvance :)
    · rw [after, hadvance]
      exact rows_suffix_historyAfter s.history stage step

theorem rows_suffix_afterAll (s : Server) (es : List Event) :
    s.history.rows <:+ (s.afterAll view es).history.rows := by
  induction es generalizing s with
  | nil => exact List.suffix_refl _
  | cons e es ih => exact (s.rows_suffix_after e).trans (ih (s.after view e))

/-- A worker alone that has just started comes to its end, and leaves what its steps tell. -/
theorem advanceAll_wholeRun (hworkers : s.workers = [.loading]) (outcome : Option Snapshot) :
    (s.advanceAll 0 (wholeRun outcome)).workers = [] ∧ (s.advanceAll 0 (wholeRun outcome)).locked = false ∧
      Leaves s.history (wholeRun outcome).dropLast (s.advanceAll 0 (wholeRun outcome)).history := by
  obtain ⟨key, history, locked, workers⟩ := s
  obtain rfl : workers = [.loading] := hworkers
  cases outcome with
  | some found => exact ⟨rfl, rfl, leaves_save history found⟩
  | none => exact ⟨rfl, rfl, .same nofun⟩

end Server

namespace InTurn

variable {view : PathView} {h : History} {s : Server} {turns : List Mark}

theorem workers_eq (hturns : InTurn h turns s) {position : Nat} {stage : Stage}
    (hworker : s.workers[position]? = some stage) : position = 0 ∧ s.workers = [stage] := by
  cases hturns with
  | idle => cases hworker
  | working =>
    cases position with
    | zero => exact ⟨rfl, congrArg (fun stage => [stage]) (Option.some.inj hworker)⟩
    | succ position => cases hworker

/-- What one event leaves of the rounds. -/
theorem after (hturns : InTurn h turns s) (e : Event) : InTurn h (turns ++ s.marks view e) (s.after view e) := by
  have hsame (hafter : s.after view e = s) (hmarks : s.marks view e = []) :
      InTurn h (turns ++ s.marks view e) (s.after view e) := by
    rw [hafter, hmarks, List.append_nil]
    exact hturns
  cases e with
  | request r =>
    rcases s.request_cases view r with ⟨hafter, hmarks⟩ | ⟨hfree, hafter, hmarks⟩
    · exact hsame hafter hmarks
    · rw [hafter, hmarks]
      cases hturns with
      | idle hrounds => exact .working hrounds .started (.same nofun)
      | working => cases hfree
  | work position step =>
    rcases s.work_cases view position step with ⟨hadvance, hmarks⟩ | ⟨hworker, hadvance, hmarks⟩ |
      ⟨stage, next, hworker, hnext, hadvance, hmarks⟩
    · exact hsame hadvance hmarks
    · obtain ⟨rfl, hworkers⟩ := hturns.workers_eq hworker
      rw [Server.after, hadvance, hmarks]
      cases hturns with
      | idle => cases hworkers
      | @working rounds steps stage key before history hrounds hsteps hleaves =>
        obtain rfl : stage = .releasing := (List.cons.inj hworkers).1
        have hround : (rounds ++ [steps]).flatMap round =
            rounds.flatMap round ++ .started :: steps.map .made ++ [.made .releases] := by
          simp [round]
        exact hround ▸ .idle (.next hrounds hsteps hleaves)
    · obtain ⟨rfl, hworkers⟩ := hturns.workers_eq hworker
      rw [Server.after, hadvance, hmarks]
      cases hturns with
      | idle => cases hworkers
      | @working rounds steps stage' key before history hrounds hsteps hleaves =>
        obtain rfl : stage' = stage := (List.cons.inj hworkers).1
        have hstage : stage' ≠ .releasing := by
          rintro rfl
          rw [after?_releasing] at hnext
          cases hnext
        obtain rfl : history = before := hleaves.eq_of_progress hsteps hstage
        have hmarks' : rounds.flatMap round ++ .started :: steps.map .made ++ [.made step] =
            rounds.flatMap round ++ .started :: (steps ++ [step]).map .made := by
          simp
        exact hmarks' ▸ .working hrounds (hsteps.after? hnext) (leaves_historyAfter hsteps hnext)

/-- What any events leave of the rounds. -/
theorem afterAll (view : PathView) (hturns : InTurn h turns s) (es : List Event) :
    InTurn h (turns ++ s.journal view es) (s.afterAll view es) := by
  induction es generalizing s turns with
  | nil =>
    rw [journal, List.append_nil]
    exact hturns
  | cons e es ih =>
    rw [journal, ← List.append_assoc]
    exact ih (hturns.after e)

theorem locked_iff (hturns : InTurn h turns s) : s.locked = true ↔ s.workers ≠ [] := by
  cases hturns with
  | idle => exact iff_of_false nofun fun h => h rfl
  | working => exact iff_of_true rfl nofun

theorem exists_workers_eq (hturns : InTurn h turns s) (hworkers : s.workers ≠ []) : ∃ stage, s.workers = [stage] := by
  cases hturns with
  | idle => exact absurd rfl hworkers
  | working => exact ⟨_, rfl⟩

/-- Behind a release the lock is free and no worker is there. -/
theorem idle_of_released (hturns : InTurn h turns s) {e : Event} (hreleased : .made .releases ∈ s.marks view e) :
    (s.after view e).locked = false ∧ (s.after view e).workers = [] := by
  cases e with
  | request r =>
    rcases s.request_cases view r with ⟨_, hmarks⟩ | ⟨_, _, hmarks⟩
    · rw [hmarks] at hreleased
      cases hreleased
    · rw [hmarks] at hreleased
      cases List.mem_singleton.mp hreleased
  | work position step =>
    rcases s.work_cases view position step with ⟨_, hmarks⟩ | ⟨hworker, hadvance, _⟩ | ⟨stage, _, _, hnext, _, hmarks⟩
    · rw [hmarks] at hreleased
      cases hreleased
    · obtain ⟨rfl, hworkers⟩ := hturns.workers_eq hworker
      rw [Server.after, hadvance, hworkers]
      exact ⟨rfl, rfl⟩
    · rw [hmarks] at hreleased
      obtain rfl : WorkerStep.releases = step := Mark.made.inj (List.mem_singleton.mp hreleased)
      cases stage with
      | loading | running | saving | releasing => cases hnext

end InTurn

/-- What holds of a service, whose history was `h` in the beginning, behind the events of a journal. -/
structure RefreshesInTurn (view : PathView) (h : History) (turns : List Mark) (s : Server) : Prop where
  single : s.workers.length ≤ 1
  lock : s.locked = true ↔ s.workers ≠ []
  inTurn : InTurn h turns s
  refused : ∀ r, s.ComesToRefresh view maxRedirections r → s.workers ≠ [] →
    s.respond view r = (.because 409 "Refresh already running", s)
  started : ∀ r, s.ComesToRefresh view maxRedirections r → s.workers = [] →
    s.respond view r = (.standing 202 "started", { s with locked := true, workers := [.loading] })
  others : ∀ r, ¬ s.ComesToRefresh view maxRedirections r → s.Untouched (s.respond view r)
  moves : ∀ stage, s.workers = [stage] → ∀ step, stage.Makes step → s.marks view (.work 0 step) = [.made step]
  releases : ∀ later, s.workers ≠ [] → 4 ≤ ((s.journal view later).filterMap Mark.step?).length →
    .made .releases ∈ s.journal view later
  freed : ∀ e, .made .releases ∈ s.marks view e → (s.after view e).locked = false ∧ (s.after view e).workers = []
  whole : s.workers = [.loading] → ∀ outcome, let s' := s.advanceAll 0 (wholeRun outcome)
    s'.workers = [] ∧ s'.locked = false ∧ Leaves s.history (wholeRun outcome).dropLast s'.history
  kept : ∀ later, s.history.rows <:+ (s.afterAll view later).history.rows

/-- However requests and the steps of workers come one after the other, and whichever steps fail: one worker at a time
is there and holds the lock, a request for a refresh is refused while it does and else starts the next one, every
worker lets the lock go with the last of its steps, of which there are four at most, and the history has one new row for
each worker that loaded, found and saved a snapshot. -/
theorem refreshes_in_turn (view : PathView) (key : String) (h : History) (es : List Event) :
    RefreshesInTurn view h (Server.journal view { Server.start key with history := h } es)
      (Server.afterAll view { Server.start key with history := h } es) := by
  have hbegin : InTurn h [] { Server.start key with history := h } := .idle .none
  have hturns := hbegin.afterAll view es
  rw [List.nil_append] at hturns
  generalize Server.afterAll view { Server.start key with history := h } es = s at hturns
  constructor
  · by_cases hworkers : s.workers = []
    · rw [hworkers]
      exact Nat.zero_le 1
    · obtain ⟨stage, hstage⟩ := hturns.exists_workers_eq hworkers
      rw [hstage]
      exact Nat.le_refl 1
  · exact hturns.locked_iff
  · exact hturns
  · intro r hcomes hworkers
    exact (respond_of_comesToRefresh hcomes).trans (refresh_of_locked (hturns.locked_iff.mpr hworkers))
  · intro r hcomes hworkers
    have hfree : s.locked = false := by
      rw [← Bool.not_eq_true, hturns.locked_iff]
      exact not_not_intro hworkers
    rw [respond_of_comesToRefresh hcomes, refresh_of_free hfree, hworkers]
    rfl
  · exact fun r hcomes => respond_of_not_comesToRefresh hcomes
  · exact fun stage hstage step => marks_of_makes hstage
  · intro later hworkers hsteps
    obtain ⟨stage, hstage⟩ := hturns.exists_workers_eq hworkers
    exact released_of_stepsLeft hstage (hturns.locked_iff.mpr hworkers) (stage.stepsLeft_le.trans hsteps)
  · exact fun e hreleased => hturns.idle_of_released hreleased
  · exact fun hworkers outcome => advanceAll_wholeRun hworkers outcome
  · exact s.rows_suffix_afterAll

def plainView : PathView := fun r => some r.path

def refreshRequest : Request := ⟨.post, "/api/v1/refresh", []⟩

/-- A refresh that saves what it found, while a second one is asked for, and behind it one that cannot load the
configuration. -/
def sampleEvents : List Event :=
  [.request refreshRequest, .work 0 (.loads true), .request refreshRequest,
    .work 0 (.runs (some (History.sampleSnapshot 1))), .work 0 (.saves true), .work 0 .releases,
    .request refreshRequest, .work 0 (.loads false), .work 0 .releases]

theorem comesToRefresh_refreshRequest {s : Server} (hkey : s.key = "") :
    s.ComesToRefresh plainView maxRedirections refreshRequest :=
  .straight (by simp [stop?, hkey]) (by decide +kernel) rfl

theorem refreshes_in_turn_sample :
    ∃ h, h.rows = [HistoryRow.ofSnapshot (History.sampleSnapshot 1) 1] ∧
      Server.afterAll plainView (Server.start "") sampleEvents = ⟨"", h, false, []⟩ ∧
      RefreshesInTurn plainView .empty (round (succeeding (History.sampleSnapshot 1)) ++ round [.loads false])
        ⟨"", h, false, []⟩ := by
  have hstarts (h : History) : Server.respond plainView ⟨"", h, false, []⟩ refreshRequest =
      (.standing 202 "started", ⟨"", h, true, [.loading]⟩) :=
    (respond_of_comesToRefresh (comesToRefresh_refreshRequest rfl)).trans (refresh_of_free rfl)
  have hrefuses (h : History) (stage : Stage) : Server.respond plainView ⟨"", h, true, [stage]⟩ refreshRequest =
      (.because 409 "Refresh already running", ⟨"", h, true, [stage]⟩) :=
    (respond_of_comesToRefresh (comesToRefresh_refreshRequest rfl)).trans (refresh_of_locked rfl)
  have hwritable : (History.sampleSnapshot 1).isWritable = true := by decide +kernel
  have hroom : History.empty.lastId < HistoryRow.maxId := by decide
  have hleaves := leaves_save .empty (History.sampleSnapshot 1)
  generalize hsaved : historyAfter .empty (.saving (History.sampleSnapshot 1)) (.saves true) = h at hleaves
  have hafter : Server.afterAll plainView (Server.start "") sampleEvents = ⟨"", h, false, []⟩ := by
    simp [sampleEvents, Server.afterAll, Server.after, start, hstarts, hrefuses, advance, Stage.after?,
      historyAfter_of_ne, hsaved]
  have hjournal : Server.journal plainView (Server.start "") sampleEvents =
      round (succeeding (History.sampleSnapshot 1)) ++ round [.loads false] := by
    simp [sampleEvents, journal, marks, Server.after, start, hstarts, hrefuses, advance, Stage.after?,
      historyAfter_of_ne, hsaved, round, succeeding, Response.status, Response.standing, Response.because]
  refine ⟨h, ?_, hafter, ?_⟩
  · cases hleaves with
    | row _ _ hrows => exact hrows
    | same hfailed => exact absurd ⟨hwritable, hroom⟩ (hfailed _ rfl)
  · rw [← hafter, ← hjournal]
    exact refreshes_in_turn plainView "" .empty sampleEvents

end CertInventory.Service

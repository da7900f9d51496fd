import CertInventory.Outside.Failure

/-!
Tasks that talk to the outside. A task changes a state and ends with a result or a fault; what it did before a fault
stays done.
-/

namespace CertInventory

/-- A task over a state. -/
abbrev Task (σ α : Type) := ExceptT Fault (StateM σ) α

namespace Task

variable {σ α β : Type}

@[simp] theorem run_pure (a : α) (s : σ) : (pure a : Task σ α).run s = (.ok a, s) := rfl

@[simp] theorem run_throw (f : Fault) (s : σ) : (throw f : Task σ α).run s = (.error f, s) := rfl

/-- What comes behind a step starts where the step ended, unless the step broke the task off. -/
theorem run_bind (t : Task σ α) (g : α → Task σ β) (s : σ) :
    (t >>= g).run s =
      match t.run s with
      | (.ok a, s') => (g a).run s'
      | (.error f, s') => (.error f, s') := by
  show (ExceptT.bindCont g (t s).1) (t s).2 = _
  simp only [ExceptT.run]
  split <;> rename_i h <;> rw [h] <;> rfl

theorem run_bind_ok {t : Task σ α} {s s' : σ} {a : α} (h : t.run s = (.ok a, s')) (g : α → Task σ β) :
    (t >>= g).run s = (g a).run s' := by
  rw [run_bind, h]

theorem run_bind_error {t : Task σ α} {s s' : σ} {f : Fault} (h : t.run s = (.error f, s')) (g : α → Task σ β) :
    (t >>= g).run s = (.error f, s') := by
  rw [run_bind, h]

theorem run_bind_eq_ok_iff {t : Task σ α} {g : α → Task σ β} {s s'' : σ} {b : β} :
    (t >>= g).run s = (.ok b, s'') ↔ ∃ a s', t.run s = (.ok a, s') ∧ (g a).run s' = (.ok b, s'') := by
  rw [run_bind]
  rcases t.run s with ⟨f | a, s'⟩
  · exact ⟨nofun, nofun⟩
  · constructor
    · intro h
      exact ⟨a, s', rfl, h⟩
    · rintro ⟨_, _, ⟨⟩, h⟩
      exact h

def ofDecoding (r : Except DecodeFault α) : Task σ α := fun s => (r.mapError Fault.decode, s)

theorem run_ofDecoding (r : Except DecodeFault α) (s : σ) :
    (ofDecoding r : Task σ α).run s = (r.mapError Fault.decode, s) := rfl

def catching (isCaught : Fault → Bool) (t : Task σ α) : Task σ (Except Fault α) := fun s =>
  match t s with
  | (.ok a, s') => (.ok (.ok a), s')
  | (.error f, s') => if isCaught f then (.ok (.error f), s') else (.error f, s')

theorem run_catching (isCaught : Fault → Bool) (t : Task σ α) (s : σ) :
    (t.catching isCaught).run s =
      match t.run s with
      | (.ok a, s') => (.ok (.ok a), s')
      | (.error f, s') => if isCaught f then (.ok (.error f), s') else (.error f, s') := rfl

end Task

end CertInventory

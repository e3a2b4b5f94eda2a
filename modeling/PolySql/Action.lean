import PolySql.Error

/-!
# Actions

An action works on a state and may fail; what it did before it failed stays done.  `Action.exec` is
the meaning of an action: its outcome and the state afterwards, for every state before it.  The
lemmas beside each operation give its meaning, so that it need not be unfolded.
-/

namespace PolySql

variable {σ α β : Type}

/-- A computation on a state that may fail; what it did before it failed stays done. -/
abbrev Action (σ : Type) := ExceptT Error (StateM σ)

namespace Action

/-- The outcome of an action, and the state afterwards. -/
def exec (act : Action σ α) (s : σ) : Except Error α × σ :=
  act.run.run s

/-- An action that cannot fail. -/
def perform (act : StateM σ α) : Action σ α :=
  ExceptT.lift act

/-- An outcome that is known without looking at the state. -/
def ofExcept (outcome : Except Error α) : Action σ α :=
  ExceptT.mk (pure outcome)

/-- The outcome of an action as a value, so that a failure does not end what follows. -/
def attempt (act : Action σ α) : Action σ (Except Error α) :=
  perform act.run

/-! ### Meaning -/

@[simp] theorem exec_pure (a : α) (s : σ) : exec (pure a : Action σ α) s = (.ok a, s) := rfl

@[simp] theorem exec_throw (e : Error) (s : σ) :
    exec (throw e : Action σ α) s = (.error e, s) := rfl

/-- What follows a failure is not done. -/
@[simp] theorem exec_bind (act : Action σ α) (next : α → Action σ β) (s : σ) :
    exec (act >>= next) s =
      match exec act s with
      | (.ok a, after) => exec (next a) after
      | (.error e, after) => (.error e, after) := by
  simp only [exec, ExceptT.run_bind, StateT.run_bind]
  rcases act.run.run s with ⟨_ | _, _⟩ <;> rfl

@[simp] theorem exec_map (f : α → β) (act : Action σ α) (s : σ) :
    exec (f <$> act) s = ((exec act s).1.map f, (exec act s).2) := by
  rw [map_eq_pure_bind, exec_bind]
  rcases exec act s with ⟨_ | _, _⟩ <;> rfl

/-- A failure is handled in the state that it leaves behind. -/
@[simp] theorem exec_tryCatch (act : Action σ α) (handle : Error → Action σ α) (s : σ) :
    exec (tryCatch act handle) s =
      match exec act s with
      | (.ok a, after) => (.ok a, after)
      | (.error e, after) => exec (handle e) after := by
  simp only [exec, ExceptT.run_tryCatch, StateT.run_bind]
  rcases act.run.run s with ⟨_ | _, _⟩ <;> rfl

@[simp] theorem exec_perform (act : StateM σ α) (s : σ) :
    exec (perform act) s = (.ok (act.run s).1, (act.run s).2) := rfl

@[simp] theorem exec_ofExcept (outcome : Except Error α) (s : σ) :
    exec (ofExcept outcome : Action σ α) s = (outcome, s) := rfl

@[simp] theorem exec_attempt (act : Action σ α) (s : σ) :
    exec act.attempt s = (.ok (exec act s).1, (exec act s).2) := rfl

end Action

end PolySql

import PolySql.Backend

/-!
# Sessions

A session is what a program does with a backend: it acts on the backend's state, numbers its
transactions, and may leave connections to the background, which rolls them back and then hands them
back (`Session.settle`).
-/

namespace PolySql

variable {σ κ α : Type}

/-- The state of a program that uses a backend. -/
structure World (σ κ : Type) where
  /-- The state of the backend. -/
  backend : σ
  /-- The number of transactions that there have been, those that failed to begin included. -/
  begun : Nat := 0
  /-- The connections that the background still has to roll back. -/
  abandoned : List κ := []

/-- A computation on a world that may fail. -/
abbrev Session (σ κ : Type) := Action (World σ κ)

namespace Session

/-! ### Operations -/

/-- Act on the backend. -/
def onBackend (act : StateM σ α) : StateM (World σ κ) α := fun w =>
  let (a, s) := act.run w.backend
  (a, { w with backend := s })

/-- Act on the backend and fail if the action fails. -/
def lift (act : Action σ α) : Session σ κ α :=
  ExceptT.mk (onBackend act.run)

/-- Act on the backend; the action cannot fail. -/
def perform (act : StateM σ α) : Session σ κ α :=
  Action.perform (onBackend act)

/-- The number of a new transaction.  The first one is 1. -/
def nextId : Session σ κ Nat :=
  Action.perform (modifyGet fun w => (w.begun + 1, { w with begun := w.begun + 1 }))

/-- Leave a connection to the background. -/
def abandon (c : κ) : Session σ κ Unit :=
  Action.perform (modify fun w => { w with abandoned := w.abandoned ++ [c] })

/-! ### Meaning -/

@[simp] theorem exec_lift (act : Action σ α) (w : World σ κ) :
    (lift act).exec w =
      ((act.exec w.backend).1, { w with backend := (act.exec w.backend).2 }) := rfl

@[simp] theorem exec_perform (act : StateM σ α) (w : World σ κ) :
    (perform act).exec w =
      (.ok (act.run w.backend).1, { w with backend := (act.run w.backend).2 }) := rfl

@[simp] theorem exec_nextId (w : World σ κ) :
    (nextId : Session σ κ Nat).exec w = (.ok (w.begun + 1), { w with begun := w.begun + 1 }) :=
  rfl

@[simp] theorem exec_abandon (c : κ) (w : World σ κ) :
    (abandon c : Session σ κ Unit).exec w =
      (.ok (), { w with abandoned := w.abandoned ++ [c] }) := rfl

end Session

/-! ### The background -/

namespace Backend

/-- Roll an abandoned connection back and hand it back. -/
def recover (b : Backend σ κ) (c : κ) : StateM σ Unit := do
  match ← b.rollback c with
  | .ok _ => b.release c
  | .error _ => b.destroy c

end Backend

namespace Session

/-- Let the background finish its work. -/
def settle (b : Backend σ κ) : StateM (World σ κ) Unit := do
  let w ← get
  onBackend (w.abandoned.forM b.recover)
  modify fun w => { w with abandoned := [] }

end Session

end PolySql

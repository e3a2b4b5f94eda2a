import PolySql.Action
import PolySql.Binding
import PolySql.Response

/-!
# Backends

A backend is a pool of connections to one database, as its three operations on the pool and four on
a connection show it: every operation may look at and change the state `σ` of the database and the
pool, and every outcome is possible.  Connections are known by handles of a type `κ`.
-/

namespace PolySql

/-- A call on a connection. -/
inductive Call where
  | begin
  | commit
  | rollback
  | execute (sql : String) (params : List Param)

/-- A pool of connections to a database with state `σ`, known by handles in `κ`. -/
structure Backend (σ κ : Type) where
  /-- Check a connection out. -/
  acquire : StateM σ (Except Error κ)
  /-- Hand a healthy connection back. -/
  release : κ → StateM σ Unit
  /-- Discard a connection that can no longer be trusted. -/
  destroy : κ → StateM σ Unit
  /-- Open a transaction. -/
  begin : κ → StateM σ (Except DriverError Unit)
  commit : κ → StateM σ (Except DriverError Unit)
  rollback : κ → StateM σ (Except DriverError Unit)
  /-- Run a statement. -/
  execute : κ → String → List Param → StateM σ (Except DriverError Response)

namespace Backend

variable {σ κ : Type}

/-- Check a connection out, or fail. -/
def checkout (b : Backend σ κ) : Action σ κ :=
  ExceptT.mk b.acquire

/-- Run a statement, or fail with the statement's text beside the engine's report. -/
def dispatch (b : Backend σ κ) (c : κ) (sql : String) (params : List Param) :
    Action σ Response :=
  ExceptT.mk do
    match ← b.execute c sql params with
    | .ok response => pure (.ok response)
    | .error report => pure (.error (.statement sql report))

/-- Make a call; a statement's response is its answer, the other calls have none. -/
def call (b : Backend σ κ) (c : κ) : Call → StateM σ (Except DriverError (Option Response))
  | .begin => do return (← b.begin c).map fun _ => none
  | .commit => do return (← b.commit c).map fun _ => none
  | .rollback => do return (← b.rollback c).map fun _ => none
  | .execute sql params => do return (← b.execute c sql params).map some

@[simp] theorem exec_checkout (b : Backend σ κ) (s : σ) : b.checkout.exec s = b.acquire.run s :=
  rfl

theorem exec_dispatch (b : Backend σ κ) (c : κ) (sql : String) (params : List Param) (s : σ) :
    (b.dispatch c sql params).exec s =
      match (b.execute c sql params).run s with
      | (.ok response, after) => (.ok response, after)
      | (.error report, after) => (.error (.statement sql report), after) := by
  simp only [Action.exec, dispatch, ExceptT.run_mk, StateT.run_bind]
  rcases (b.execute c sql params).run s with ⟨_ | _, _⟩ <;> rfl

end Backend

end PolySql

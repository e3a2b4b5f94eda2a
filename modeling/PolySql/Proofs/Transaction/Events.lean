import PolySql.Proofs.Transaction.Body

/-!
# The events of a transaction

What opening a transaction, ending one that has checked its connection out, and the background add
to the log, whatever the backend answers.
-/

namespace PolySql

open Scenario (Ending)

variable {σ κ α : Type}

/-- The event of handing a connection back: destroyed if it can no longer be trusted. -/
def Event.handBack (c : κ) (trusted : Bool) : Event κ :=
  if trusted then .released c else .destroyed c

@[simp] theorem Event.call?_handBack (c : κ) (trusted : Bool) :
    (handBack c trusted).call? = none := by
  cases trusted <;> rfl

/-- A world whose backend has got on to another state, with the given events. -/
def World.advanced (w : World (Watched σ κ) κ) (s : σ) (events : List (Event κ)) :
    World (Watched σ κ) κ :=
  { w with backend := { backend := s, events := w.backend.events ++ events } }

/-! ### Opening -/

/-- A world in which a transaction has been opened, or was to be. -/
def World.opening (w : World (Watched σ κ) κ) (s : σ) (events : List (Event κ)) :
    World (Watched σ κ) κ :=
  { backend := { backend := s, events := w.backend.events ++ events }
    begun := w.begun + 1
    abandoned := w.abandoned }

namespace Transaction

variable (b : Backend σ κ) (w : World (Watched σ κ) κ)

/-- Opening a transaction ends with the pool's refusal, with the destruction of a connection on
which nothing could be begun, or with an open transaction. -/
theorem exec_begin :
    (Transaction.begin b.watched).exec w =
      match b.acquire.run w.backend.backend with
      | (.error cause, s) => (.error cause, w.opening s [.refused])
      | (.ok c, s) =>
        match (b.begin c).run s with
        | (.error report, s) =>
          (.error (.statement "BEGIN" report),
            w.opening ((b.destroy c).run s).2 [.acquired c, .called c .begin false, .destroyed c])
        | (.ok _, s) =>
          (.ok { id := w.begun + 1, holding := .pooled, connection := c },
            w.opening s [.acquired c, .called c .begin true]) := by
  rcases hacquire : b.acquire.run w.backend.backend with ⟨_ | c, s⟩
  · simp [Transaction.begin, World.opening, hacquire]
  · rcases hbegin : (b.begin c).run s with ⟨_ | _, s'⟩ <;>
      simp [Transaction.begin, World.opening, hacquire, hbegin]

/-! ### Ending -/

theorem exec_commit (id : Nat) (c : κ) (answer : α) :
    (commit b.watched { id, holding := .pooled, connection := c } answer).exec w =
      match (b.commit c).run w.backend.backend with
      | (.error report, s) =>
        (.error (.commit report),
          w.advanced ((b.destroy c).run s).2 [.called c .commit false, .destroyed c])
      | (.ok _, s) =>
        (.ok answer, w.advanced ((b.release c).run s).2 [.called c .commit true, .released c]) := by
  rcases hcommit : (b.commit c).run w.backend.backend with ⟨_ | _, s⟩ <;>
    simp [commit, World.advanced, hcommit, Except.map]

theorem exec_rollback (id : Nat) (c : κ) (cause : Error) :
    (rollback b.watched { id, holding := .pooled, connection := c } cause :
        Session (Watched σ κ) κ α).exec w =
      match (b.rollback c).run w.backend.backend with
      | (.error report, s) =>
        (.error (.rollback report),
          w.advanced ((b.destroy c).run s).2 [.called c .rollback false, .destroyed c])
      | (.ok _, s) =>
        (.error cause,
          w.advanced ((b.release c).run s).2 [.called c .rollback true, .released c]) := by
  rcases hrollback : (b.rollback c).run w.backend.backend with ⟨_ | _, s⟩ <;>
    simp [rollback, World.advanced, hrollback]

end Transaction

/-- What ending a transaction on a connection that it has checked out adds to the log, and the
connections that it leaves to the background. -/
inductive Closes (c : κ) : Ending α → List (Event κ) → List κ → Prop
  | commit (answer : α) (succeeded : Bool) :
    Closes c (.commit answer) [.called c .commit succeeded, .handBack c succeeded] []
  | rollback (cause : Error) (succeeded : Bool) :
    Closes c (.rollback cause) [.called c .rollback succeeded, .handBack c succeeded] []
  | release (answer : α) : Closes c (.release answer) [] [c]
  | drop : Closes c .drop [] [c]
  | dropWithoutBackground : Closes c .dropWithoutBackground [.released c] []

/-- Ending a transaction gives an answer or none, makes the events of its ending, and leaves to the
background what the ending leaves to it. -/
theorem Scenario.Ending.exec_apply (client : Client σ κ) (id : Nat) (c : κ) (ending : Ending α)
    (w : World (Watched σ κ) κ) :
    ∃ outcome s events left,
      (ending.apply client.watched { id, holding := .pooled, connection := c }).exec w =
        (.ok outcome, { backend := { backend := s, events := w.backend.events ++ events }
                        begun := w.begun
                        abandoned := w.abandoned ++ left }) ∧
        Closes c ending events left := by
  cases ending with
  | commit answer =>
    rcases h : (client.backend.commit c).run w.backend.backend with ⟨report | _, s⟩
    · refine ⟨some (.error (.commit report)), ((client.backend.destroy c).run s).2, _, _, ?_,
        .commit answer false⟩
      simp [apply, Client.watched, Transaction.exec_commit, h, World.advanced,
        Event.handBack, Except.map]
    · refine ⟨some (.ok answer), ((client.backend.release c).run s).2, _, _, ?_,
        .commit answer true⟩
      simp [apply, Client.watched, Transaction.exec_commit, h, World.advanced,
        Event.handBack, Except.map]
  | rollback cause =>
    rcases h : (client.backend.rollback c).run w.backend.backend with ⟨report | _, s⟩
    · refine ⟨some (.error (.rollback report)), ((client.backend.destroy c).run s).2, _, _, ?_,
        .rollback cause false⟩
      simp [apply, Client.watched, Transaction.exec_rollback, h, World.advanced,
        Event.handBack, Except.map]
    · refine ⟨some (.error cause), ((client.backend.release c).run s).2, _, _, ?_,
        .rollback cause true⟩
      simp [apply, Client.watched, Transaction.exec_rollback, h, World.advanced,
        Event.handBack, Except.map]
  | release answer =>
    -- The release is refused, and the connection is dropped with the transaction.
    refine ⟨some (.error (Transaction.notSupplied id)), w.backend.backend, _, _, ?_,
      .release answer⟩
    simp [apply, Transaction.release, Transaction.drop, Except.map]
  | drop =>
    refine ⟨none, w.backend.backend, _, _, ?_, .drop⟩
    simp [apply, Transaction.drop, Except.map]
  | dropWithoutBackground =>
    refine ⟨none, ((client.backend.release c).run w.backend.backend).2, _, _, ?_,
      .dropWithoutBackground⟩
    simp [apply, Transaction.dropWithoutBackground, Client.watched, Except.map]

/-! ### The background -/

theorem Backend.run_recover (b : Backend σ κ) (c : κ) (w : Watched σ κ) :
    ∃ succeeded s,
      (b.watched.recover c).run w =
        ((), { backend := s
               events := w.events ++ [.called c .rollback succeeded, .handBack c succeeded] }) := by
  rcases h : (b.rollback c).run w.backend with ⟨report | _, s⟩
  · refine ⟨false, ((b.destroy c).run s).2, ?_⟩
    rw [recover, StateT.run_bind, run_watched_rollback, h]
    change (b.watched.destroy c).run _ = _
    simp [Event.handBack]
  · refine ⟨true, ((b.release c).run s).2, ?_⟩
    rw [recover, StateT.run_bind, run_watched_rollback, h]
    change (b.watched.release c).run _ = _
    simp [Event.handBack]

end PolySql

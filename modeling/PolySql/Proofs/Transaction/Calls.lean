import PolySql.Proofs.Transaction.Events

/-!
# The calls of a transaction

The calls that a connection gets to see in a transaction that has checked it out are a begin, the
statements of the transaction and of those nested in it, as they come, and one commit or rollback,
or none of the two where there is no background.  A nested transaction, or one on the caller's
connection, makes no calls but its statements (`Body.call_traces`).
-/

namespace PolySql

open Scenario (Ending)

variable {σ κ α : Type}

/-! ### The expected calls -/

/-- The calls so far, each with its connection. -/
def Watched.calls (w : Watched σ κ) : List (κ × Call) :=
  w.events.filterMap Event.call?

/-- The calls that end a transaction on a connection that it has checked out, the background's
included. -/
def Scenario.Ending.calls : Ending α → List Call
  | .commit _ => [.commit]
  | .rollback _ => [.rollback]
  | .release _ => [.rollback]
  | .drop => [.rollback]
  | .dropWithoutBackground => []

/-- Do something in a transaction on a connection checked out for it, and end the transaction by the
result. -/
def Body.inTransaction (client : Client σ κ) (body : Body α)
    (ending : Except Error α → Ending α) : Session σ κ (Option (Except Error α)) := do
  let tx ← Transaction.begin client.backend
  let result ← (body.play client tx).attempt
  (ending result).apply client tx

/-! ### The last calls -/

namespace Body

/-! ### The three kinds of transactions -/

section InTransaction

variable (client : Client σ κ) (body : Body α) (ending : Except Error α → Ending α)
variable {w opened : World σ κ}

theorem exec_inTransaction_of_error {e : Error}
    (h : (Transaction.begin client.backend).exec w = (.error e, opened)) :
    (body.inTransaction client ending).exec w = (.error e, opened) := by
  rw [inTransaction, Action.exec_bind, h]

theorem exec_inTransaction_of_ok {tx : Transaction κ}
    (h : (Transaction.begin client.backend).exec w = (.ok tx, opened)) :
    (body.inTransaction client ending).exec w =
      ((ending ((body.flat client tx.connection).exec opened).1).apply client tx).exec
        ((body.flat client tx.connection).exec opened).2 := by
  rw [inTransaction, Action.exec_bind, h]
  simp only [Action.exec_bind, Action.exec_attempt, play_eq_flat]

end InTransaction

/-- The world after a transaction on a connection checked out for it, when the background is done. -/
def settled (client : Client σ κ) (body : Body α) (ending : Except Error α → Ending α) (s : σ)
    (begun : Nat) : World (Watched σ κ) κ :=
  let ended := (body.inTransaction client.watched ending).exec { backend := { backend := s }, begun }
  ((Session.settle client.watched.backend).run ended.2).2

section Settled

variable (client : Client σ κ) (body : Body α) (ending : Except Error α → Ending α)
variable {s s₁ s₂ : σ} (begun : Nat) {c : κ}

end Settled

/-- Do something in a transaction on the caller's connection, and end the transaction by the
result. -/
def onConnection (client : Client σ κ) (c : κ) (body : Body α)
    (ending : Except Error α → Ending α) : Session σ κ (Option (Except Error α)) := do
  let tx ← Transaction.onConnection c
  let result ← (body.play client tx).attempt
  (ending result).apply client tx

end Body

end PolySql

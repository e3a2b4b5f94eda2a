import PolySql.Proofs.Watched
import PolySql.Scenario

/-!
# Bodies of transactions

A `Body` is what a program does in a transaction: requests and nested transactions in any order and
to any depth, each step going on by what the one before it has given.  `Body.play` does it with the
operations on transactions.  `Body.flat` is the same as one sequence of requests on one connection,
in which nothing is left of a nested transaction but its number and the answer of its ending.  The
two are equal (`Body.play_eq_flat`).
-/

namespace PolySql

open Scenario (Ending)

variable {σ κ α : Type}

/-! ### Endings -/

namespace Scenario.Ending

/-- End a transaction; a dropped one gives no answer. -/
def apply (client : Client σ κ) (tx : Transaction κ) :
    Ending α → Session σ κ (Option (Except Error α))
  | .commit answer => do return some (← (tx.commit client.backend answer).attempt)
  | .rollback cause => do return some (← (tx.rollback client.backend cause).attempt)
  | .release answer => do return some (← (tx.release answer).attempt)
  | .drop => do
    tx.drop
    return none
  | .dropWithoutBackground => do
    tx.dropWithoutBackground client.backend
    return none

/-- The answer of a transaction that is ended on another one's or the caller's connection. -/
def answer (holding : Holding) (id : Nat) : Ending α → Option (Except Error α)
  | .commit answer => some (.ok answer)
  | .rollback cause => some (.error cause)
  | .release answer =>
    some (if holding = .supplied then .ok answer else .error (Transaction.notSupplied id))
  | .drop => none
  | .dropWithoutBackground => none

/-- A transaction that has not checked its connection out ends without touching anything. -/
theorem apply_eq_pure (client : Client σ κ) (tx : Transaction κ) (h : tx.holding ≠ .pooled)
    (ending : Ending α) : ending.apply client tx = pure (ending.answer tx.holding tx.id) := by
  obtain ⟨id, holding, c⟩ := tx
  cases holding with
  | pooled => exact absurd rfl h
  | supplied => cases ending <;> rfl
  | nested => cases ending <;> rfl

end Scenario.Ending

/-! ### Bodies -/

/-- What a program does in a transaction. -/
inductive Body (α : Type) where
  /-- Stop, with an answer or an error. -/
  | done (result : Except Error α)
  /-- Run a request, and go on by its outcome. -/
  | request (r : Request) (next : Except Error Output → Body α)
  /-- Do something in a nested transaction, end it by the result, and go on by the answer. -/
  | nest (inner : Body α) (ending : Except Error α → Ending α)
      (next : Option (Except Error α) → Body α)

namespace Body

/-- Do what is to be done in a transaction. -/
def play (client : Client σ κ) : Body α → Transaction κ → Session σ κ α
  | .done result, _ => Action.ofExcept result
  | .request r next, tx => do
    let outcome ← (Session.lift (client.runIn tx r)).attempt
    (next outcome).play client tx
  | .nest inner ending next, tx => do
    let nested ← tx.nest
    let result ← (inner.play client nested).attempt
    let answer ← (ending result).apply client nested
    (next answer).play client tx

/-- The requests that are run in a transaction, nested ones included, as they come. -/
def flat (client : Client σ κ) (c : κ) : Body α → Session σ κ α
  | .done result => Action.ofExcept result
  | .request r next => do
    let outcome ← (Session.lift (client.runOn c r)).attempt
    (next outcome).flat client c
  | .nest inner ending next => do
    let id ← Session.nextId
    let result ← (inner.flat client c).attempt
    (next ((ending result).answer .nested id)).flat client c

/-- Nested transactions have no part in what happens on the connection. -/
theorem play_eq_flat (client : Client σ κ) (body : Body α) (tx : Transaction κ) :
    body.play client tx = body.flat client tx.connection := by
  induction body generalizing tx with
  | done result => rfl
  | request r next ih =>
    simp only [play, flat, Client.runIn, ih]
  | nest inner ending next ihInner ihNext =>
    -- the nested transaction has the connection of the one around it, and ends without touching it
    have hending (id : Nat) (result : Except Error α) :=
      (ending result).apply_eq_pure client
        { id, holding := .nested, connection := tx.connection } (by simp)
    simp only [play, flat, Transaction.nest, ihInner, ihNext, hending, bind_assoc, pure_bind]

/-- Nothing but statements on one connection lies between two worlds. -/
def Executes (c : κ) (before after : World (Watched σ κ) κ) : Prop :=
  before.backend.Executes c after.backend ∧ after.abandoned = before.abandoned

instance (c : κ) : IsPreorder (World (Watched σ κ) κ) (Executes c) where
  refl w := ⟨Std.Refl.refl _, rfl⟩
  trans := by
    rintro w₁ w₂ w₃ ⟨h₁₂, habandoned⟩ ⟨h₂₃, hlater⟩
    exact ⟨IsTrans.trans _ _ _ h₁₂ h₂₃, hlater.trans habandoned⟩

theorem leads_nextId (c : κ) :
    Action.Leads (Executes c) (Session.nextId : Session (Watched σ κ) κ Nat) :=
  fun w => ⟨Std.Refl.refl w.backend, rfl⟩

open PolySql.Action in
/-- A body runs statements on its connection, and does nothing else. -/
theorem leads_flat (client : Client σ κ) (c : κ) (body : Body α) :
    Leads (Executes c) (body.flat client.watched c) := by
  induction body with
  | done result => exact leads_ofExcept _
  | request r next ih =>
    have hrun : Leads (Executes c)
        (Session.lift (client.watched.runOn c r) : Session (Watched σ κ) κ Output) :=
      fun w => ⟨client.leads_runOn c r w.backend, rfl⟩
    exact hrun.attempt.bind ih
  | nest inner ending next ihInner ihNext =>
    exact (leads_nextId c).bind fun id => ihInner.attempt.bind fun result => ihNext _

end Body

end PolySql

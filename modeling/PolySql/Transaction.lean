import PolySql.Session

/-!
# Transactions

A transaction is a scope on one connection.  There are three kinds: one that has checked its
connection out itself, one on a connection that the caller holds, and one nested in another.  Only
the first begins, commits and rolls back, and it hands its connection back exactly once: released
after a commit or rollback that succeeded, destroyed after one that failed.  When such a transaction
is dropped while it is open, its connection is left to the background, which rolls back and then
hands it back (`Session.settle`).

A value of type `Transaction` is an open transaction; the operations that end one are to be applied
to it once.
-/

namespace PolySql

variable {σ κ α : Type}

/-- How a transaction has come by its connection. -/
inductive Holding where
  /-- It has checked it out. -/
  | pooled
  /-- The caller holds it. -/
  | supplied
  /-- The transaction around it has it. -/
  | nested
  deriving DecidableEq, Repr

/-- An open transaction on a connection. -/
structure Transaction (κ : Type) where
  id : Nat
  holding : Holding
  connection : κ

namespace Transaction

/-- Check a connection out and begin a transaction on it.  A connection on which that fails is
destroyed. -/
def begin (b : Backend σ κ) : Session σ κ (Transaction κ) := do
  let id ← Session.nextId
  let c ← Session.lift b.checkout
  match ← Session.perform (b.begin c) with
  | .ok _ => return { id, holding := .pooled, connection := c }
  | .error report =>
    Session.perform (b.destroy c)
    throw (.statement "BEGIN" report)

/-- A transaction on a connection that the caller holds; nothing is begun. -/
def onConnection (c : κ) : Session σ κ (Transaction κ) := do
  return { id := ← Session.nextId, holding := .supplied, connection := c }

/-- A transaction inside another one, on the same connection; nothing is begun. -/
def nest (tx : Transaction κ) : Session σ κ (Transaction κ) := do
  return { id := ← Session.nextId, holding := .nested, connection := tx.connection }

/-- Commit, with an answer for the case that it succeeds. -/
def commit (b : Backend σ κ) (tx : Transaction κ) (answer : α) : Session σ κ α := do
  match tx.holding with
  | .pooled =>
    match ← Session.perform (b.commit tx.connection) with
    | .ok _ =>
      Session.perform (b.release tx.connection)
      return answer
    | .error report =>
      Session.perform (b.destroy tx.connection)
      throw (.commit report)
  | .supplied | .nested => return answer

/-- Roll back because of an error, and fail with it; if rolling back fails, that failure takes the
error's place. -/
def rollback (b : Backend σ κ) (tx : Transaction κ) (cause : Error) : Session σ κ α := do
  match tx.holding with
  | .pooled =>
    match ← Session.perform (b.rollback tx.connection) with
    | .ok _ =>
      Session.perform (b.release tx.connection)
      throw cause
    | .error report =>
      Session.perform (b.destroy tx.connection)
      throw (.rollback report)
  | .supplied | .nested => throw cause

/-- Drop an open transaction; its connection is left to the background if it has checked it out. -/
def drop (tx : Transaction κ) : Session σ κ Unit :=
  match tx.holding with
  | .pooled => Session.abandon tx.connection
  | .supplied | .nested => pure ()

/-- Drop an open transaction where there is no background: its connection is handed back as it
is. -/
def dropWithoutBackground (b : Backend σ κ) (tx : Transaction κ) : Session σ κ Unit :=
  match tx.holding with
  | .pooled => Session.perform (b.release tx.connection)
  | .supplied | .nested => pure ()

/-- The error of releasing a transaction whose connection is not the caller's. -/
def notSupplied (id : Nat) : Error :=
  .transactionState
    ("transaction " ++ toString id ++ " does not wrap a caller-supplied connection")

/-- End a transaction on the caller's connection without a call.  Any other transaction is dropped,
and its release refused. -/
def release (tx : Transaction κ) (answer : α) : Session σ κ α := do
  match tx.holding with
  | .supplied => return answer
  | .pooled | .nested =>
    tx.drop
    throw (notSupplied tx.id)

end Transaction

end PolySql

import PolySql.Client
import PolySql.ScriptedPool

/-!
# Scenarios

A scenario is a tree of things to do with a client on a scripted backend: requests, transactions and
what happens in them, connections checked out by hand.  Playing it gives a log with an entry for
each thing done: its outcome, the calls made since the entry before, and where the connections are.
The background is given time before each entry.

An error ends the list of steps in which it occurs and no more: it rolls back the transaction around
the list, and outside of all transactions it stops the scenario.
-/

namespace PolySql.Scenario

/-! ### Steps -/

/-- Where a request runs. -/
inductive Route where
  /-- In the innermost transaction, if there is one. -/
  | innermost
  /-- On a connection of its own. -/
  | pool
  /-- On a connection that does not belong to the pool. -/
  | detached
  deriving DecidableEq, Repr

/-- How a transaction is opened. -/
inductive Opening where
  | begin
  /-- On a connection that does not belong to the pool. -/
  | onConnection
  /-- In the innermost transaction. -/
  | nest
  deriving DecidableEq, Repr

/-- How a transaction ends whose steps ended without an error. -/
inductive Ending (α : Type) where
  | commit (answer : α)
  | rollback (cause : Error)
  | release (answer : α)
  | drop
  | dropWithoutBackground

/-- How a connection checked out by hand is handed back. -/
inductive HandBack where
  | release
  | destroy
  | drop
  deriving DecidableEq, Repr

/-- One thing to do. -/
inductive Step (α : Type) where
  /-- Run a request; a strict one ends the list of steps if it fails. -/
  | run (route : Route) (request : Except Error Request) (strict : Bool)
  /-- Compile a request. -/
  | compile (request : Except Error Request)
  /-- Put a rule of the backend in force. -/
  | rule (rule : ScriptedPool.Rule)
  /-- End the list of steps. -/
  | fail (cause : Error)
  /-- Look at the client. -/
  | clientInfo
  /-- Look at the innermost transaction. -/
  | info
  /-- Open a transaction, do something in it, and end it. -/
  | scope (opening : Opening) (steps : List (Step α)) (ending : Ending α)
  /-- Do something in a transaction that ends by its outcome. -/
  | transaction (steps : List (Step α)) (answer : α)
  /-- Check a connection out by hand and make calls on it. -/
  | guard (calls : List Call) (handBack : HandBack)

/-! ### The log -/

/-- What is to be seen of an open transaction. -/
structure Info where
  id : Nat
  holding : Holding
  deriving DecidableEq, Repr

/-- The outcome of one thing done. -/
inductive Outcome (α : Type) where
  | run (route : Route) (result : Except Error Output)
  | compile (result : Except Error Compiled)
  /-- With the number of connections checked out so far. -/
  | clientInfo (acquired : Nat)
  | info (innermost : Option Info)
  | opened (opening : Opening) (result : Except Error Info)
  | ended (result : Except Error α)
  | dropped
  | transaction (result : Except Error α)
  | guardRefused (cause : Error)
  | guardCall (result : Except DriverError (Option Response))
  | guardEnd

/-- An entry of the log. -/
structure Entry (α : Type) where
  outcome : Outcome α
  /-- The calls since the entry before. -/
  events : List Call
  acquired : Nat
  released : Nat
  destroyed : Nat
  outstanding : Nat

/-- A scripted backend and the log so far. -/
structure Stage (α : Type) where
  pool : ScriptedPool
  log : List (Entry α) := []
  /-- The number of calls that entries have shown. -/
  shown : Nat := 0

end PolySql.Scenario

namespace PolySql.ScriptedPool

/-- Act on the backend of a stage. -/
def onStage {α β : Type} (act : StateM ScriptedPool β) : StateM (Scenario.Stage α) β := fun s =>
  let (b, pool) := act.run s.pool
  (b, { s with pool })

/-- The scripted backend of a stage. -/
def stageBackend (α : Type) : Backend (Scenario.Stage α) Unit where
  acquire := onStage backend.acquire
  release c := onStage (backend.release c)
  destroy c := onStage (backend.destroy c)
  begin c := onStage (backend.begin c)
  commit c := onStage (backend.commit c)
  rollback c := onStage (backend.rollback c)
  execute c sql params := onStage (backend.execute c sql params)

end PolySql.ScriptedPool

namespace PolySql.Scenario

/-! ### Playing -/

/-- A computation on a stage. -/
abbrev Play (α : Type) := Session (Stage α) Unit

variable {α : Type}

/-- The client of a stage. -/
def clientOf (α : Type) (profile : Profile) : Client (Stage α) Unit :=
  { profile, backend := ScriptedPool.stageBackend α }

/-- The entry that shows an outcome now. -/
def Stage.entry (s : Stage α) (outcome : Outcome α) : Entry α :=
  { outcome
    events := s.pool.events.drop s.shown
    acquired := s.pool.acquired
    released := s.pool.released
    destroyed := s.pool.destroyed
    outstanding := s.pool.outstanding }

/-- Write an entry, after the background has done its work. -/
def note (outcome : Outcome α) : Play α Unit :=
  Action.perform do
    Session.settle (ScriptedPool.stageBackend α)
    Session.onBackend <| modify fun s =>
      { s with log := s.log ++ [s.entry outcome], shown := s.pool.events.length }

/-- What is to be seen of a transaction. -/
def infoOf (tx : Transaction Unit) : Info :=
  { id := tx.id, holding := tx.holding }

/-- Run a request by its route. -/
def runRequest (client : Client (Stage α) Unit) (scope : Option (Transaction Unit))
    (route : Route) (r : Request) : Play α Output :=
  Session.lift <|
    match route, scope with
    | .innermost, some tx => client.runIn tx r
    | .innermost, none => client.run r
    | .pool, _ => client.run r
    | .detached, _ => client.runOn () r

/-- Open a transaction. -/
def openScope (client : Client (Stage α) Unit) (scope : Option (Transaction Unit)) :
    Opening → Play α (Transaction Unit)
  | .begin => Transaction.begin client.backend
  | .onConnection => Transaction.onConnection ()
  | .nest =>
    match scope with
    | some tx => tx.nest
    | none => throw (.transactionState "no transaction to nest in")

/-- End a transaction. -/
def endScope (client : Client (Stage α) Unit) (tx : Transaction Unit) :
    Ending α → Play α (Outcome α)
  | .commit answer => do return .ended (← (tx.commit client.backend answer).attempt)
  | .rollback cause => do return .ended (← (tx.rollback client.backend cause).attempt)
  | .release answer => do return .ended (← (tx.release answer).attempt)
  | .drop => do
    tx.drop
    return .dropped
  | .dropWithoutBackground => do
    tx.dropWithoutBackground client.backend
    return .dropped

/-- Make calls on a connection, with an entry for each. -/
def makeCalls (client : Client (Stage α) Unit) : List Call → Play α Unit
  | [] => pure ()
  | call :: calls => do
    note (.guardCall (← Session.perform (client.backend.call () call)))
    makeCalls client calls

/-- Check a connection out, make calls on it and hand it back. -/
def playGuard (client : Client (Stage α) Unit) (calls : List Call) (handBack : HandBack) :
    Play α Unit := do
  match ← (Session.lift client.backend.checkout).attempt with
  | .error cause => note (.guardRefused cause)
  | .ok c =>
    makeCalls client calls
    match handBack with
    | .release | .drop => Session.perform (client.backend.release c)
    | .destroy => Session.perform (client.backend.destroy c)
    note .guardEnd

mutual

/-- Do one thing, in the innermost transaction. -/
def playStep (client : Client (Stage α) Unit) (scope : Option (Transaction Unit)) :
    Step α → Play α Unit
  | .run route request strict => do
    let result ← (Action.ofExcept request >>= runRequest client scope route).attempt
    note (.run route result)
    match result with
    | .error cause => if strict then throw cause
    | .ok _ => pure ()
  | .compile request => do
    note (.compile (request.bind client.profile.compile))
  | .rule rule =>
    Session.perform (modify fun s => { s with pool := s.pool.addRule rule })
  | .fail cause => throw cause
  | .clientInfo => do
    note (.clientInfo (← get).backend.pool.acquired)
  | .info => note (.info (scope.map infoOf))
  | .scope opening steps ending => do
    match ← (openScope client scope opening).attempt with
    | .error cause => note (.opened opening (.error cause))
    | .ok tx =>
      note (.opened opening (.ok (infoOf tx)))
      match ← (playSteps client (some tx) steps).attempt with
      | .error cause => note (← endScope client tx (.rollback cause))
      | .ok _ => note (← endScope client tx ending)
  | .transaction steps answer => do
    let body (tx : Transaction Unit) : Play α α := do
      playSteps client (some tx) steps
      return answer
    note (.transaction (← (client.transaction body).attempt))
  | .guard calls handBack => playGuard client calls handBack

/-- Do one thing after the other. -/
def playSteps (client : Client (Stage α) Unit) (scope : Option (Transaction Unit)) :
    List (Step α) → Play α Unit
  | [] => pure ()
  | step :: steps => do
    playStep client scope step
    playSteps client scope steps

end

/-- What is left of a scenario when it is over. -/
structure Report (α : Type) where
  log : List (Entry α)
  /-- The texts of the statements that ran. -/
  executed : List String
  /-- The error that stopped the scenario. -/
  stopped : Option Error

/-- Play a scenario. -/
def play (profile : Profile) (rules : List ScriptedPool.Rule) (steps : List (Step α)) :
    Report α :=
  let start : World (Stage α) Unit := { backend := { pool := ScriptedPool.ofRules rules } }
  let (result, w) := (playSteps (clientOf α profile) none steps).exec start
  { log := w.backend.log
    executed := w.backend.pool.executed
    stopped := match result with
      | .error cause => some cause
      | .ok _ => none }

end PolySql.Scenario

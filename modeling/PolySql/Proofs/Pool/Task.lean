import PolySql.Proofs.Transaction.Calls

/-!
# Commands on a pool and their tasks

A `Command` is one call of the library, or one piece of work of the background.  What it finds in
the hands of the program, and what it leaves there, are `Handle`s.  Its `Task` is what it does to
the pool: the events that it makes when it is run with a backend of any kind, in order.

A task is `Sound` if it hands every connection back once, and in the right way, or leaves it behind
in one handle.  The task of every command is sound (`Command.sound_task`).
-/

namespace PolySql

open Scenario (Ending)

variable {σ κ α : Type}

/-! ### Commands -/

/-- Something that a program, or the background, has in its hands. -/
inductive Handle (κ : Type) where
  /-- A connection that was checked out by hand. -/
  | guard (c : κ)
  /-- An open transaction. -/
  | transaction (tx : Transaction κ)
  /-- A connection that the background has to roll back. -/
  | abandoned (c : κ)

namespace Handle

/-- The connection that has to be handed back on behalf of a handle. -/
def connection? : Handle κ → Option κ
  | .guard c => some c
  | .transaction tx => if tx.holding = .pooled then some tx.connection else none
  | .abandoned c => some c

end Handle

/-- Something to do with a pool. -/
inductive Command (κ α : Type) where
  /-- Run a request on a connection of its own. -/
  | run (r : Request)
  /-- Run a body in a transaction that ends by the body's result. -/
  | transaction (body : Body α)
  /-- Check a connection out by hand. -/
  | checkout
  /-- Hand a connection back that was checked out by hand. -/
  | handBack (c : κ)
  | begin
  | onConnection (c : κ)
  | nest (tx : Transaction κ)
  /-- Run a request in a transaction. -/
  | request (tx : Transaction κ) (r : Request)
  | finish (tx : Transaction κ) (ending : Ending α)
  /-- Let the background roll a connection back. -/
  | recover (c : κ)

namespace Command

/-- The handles that a command needs, and does not use up. -/
def uses : Command κ α → List (Handle κ)
  | .nest tx => [.transaction tx]
  | .request tx _ => [.transaction tx]
  | _ => []

/-- The handles that a command uses up. -/
def takes : Command κ α → List (Handle κ)
  | .handBack c => [.guard c]
  | .finish tx _ => [.transaction tx]
  | .recover c => [.abandoned c]
  | _ => []

/-- What a command does; its answer is the handles that it gives. -/
def session (client : Client σ κ) : Command κ α → Session σ κ (List (Handle κ))
  | .run r => do
    let _ ← Session.lift (client.run r)
    return []
  | .transaction body => do
    let _ ← client.transaction (body.play client)
    return []
  | .checkout => do return [.guard (← Session.lift client.backend.checkout)]
  | .handBack c => do
    Session.perform (client.backend.release c)
    return []
  | .begin => do return [.transaction (← Transaction.begin client.backend)]
  | .onConnection c => do return [.transaction (← Transaction.onConnection c)]
  | .nest tx => do return [.transaction (← tx.nest)]
  | .request tx r => do
    let _ ← Session.lift (client.runIn tx r)
    return []
  | .finish tx ending => do
    let _ ← ending.apply client tx
    return []
  | .recover c => do
    Session.perform (client.backend.recover c)
    return []

/-- Whether a command checks a connection out before it does anything else with the pool. -/
def Opens : Command κ α → Prop
  | .run _ => True
  | .transaction _ => True
  | .checkout => True
  | .begin => True
  | _ => False

/-- Whether a command is on a transaction that has not checked its connection out, or no more than a
request in a transaction. -/
def Borrows : Command κ α → Prop
  | .onConnection _ => True
  | .nest _ => True
  | .request _ _ => True
  | .finish tx _ => tx.holding ≠ .pooled
  | _ => False

end Command

/-! ### Tasks -/

/-- A connection of the pool in a task's hands. -/
structure Held (κ : Type) where
  connection : κ
  /-- Whether a begin, commit or rollback on it has failed. -/
  broken : Bool := false

/-- What is left to do of a command. -/
structure Task (κ : Type) where
  /-- The connection of the pool that is in its hands. -/
  held : Option (Held κ)
  /-- What the pool is going to see of it. -/
  events : List (Event κ)
  /-- The handles that are there when it is done. -/
  leaves : List (Handle κ)

namespace Event

/-- Whether an event is in order, by what is in the hands of the task that makes it: connections are
checked out one at a time, and a connection is released if every begin, commit and rollback on it
has succeeded, and destroyed otherwise. -/
def Lawful (held : Option (Held κ)) : Event κ → Prop
  | .acquired _ => held = none
  | .refused => held = none
  | .released c => held = some { connection := c }
  | .destroyed c => held = some { connection := c, broken := true }
  | .called _ (.execute _ _) _ => True
  | .called c _ _ => held = some { connection := c }

/-- What is in the hands of a task after an event. -/
def after (held : Option (Held κ)) : Event κ → Option (Held κ)
  | .acquired c => some { connection := c }
  | .refused => held
  | .released _ => none
  | .destroyed _ => none
  | .called _ (.execute _ _) _ => held
  | .called _ _ succeeded => held.map fun h => { h with broken := !succeeded }

end Event

/-- Whether events are in order one after the other, and leave no connection in the hands of a task
but one that is handed on as it is. -/
def Orderly (leaves : List (Handle κ)) : Option (Held κ) → List (Event κ) → Prop
  | held, [] => held.toList = (leaves.filterMap Handle.connection?).map fun c => { connection := c }
  | held, e :: events => e.Lawful held ∧ Orderly leaves (e.after held) events

namespace Task

/-- A task that hands connections back once, and in the right way, or leaves them behind. -/
def Sound (t : Task κ) : Prop :=
  Orderly t.leaves t.held t.events

end Task

namespace Command

/-- The task of a command, with a backend in any state. -/
def task (client : Client σ κ) (cmd : Command κ α) (s : σ) (begun : Nat) : Task κ :=
  let (outcome, w) := (cmd.session client.watched).exec { backend := { backend := s }, begun }
  { held := (cmd.takes.filterMap Handle.connection?).head?.map fun c => { connection := c }
    events := w.backend.events
    leaves := outcome.toOption.getD [] ++ w.abandoned.map .abandoned }

end Command

/-! ### Events that are in order -/

section Orderly

variable {c : κ} {held : Option (Held κ)} {leaves : List (Handle κ)}

/-- Statements may be made at any time. -/
theorem orderly_append {statements events : List (Event κ)}
    (hstatements : ∀ e ∈ statements, e.IsExecute c) (h : Orderly leaves held events) :
    Orderly leaves held (statements ++ events) := by
  induction statements with
  | nil => exact h
  | cons e statements ih =>
    obtain ⟨he, hrest⟩ := List.forall_mem_cons.mp hstatements
    obtain ⟨sql, params, succeeded, rfl⟩ := he
    exact ⟨trivial, ih hrest⟩

theorem orderly_statements {statements : List (Event κ)}
    (hstatements : ∀ e ∈ statements, e.IsExecute c) : Orderly [] none statements := by
  have horderly : Orderly [] none (statements ++ []) := orderly_append hstatements rfl
  rwa [List.append_nil] at horderly

/-- What ends a transaction is in order while its connection is in hand. -/
theorem orderly_closes {ending : Ending α} {events : List (Event κ)} {left : List κ}
    (h : Closes c ending events left) :
    Orderly (left.map .abandoned) (some { connection := c }) events := by
  cases h with
  | commit answer succeeded => cases succeeded <;> exact ⟨rfl, rfl, rfl⟩
  | rollback cause succeeded => cases succeeded <;> exact ⟨rfl, rfl, rfl⟩
  | release answer => rfl
  | drop => rfl
  | dropWithoutBackground => exact ⟨rfl, rfl⟩

end Orderly

/-! ### The events of single commands -/

/-- What a request on a connection of its own adds to the log. -/
inductive Runs : List (Event κ) → Prop
  | uncompiled : Runs []
  | refused : Runs [.refused]
  | ran (c : κ) {statements : List (Event κ)} (h : ∀ e ∈ statements, e.IsExecute c) :
    Runs (.acquired c :: (statements ++ [.released c]))

theorem Client.events_run (client : Client σ κ) (r : Request) (w : Watched σ κ) :
    ∃ events, ((client.watched.run r).exec w).2.events = w.events ++ events ∧ Runs events := by
  rcases hcompile : client.profile.compile r with e | compiled
  · refine ⟨[], ?_, .uncompiled⟩
    simp [run, compile, watched, hcompile]
  rcases hacquire : client.backend.acquire.run w.backend with ⟨e | c, s⟩
  · refine ⟨[.refused], ?_, .refused⟩
    simp [run, compile, watched, hcompile, hacquire]
  -- whether or not the statements succeed, the connection is released after them
  obtain ⟨statements, hevents, hstatements⟩ :=
    compiled.leads_run client.backend c client.profile.dialect
      { backend := s, events := w.events ++ [.acquired c] }
  refine ⟨_, ?_, .ran c hstatements⟩
  rcases hrun : (compiled.run client.backend.watched c client.profile.dialect).exec
    { backend := s, events := w.events ++ [.acquired c] } with ⟨_ | response, after⟩
  · replace hevents : after.events = w.events ++ [.acquired c] ++ statements := by
      rwa [hrun] at hevents
    simp [run, compile, watched, hcompile, hacquire, hrun, hevents]
  · replace hevents : after.events = w.events ++ [.acquired c] ++ statements := by
      rwa [hrun] at hevents
    simp [run, compile, answer, watched, hcompile, hacquire, hrun, hevents]

/-- What a transaction with a body adds to the log, and the connections that it leaves to the
background. -/
inductive Transacts (ending : Except Error α → Ending α) : List (Event κ) → List κ → Prop
  | refused : Transacts ending [.refused] []
  | failed (c : κ) : Transacts ending [.acquired c, .called c .begin false, .destroyed c] []
  | ended (c : κ) {statements closing : List (Event κ)} {result : Except Error α} {left : List κ}
    (hstatements : ∀ e ∈ statements, e.IsExecute c)
    (hclosing : Closes c (ending result) closing left) :
    Transacts ending (.acquired c :: .called c .begin true :: (statements ++ closing)) left

theorem Body.events_inTransaction (client : Client σ κ) (body : Body α)
    (ending : Except Error α → Ending α) (w : World (Watched σ κ) κ) :
    ∃ events left,
      ((body.inTransaction client.watched ending).exec w).2.backend.events =
        w.backend.events ++ events ∧
      ((body.inTransaction client.watched ending).exec w).2.abandoned = w.abandoned ++ left ∧
      Transacts ending events left := by
  have hbegin := Transaction.exec_begin client.backend w
  rcases hacquire : client.backend.acquire.run w.backend.backend with ⟨cause | c, s₁⟩
  · simp only [hacquire] at hbegin
    rw [exec_inTransaction_of_error client.watched body ending hbegin]
    exact ⟨_, _, rfl, (List.append_nil _).symm, .refused⟩
  rcases hbegun : (client.backend.begin c).run s₁ with ⟨report | _, s₂⟩
  · simp only [hacquire, hbegun] at hbegin
    rw [exec_inTransaction_of_error client.watched body ending hbegin]
    exact ⟨_, _, rfl, (List.append_nil _).symm, .failed c⟩
  simp only [hacquire, hbegun] at hbegin
  rw [exec_inTransaction_of_ok client.watched body ending hbegin]
  obtain ⟨⟨statements, hevents, hstatements⟩, habandoned⟩ := leads_flat client c body
    (w.opening s₂ [.acquired c, .called c .begin true])
  obtain ⟨outcome, s₃, closing, left, happly, hclosing⟩ := Ending.exec_apply client (w.begun + 1) c
    (ending ((body.flat client.watched c).exec
      (w.opening s₂ [.acquired c, .called c .begin true])).1)
    ((body.flat client.watched c).exec (w.opening s₂ [.acquired c, .called c .begin true])).2
  refine ⟨_, left, ?_, ?_, .ended c hstatements hclosing⟩
  · rw [happly, hevents]
    simp [World.opening]
  · rw [happly, habandoned]
    rfl

namespace Scenario.Ending

/-- The ending by which a body's result is kept or undone. -/
def ofResult : Except Error α → Ending α
  | .ok answer => .commit answer
  | .error cause => .rollback cause

end Scenario.Ending

theorem Client.exec_transaction (client : Client σ κ) (body : Body α) (w : World σ κ) :
    ((client.transaction (body.play client)).exec w).2 =
      ((body.inTransaction client Ending.ofResult).exec w).2 := by
  simp only [transaction, Body.inTransaction, Action.exec_bind, Action.exec_attempt]
  rcases (Transaction.begin client.backend).exec w with ⟨e | tx, opened⟩
  · rfl
  rcases hplay : (body.play client tx).exec opened with ⟨cause | answer, played⟩ <;>
    simp only [hplay, Ending.ofResult, Ending.apply, Action.exec_bind, Action.exec_attempt,
      Action.exec_pure]

/-! ### Every task is sound -/

theorem orderly_runs {events : List (Event κ)} (h : Runs events) : Orderly [] none events := by
  cases h with
  | uncompiled => rfl
  | refused => exact ⟨rfl, rfl⟩
  | ran c hstatements => exact ⟨rfl, orderly_append hstatements ⟨rfl, rfl⟩⟩

theorem orderly_transacts {ending : Except Error α → Ending α} {events : List (Event κ)}
    {left : List κ} (h : Transacts ending events left) :
    Orderly (left.map .abandoned) none events := by
  cases h with
  | refused => exact ⟨rfl, rfl⟩
  | failed c => exact ⟨rfl, rfl, rfl, rfl⟩
  | ended c hstatements hclosing =>
    exact ⟨rfl, rfl, orderly_append hstatements (orderly_closes hclosing)⟩

namespace Command

/-- The task of a command that gives no handles. -/
theorem task_of_silent (client : Client σ κ) (cmd : Command κ α) {β : Type}
    {act : Session (Watched σ κ) κ β}
    (h : cmd.session client.watched = (do
      let _ ← act
      return [])) (s : σ) (begun : Nat) :
    cmd.task client s begun =
      { held := (cmd.takes.filterMap Handle.connection?).head?.map fun c => { connection := c }
        events := (act.exec { backend := { backend := s }, begun }).2.backend.events
        leaves := (act.exec { backend := { backend := s }, begun }).2.abandoned.map .abandoned } := by
  simp only [task, h, Action.exec_bind]
  rcases act.exec { backend := { backend := s }, begun } with ⟨_ | _, _⟩ <;> rfl

/-- **Every command hands connections back once and in the right way.**  What its task does to the
pool is in order, whatever the backend answers, and what is still in its hands at the end is in the
handles that it leaves. -/
theorem sound_task (client : Client σ κ) (cmd : Command κ α) (s : σ) (begun : Nat) :
    (cmd.task client s begun).Sound := by
  cases cmd with
  | run r =>
    rw [task_of_silent client (.run r) rfl]
    obtain ⟨events, hevents, hruns⟩ := client.events_run r { backend := s }
    rw [Task.Sound, Session.exec_lift, hevents]
    exact orderly_runs hruns
  | transaction body =>
    rw [task_of_silent client (.transaction body) rfl]
    obtain ⟨events, left, hevents, hleft, htransacts⟩ :=
      body.events_inTransaction client Ending.ofResult { backend := { backend := s }, begun }
    rw [Task.Sound, Client.exec_transaction, hevents, hleft]
    exact orderly_transacts htransacts
  | checkout =>
    rcases hacquire : client.backend.acquire.run s with ⟨e | c, s'⟩
    · have htask : (checkout : Command κ α).task client s begun =
          { held := none, events := [.refused], leaves := [] } := by
        simp [task, session, takes, Client.watched, hacquire, Except.toOption, Except.map]
      rw [htask]
      exact ⟨rfl, rfl⟩
    · have htask : (checkout : Command κ α).task client s begun =
          { held := none, events := [.acquired c], leaves := [.guard c] } := by
        simp [task, session, takes, Client.watched, hacquire, Except.toOption, Except.map]
      rw [htask]
      exact ⟨rfl, rfl⟩
  | handBack c =>
    exact ⟨rfl, rfl⟩
  | begin =>
    have hbegin := Transaction.exec_begin client.backend { backend := { backend := s }, begun }
    rcases hacquire : client.backend.acquire.run s with ⟨e | c, s₁⟩
    · have htask : (begin : Command κ α).task client s begun =
          { held := none, events := [.refused], leaves := [] } := by
        simp [task, session, takes, Client.watched, hbegin, hacquire, World.opening,
          Except.toOption, Except.map]
      rw [htask]
      exact ⟨rfl, rfl⟩
    rcases hbegun : (client.backend.begin c).run s₁ with ⟨report | _, s₂⟩
    · have htask : (begin : Command κ α).task client s begun =
          { held := none
            events := [.acquired c, .called c .begin false, .destroyed c]
            leaves := [] } := by
        simp [task, session, takes, Client.watched, hbegin, hacquire, hbegun, World.opening,
          Except.toOption, Except.map]
      rw [htask]
      exact ⟨rfl, rfl, rfl, rfl⟩
    · have htask : (begin : Command κ α).task client s begun =
          { held := none
            events := [.acquired c, .called c .begin true]
            leaves := [.transaction { id := begun + 1, holding := .pooled, connection := c }] } := by
        simp [task, session, takes, Client.watched, hbegin, hacquire, hbegun, World.opening,
          Except.toOption, Except.map]
      rw [htask]
      exact ⟨rfl, rfl, rfl⟩
  | onConnection c => exact rfl
  | nest tx => exact rfl
  | request tx r =>
    rw [task_of_silent client (.request tx r) rfl]
    obtain ⟨statements, hevents, hstatements⟩ :=
      client.leads_runOn tx.connection r { backend := s }
    rw [Task.Sound, Session.exec_lift, Client.runIn, hevents]
    exact orderly_statements hstatements
  | finish tx ending =>
    rw [task_of_silent client (.finish tx ending) rfl]
    obtain ⟨id, holding, c⟩ := tx
    cases holding with
    | pooled =>
      obtain ⟨outcome, s', events, left, hexec, hcloses⟩ :=
        ending.exec_apply client id c { backend := { backend := s }, begun }
      rw [hexec]
      exact orderly_closes hcloses
    -- a borrowed connection is not the task's to hand back
    | supplied =>
      rw [Ending.apply_eq_pure client.watched _ (by simp) ending]
      exact rfl
    | nested =>
      rw [Ending.apply_eq_pure client.watched _ (by simp) ending]
      exact rfl
  | recover c =>
    rw [task_of_silent client (.recover c) rfl]
    obtain ⟨succeeded, s', hrecover⟩ := client.backend.run_recover c { backend := s }
    rw [Task.Sound, Session.exec_perform, Client.watched, hrecover]
    cases succeeded <;> exact ⟨rfl, rfl, rfl⟩

/-! ### Commands that leave the pool alone -/

/-- Nothing is checked out for a request that does not compile. -/
theorem events_run_of_error (client : Client σ κ) {r : Request} {cause : Error}
    (h : client.profile.compile r = .error cause) (s : σ) (begun : Nat) :
    ((run r : Command κ α).task client s begun).events = [] := by
  simp [task, session, Client.run, Client.compile, Client.watched, h]

/-- Nothing follows the pool's refusal. -/
theorem events_of_refused (client : Client σ κ) {cmd : Command κ α} (hopens : cmd.Opens)
    {s s' : σ} {cause : Error} (h : client.backend.acquire.run s = (.error cause, s'))
    (begun : Nat) :
    (cmd.task client s begun).events = [] ∨ (cmd.task client s begun).events = [.refused] := by
  have hbegin := Transaction.exec_begin client.backend { backend := { backend := s }, begun }
  simp only [h] at hbegin
  cases cmd with
  | run r =>
    rcases hcompile : client.profile.compile r with _ | compiled
    · exact .inl (events_run_of_error client hcompile s begun)
    · right
      simp [task, session, Client.run, Client.compile, Client.watched, hcompile, h]
  | transaction body =>
    right
    rw [task_of_silent client (.transaction body) rfl, Client.exec_transaction,
      body.exec_inTransaction_of_error client.watched Ending.ofResult hbegin]
    rfl
  | checkout =>
    right
    simp [task, session, Client.watched, h]
  | begin =>
    right
    simp [task, session, Client.watched, hbegin, World.opening]
  | handBack c => exact hopens.elim
  | onConnection c => exact hopens.elim
  | nest tx => exact hopens.elim
  | request tx r => exact hopens.elim
  | finish tx ending => exact hopens.elim
  | recover c => exact hopens.elim

/-- All that is to be seen of a borrowed connection is statements. -/
theorem events_of_borrows (client : Client σ κ) {cmd : Command κ α} (h : cmd.Borrows) (s : σ)
    (begun : Nat) : ∃ c, ∀ e ∈ (cmd.task client s begun).events, e.IsExecute c := by
  cases cmd with
  | onConnection c => exact ⟨c, by simp [task, session, Transaction.onConnection]⟩
  | nest tx => exact ⟨tx.connection, by simp [task, session, Transaction.nest]⟩
  | request tx r =>
    obtain ⟨statements, hevents, hstatements⟩ :=
      client.leads_runOn tx.connection r { backend := s }
    rw [List.nil_append] at hevents
    rw [task_of_silent client (.request tx r) rfl, Session.exec_lift, Client.runIn, hevents]
    exact ⟨tx.connection, hstatements⟩
  | finish tx ending =>
    rw [task_of_silent client (.finish tx ending) rfl,
      Ending.apply_eq_pure client.watched tx h ending]
    exact ⟨tx.connection, by simp⟩
  | run r => exact h.elim
  | transaction body => exact h.elim
  | checkout => exact h.elim
  | handBack c => exact h.elim
  | begin => exact h.elim
  | recover c => exact h.elim

end Command

end PolySql

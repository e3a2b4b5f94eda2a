import Mathlib.Data.Multiset.AddSub
import Mathlib.Logic.Relation
import PolySql.Dialect.Builtin
import PolySql.Proofs.Pool.Task

/-!
# The accounts of a pool

A `System` is a pool with everything that is in the hands of a program and its background, and with
the tasks that are under way.  Tasks take turns in any order, an event at a time, so what one of
them finds may have been changed by all the others; the answers of the backend are as they come.

Every connection that was checked out is at all times in one place, from which it is handed back
once, and in the right way (`System.accounts`).
-/

namespace PolySql

open Scenario (Ending)

variable {σ κ α : Type}

/-! ### Counters -/

/-- The numbers of connections that were checked out and handed back. -/
structure Counters where
  acquired : Nat := 0
  released : Nat := 0
  destroyed : Nat := 0
  deriving DecidableEq, Repr

namespace Counters

/-- The number of connections checked out and not handed back. -/
def outstanding (n : Counters) : Nat :=
  n.acquired - n.released - n.destroyed

/-- The numbers after an event. -/
def post (n : Counters) : Event κ → Counters
  | .acquired _ => { n with acquired := n.acquired + 1 }
  | .refused => n
  | .released _ => { n with released := n.released + 1 }
  | .destroyed _ => { n with destroyed := n.destroyed + 1 }
  | .called _ _ _ => n

/-- Statements do not count. -/
theorem foldl_post_of_isExecute {c : κ} {events : List (Event κ)}
    (h : ∀ e ∈ events, e.IsExecute c) (n : Counters) : events.foldl post n = n := by
  induction events with
  | nil => rfl
  | cons e events ih =>
    obtain ⟨⟨sql, params, succeeded, rfl⟩, hevents⟩ := List.forall_mem_cons.mp h
    exact ih hevents

end Counters

/-! ### Systems -/

/-- A pool, and what is in the hands of those that use it. -/
structure System (κ : Type) where
  counters : Counters := {}
  handles : Multiset (Handle κ) := 0
  tasks : Multiset (Task κ) := 0

namespace System

/-- The number of handles and tasks with a connection of the pool. -/
def held (sys : System κ) : Nat :=
  sys.handles.countP (·.connection?.isSome) + sys.tasks.countP (·.held.isSome)

/-- One thing that happens. -/
inductive Step (p : Profile) : System κ → System κ → Prop
  /-- A command is given, for which the handles are there. -/
  | start {σ α : Type} (b : Backend σ κ) (s : σ) (begun : Nat) (cmd : Command κ α) (n : Counters)
    (handles : Multiset (Handle κ)) (tasks : Multiset (Task κ))
    (huses : ∀ h ∈ cmd.uses, h ∈ handles) :
    Step p { counters := n, handles := (cmd.takes : Multiset (Handle κ)) + handles, tasks }
      { counters := n, handles, tasks := cmd.task { profile := p, backend := b } s begun ::ₘ tasks }
  /-- A task makes its next event. -/
  | event (n : Counters) (handles : Multiset (Handle κ)) (tasks : Multiset (Task κ))
    (held : Option (Held κ)) (e : Event κ) (events : List (Event κ)) (leaves : List (Handle κ)) :
    Step p { counters := n, handles, tasks := { held, events := e :: events, leaves } ::ₘ tasks }
      { counters := n.post e, handles, tasks := { held := e.after held, events, leaves } ::ₘ tasks }
  /-- A task is done. -/
  | finish (n : Counters) (handles : Multiset (Handle κ)) (tasks : Multiset (Task κ))
    (held : Option (Held κ)) (leaves : List (Handle κ)) :
    Step p { counters := n, handles, tasks := { held, events := [], leaves } ::ₘ tasks }
      { counters := n, handles := (leaves : Multiset (Handle κ)) + handles, tasks }

/-- The systems that come about when nothing has been checked out in the beginning. -/
abbrev Reachable (p : Profile) (sys : System κ) : Prop :=
  Relation.ReflTransGen (Step p) {} sys

/-! ### The invariant -/

/-- The counters agree with what is held, and all tasks are sound. -/
structure Balanced (sys : System κ) : Prop where
  counters : sys.counters.acquired = sys.counters.released + sys.counters.destroyed + sys.held
  tasks : ∀ t ∈ sys.tasks, t.Sound

end System

/-- What a command takes from the hands of a program is in the hands of its task. -/
theorem Command.countP_takes (client : Client σ κ) (cmd : Command κ α) (s : σ) (begun : Nat) :
    (cmd.takes : Multiset (Handle κ)).countP (·.connection?.isSome) =
      if (cmd.task client s begun).held.isSome then 1 else 0 := by
  rw [Multiset.coe_countP]
  cases cmd with
  | finish tx ending =>
    by_cases htx : tx.holding = .pooled <;> simp [takes, task, Handle.connection?, htx]
  | _ => rfl

/-- What a sound task has in its hands at its end is in the handles that it leaves. -/
theorem Task.Sound.countP_leaves {held : Option (Held κ)} {leaves : List (Handle κ)}
    (h : Task.Sound { held, events := [], leaves }) :
    (leaves : Multiset (Handle κ)).countP (·.connection?.isSome) = if held.isSome then 1 else 0 := by
  have hlength := congrArg List.length h
  rw [List.length_map, List.length_filterMap_eq_countP] at hlength
  rw [Multiset.coe_countP]
  cases held with
  | none => simpa using hlength.symm
  | some _ => simpa using hlength.symm

/-- A lawful event counts what comes into the hands of its task, and what goes out of them. -/
theorem Event.Lawful.post {held : Option (Held κ)} {e : Event κ} (h : e.Lawful held)
    {n : Counters} {rest : Nat}
    (hn : n.acquired = n.released + n.destroyed + (rest + if held.isSome then 1 else 0)) :
    (n.post e).acquired =
      (n.post e).released + (n.post e).destroyed +
        (rest + if (e.after held).isSome then 1 else 0) := by
  cases e with
  | acquired c =>
    obtain rfl : held = none := h
    change n.acquired = n.released + n.destroyed + (rest + 0) at hn
    change n.acquired + 1 = n.released + n.destroyed + (rest + 1)
    omega
  | refused => exact hn
  | released c =>
    obtain rfl : held = some { connection := c } := h
    change n.acquired = n.released + n.destroyed + (rest + 1) at hn
    change n.acquired = n.released + 1 + n.destroyed + (rest + 0)
    omega
  | destroyed c =>
    obtain rfl : held = some { connection := c, broken := true } := h
    change n.acquired = n.released + n.destroyed + (rest + 1) at hn
    change n.acquired = n.released + (n.destroyed + 1) + (rest + 0)
    omega
  | called c call succeeded =>
    cases call with
    | execute sql params => exact hn
    | begin =>
      obtain rfl : held = some { connection := c } := h
      exact hn
    | commit =>
      obtain rfl : held = some { connection := c } := h
      exact hn
    | rollback =>
      obtain rfl : held = some { connection := c } := h
      exact hn

namespace System

/-- Whatever happens next, the accounts stay balanced. -/
theorem Balanced.step {p : Profile} {sys sys' : System κ} (h : sys.Balanced)
    (hstep : Step p sys sys') : sys'.Balanced := by
  obtain ⟨hcounters, htasks⟩ := h
  cases hstep with
  | start b s begun cmd n handles tasks huses =>
    -- what the command takes from the handles is in the hands of the new task
    have htakes := cmd.countP_takes { profile := p, backend := b } s begun
    refine ⟨?_, Multiset.forall_mem_cons.mpr ⟨cmd.sound_task _ s begun, htasks⟩⟩
    simp only [held, Multiset.countP_add] at hcounters
    simp only [held, Multiset.countP_cons]
    omega
  | event n handles tasks held e events leaves =>
    -- the counters and the hands of this one task change together
    obtain ⟨⟨hlawful, hsound⟩, htasks⟩ := Multiset.forall_mem_cons.mp htasks
    refine ⟨?_, Multiset.forall_mem_cons.mpr ⟨hsound, htasks⟩⟩
    simp only [System.held, Multiset.countP_cons, ← Nat.add_assoc (handles.countP _)]
      at hcounters ⊢
    exact hlawful.post hcounters
  | finish n handles tasks held leaves =>
    -- what is still in the task's hands goes over into the handles that it leaves
    obtain ⟨hsound, htasks⟩ := Multiset.forall_mem_cons.mp htasks
    have hleaves := hsound.countP_leaves
    refine ⟨?_, htasks⟩
    simp only [System.held, Multiset.countP_cons] at hcounters
    simp only [System.held, Multiset.countP_add]
    omega

theorem Reachable.balanced {p : Profile} {sys : System κ} (h : Reachable p sys) :
    sys.Balanced := by
  induction h with
  | refl => exact ⟨rfl, by simp⟩
  | tail _ hstep ih => exact ih.step hstep

/-- **Every connection is handed back exactly once, and in the right way.**  Whatever is under way,
and whatever the backend answers, the connections that were checked out are those that were handed
back and those that a handle or a task holds, so when nothing holds one, none is outstanding.  What a
task does next is in order, and all that it still has to do is: it releases a connection if every
begin, commit and rollback on it has succeeded, destroys it otherwise, and leaves no connection
behind but in a handle.  The pool does not change for a request that does not compile, when it has
refused a connection, or for a transaction on a borrowed one. -/
theorem accounts {p : Profile} {sys : System κ} (h : Reachable p sys) :
    sys.counters.acquired = sys.counters.released + sys.counters.destroyed + sys.held ∧
      (sys.tasks = 0 → (∀ x ∈ sys.handles, x.connection? = none) → sys.counters.outstanding = 0) ∧
      (∀ t ∈ sys.tasks, t.Sound ∧ ∀ e events, t.events = e :: events → e.Lawful t.held) ∧
      ∀ {σ α : Type} (b : Backend σ κ) (s : σ) (begun : Nat) (n : Counters),
        let events (cmd : Command κ α) := (cmd.task { profile := p, backend := b } s begun).events
        (∀ r cause, p.compile r = .error cause → (events (.run r)).foldl Counters.post n = n) ∧
        (∀ cmd cause s', cmd.Opens → b.acquire.run s = (.error cause, s') →
          (events cmd).foldl Counters.post n = n) ∧
        ∀ cmd, cmd.Borrows → (events cmd).foldl Counters.post n = n := by
  obtain ⟨hcounters, htasks⟩ := h.balanced
  refine ⟨hcounters, ?_, ?_, ?_⟩
  · intro hnone hhandles
    have hheld : sys.held = 0 := by
      rw [held, hnone, Multiset.countP_zero, Nat.add_zero, Multiset.countP_eq_zero]
      intro x hx
      rw [hhandles x hx]
      simp
    rw [Counters.outstanding]
    omega
  · intro t ht
    refine ⟨htasks t ht, fun e events hevents => ?_⟩
    have hsound := htasks t ht
    rw [Task.Sound, hevents] at hsound
    exact hsound.1
  · intro σ α b s begun n events
    refine ⟨fun r cause hr => ?_, fun cmd cause s' hopens hrefused => ?_, fun cmd hborrows => ?_⟩
    · simp only [events, Command.events_run_of_error { profile := p, backend := b } hr s begun]
      rfl
    · rcases Command.events_of_refused { profile := p, backend := b } hopens hrefused begun
        with hevents | hevents
      · simp only [events, hevents]
        rfl
      · simp only [events, hevents]
        rfl
    · obtain ⟨c, hstatements⟩ :=
        Command.events_of_borrows { profile := p, backend := b } hborrows s begun
      exact Counters.foldl_post_of_isExecute hstatements n

/-- A transaction whose commit has failed, and whose connection is about to be destroyed. -/
def failedCommit : System Unit :=
  { counters := { acquired := 1 }
    tasks := {{ held := some { connection := (), broken := true }
                events := [.destroyed ()]
                leaves := [] }} }

theorem accounts_failedCommit :
    Reachable { dialect := .sqlite } failedCommit ∧
      failedCommit.counters.acquired =
        failedCommit.counters.released + failedCommit.counters.destroyed + failedCommit.held ∧
      ∀ t ∈ failedCommit.tasks, t.Sound ∧ ∀ e events, t.events = e :: events → e.Lawful t.held := by
  let p : Profile := { dialect := .sqlite }
  let pool : ScriptedPool := { commitFailure := some { message := "busy" } }
  let tx : Transaction Unit := { id := 1, holding := .pooled, connection := () }
  have hbegun : Reachable p
      { tasks := {{ held := none
                    events := [.acquired (), .called () .begin true]
                    leaves := [.transaction tx] }} } :=
    .single (.start ScriptedPool.backend pool 0 (.begin : Command Unit Unit) {} 0 0
      (by simp [Command.uses]))
  have hacquired := hbegun.tail
    (.event {} 0 0 none (.acquired ()) [.called () .begin true] [.transaction tx])
  have hactive := hacquired.tail
    (.event { acquired := 1 } 0 0 (some { connection := () }) (.called () .begin true) []
      [.transaction tx])
  have hopen : Reachable p { counters := { acquired := 1 }, handles := {.transaction tx} } :=
    hactive.tail (.finish { acquired := 1 } 0 0 (some { connection := () }) [.transaction tx])
  -- the pool is busy when the transaction is committed
  have hcommit : Reachable p
      { counters := { acquired := 1 }
        tasks := {{ held := some { connection := () }
                    events := [.called () .commit false, .destroyed ()]
                    leaves := [] }} } :=
    hopen.tail (.start ScriptedPool.backend pool 1 (.finish tx (.commit ())) { acquired := 1 } 0 0
      (by simp [Command.uses]))
  have hfailed : Reachable p failedCommit :=
    hcommit.tail (.event { acquired := 1 } 0 0 (some { connection := () })
      (.called () .commit false) [.destroyed ()] [])
  exact ⟨hfailed, (accounts hfailed).1, (accounts hfailed).2.2.1⟩

end System

end PolySql

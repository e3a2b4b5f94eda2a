import Mathlib.Order.Defs.Unbundled
import PolySql.Client

/-!
# Watched backends

`Backend.watched` is a backend with a log of what its pool and its connections get to see.  It
answers as the backend does, so the log of an operation of a client is what the operation does to
the pool, in order, whatever the backend answers.

Requests show in the log as statements on one connection and nothing else (`Client.leads_runOn`).
-/

namespace PolySql

variable {σ κ α β : Type}

/-! ### The log -/

/-- Something that a pool or one of its connections gets to see. -/
inductive Event (κ : Type) where
  /-- A connection was checked out. -/
  | acquired (c : κ)
  /-- No connection was to be had. -/
  | refused
  | released (c : κ)
  | destroyed (c : κ)
  /-- A call was made, and succeeded or not. -/
  | called (c : κ) (call : Call) (succeeded : Bool)

namespace Event

/-- A statement on a connection. -/
def IsExecute (c : κ) (e : Event κ) : Prop :=
  ∃ sql params succeeded, e = .called c (.execute sql params) succeeded

/-- The call of an event, with its connection. -/
def call? : Event κ → Option (κ × Call)
  | .called c call _ => some (c, call)
  | _ => none

@[simp] theorem call?_acquired (c : κ) : (acquired c).call? = none := rfl

@[simp] theorem call?_refused : (refused : Event κ).call? = none := rfl

@[simp] theorem call?_released (c : κ) : (released c).call? = none := rfl

@[simp] theorem call?_destroyed (c : κ) : (destroyed c).call? = none := rfl

@[simp] theorem call?_called (c : κ) (call : Call) (succeeded : Bool) :
    (called c call succeeded).call? = some (c, call) := rfl

end Event

/-- A backend's state and the events so far. -/
structure Watched (σ κ : Type) where
  backend : σ
  events : List (Event κ) := []

@[simp] theorem isOk_ok (a : α) : (.ok a : Except β α).isOk = true := rfl

@[simp] theorem isOk_error (e : β) : (.error e : Except β α).isOk = false := rfl

namespace Watched

/-- Act on the backend and keep the event that the outcome makes. -/
def keep (act : StateM σ α) (event : α → Event κ) : StateM (Watched σ κ) α := fun w =>
  let (a, s) := act.run w.backend
  (a, { backend := s, events := w.events ++ [event a] })

@[simp] theorem run_keep (act : StateM σ α) (event : α → Event κ) (w : Watched σ κ) :
    (keep act event).run w =
      ((act.run w.backend).1,
        { backend := (act.run w.backend).2
          events := w.events ++ [event (act.run w.backend).1] }) := rfl

/-- Nothing but statements on a connection lies between two states. -/
def Executes (c : κ) (before after : Watched σ κ) : Prop :=
  ∃ events, after.events = before.events ++ events ∧ ∀ e ∈ events, e.IsExecute c

instance (c : κ) : IsPreorder (Watched σ κ) (Executes c) where
  refl w := ⟨[], by simp, by simp⟩
  trans := by
    rintro w₁ w₂ w₃ ⟨events, h₁₂, hevents⟩ ⟨later, h₂₃, hlater⟩
    refine ⟨events ++ later, by rw [h₂₃, h₁₂, List.append_assoc], fun e he => ?_⟩
    rcases List.mem_append.mp he with he | he
    · exact hevents e he
    · exact hlater e he

end Watched

/-- The event of an attempt to check a connection out. -/
def Event.ofAcquire : Except Error κ → Event κ
  | .ok c => .acquired c
  | .error _ => .refused

/-- A backend that keeps the events. -/
def Backend.watched (b : Backend σ κ) : Backend (Watched σ κ) κ where
  acquire := Watched.keep b.acquire Event.ofAcquire
  release c := Watched.keep (b.release c) fun _ => .released c
  destroy c := Watched.keep (b.destroy c) fun _ => .destroyed c
  begin c := Watched.keep (b.begin c) fun outcome => .called c .begin outcome.isOk
  commit c := Watched.keep (b.commit c) fun outcome => .called c .commit outcome.isOk
  rollback c := Watched.keep (b.rollback c) fun outcome => .called c .rollback outcome.isOk
  execute c sql params :=
    Watched.keep (b.execute c sql params) fun outcome =>
      .called c (.execute sql params) outcome.isOk

namespace Backend

variable (b : Backend σ κ) (c : κ) (w : Watched σ κ)

@[simp] theorem run_watched_acquire :
    b.watched.acquire.run w =
      ((b.acquire.run w.backend).1,
        { backend := (b.acquire.run w.backend).2
          events := w.events ++ [.ofAcquire (b.acquire.run w.backend).1] }) := rfl

@[simp] theorem run_watched_release :
    (b.watched.release c).run w =
      (((b.release c).run w.backend).1,
        { backend := ((b.release c).run w.backend).2, events := w.events ++ [.released c] }) := rfl

@[simp] theorem run_watched_destroy :
    (b.watched.destroy c).run w =
      (((b.destroy c).run w.backend).1,
        { backend := ((b.destroy c).run w.backend).2, events := w.events ++ [.destroyed c] }) := rfl

@[simp] theorem run_watched_begin :
    (b.watched.begin c).run w =
      (((b.begin c).run w.backend).1,
        { backend := ((b.begin c).run w.backend).2
          events := w.events ++ [.called c .begin ((b.begin c).run w.backend).1.isOk] }) := rfl

@[simp] theorem run_watched_commit :
    (b.watched.commit c).run w =
      (((b.commit c).run w.backend).1,
        { backend := ((b.commit c).run w.backend).2
          events := w.events ++ [.called c .commit ((b.commit c).run w.backend).1.isOk] }) := rfl

@[simp] theorem run_watched_rollback :
    (b.watched.rollback c).run w =
      (((b.rollback c).run w.backend).1,
        { backend := ((b.rollback c).run w.backend).2
          events := w.events ++ [.called c .rollback ((b.rollback c).run w.backend).1.isOk] }) :=
  rfl

end Backend

@[simp] theorem Event.ofAcquire_ok (c : κ) : Event.ofAcquire (.ok c) = .acquired c := rfl

@[simp] theorem Event.ofAcquire_error (e : Error) :
    (Event.ofAcquire (.error e) : Event κ) = .refused := rfl

/-- A client whose backend keeps the events. -/
def Client.watched (client : Client σ κ) : Client (Watched σ κ) κ :=
  { profile := client.profile, backend := client.backend.watched }

/-! ### Where an action leads -/

namespace Action

/-- Whatever state an action starts from, it leads to one that is related to it. -/
def Leads (R : σ → σ → Prop) (act : Action σ α) : Prop :=
  ∀ s, R s (act.exec s).2

variable {R : σ → σ → Prop}

section Refl

variable [Std.Refl R]

theorem leads_pure (a : α) : Leads R (pure a : Action σ α) :=
  fun s => Std.Refl.refl s

theorem leads_throw (e : Error) : Leads R (throw e : Action σ α) :=
  fun s => Std.Refl.refl s

theorem leads_ofExcept (outcome : Except Error α) : Leads R (ofExcept outcome : Action σ α) :=
  fun s => Std.Refl.refl s

end Refl

theorem Leads.attempt {act : Action σ α} (h : Leads R act) : Leads R act.attempt :=
  fun s => h s

variable [IsTrans σ R]

theorem Leads.bind {act : Action σ α} {next : α → Action σ β} (h : Leads R act)
    (hnext : ∀ a, Leads R (next a)) : Leads R (act >>= next) := by
  intro s
  have hs := h s
  rw [exec_bind]
  rcases hact : act.exec s with ⟨_ | a, after⟩
  · rwa [hact] at hs
  · rw [hact] at hs
    exact IsTrans.trans _ _ _ hs (hnext a after)

theorem Leads.tryCatch {act : Action σ α} {handle : Error → Action σ α} (h : Leads R act)
    (hhandle : ∀ e, Leads R (handle e)) : Leads R (tryCatch act handle) := by
  intro s
  have hs := h s
  rw [exec_tryCatch]
  rcases hact : act.exec s with ⟨e | _, after⟩
  · rw [hact] at hs
    exact IsTrans.trans _ _ _ hs (hhandle e after)
  · rwa [hact] at hs

end Action

/-! ### Requests -/

open PolySql.Action

variable (b : Backend σ κ) (c : κ) (d : Dialect)

theorem Backend.leads_dispatch (sql : String) (params : List Param) :
    Leads (Watched.Executes c) (b.watched.dispatch c sql params) := by
  intro w
  -- the statement shows in the log before its report is turned into an error
  have hevents : ((b.watched.dispatch c sql params).exec w).2.events =
      w.events ++ [.called c (.execute sql params)
        ((b.execute c sql params).run w.backend).1.isOk] := by
    rw [exec_dispatch]
    rcases h : (b.execute c sql params).run w.backend with ⟨_ | _, _⟩ <;>
      simp [Backend.watched, h]
  refine ⟨_, hevents, fun e he => ?_⟩
  obtain rfl := List.mem_singleton.mp he
  exact ⟨sql, params, _, rfl⟩

theorem Statement.leads_runRefetch (refetch : Refetch) (response : Response) :
    Leads (Watched.Executes c) (Statement.runRefetch b.watched c refetch response) := by
  refine (leads_ofExcept _).bind fun params => ?_
  exact (b.leads_dispatch c _ _).bind fun _ => leads_pure _

theorem Statement.leads_run (s : Statement) :
    Leads (Watched.Executes c) (s.run b.watched c d) := by
  by_cases hblank : Text.isAllBlank s.sql = true
  · simp only [Statement.run, hblank, if_true]
    exact leads_throw _
  · simp only [Statement.run, hblank]
    refine (b.leads_dispatch c _ _).bind fun response => ?_
    cases s.refetch with
    | none => exact leads_pure _
    | some refetch => exact Statement.leads_runRefetch b c refetch response

theorem Statement.leads_runTolerant (s : Statement) :
    Leads (Watched.Executes c) (s.runTolerant b.watched c d) := by
  refine (s.leads_run b c d).tryCatch fun e => ?_
  split
  · exact leads_pure _
  · exact leads_throw _

theorem Compiled.leads_runFrom (last : Response) (ss : List Statement) :
    Leads (Watched.Executes c) (Compiled.runFrom b.watched c d last ss) := by
  induction ss generalizing last with
  | nil => exact leads_pure _
  | cons s ss ih => exact (s.leads_runTolerant b c d).bind fun response => ih response

theorem Compiled.leads_run (compiled : Compiled) :
    Leads (Watched.Executes c) (compiled.run b.watched c d) :=
  leads_runFrom b c d _ _

/-- All that a request does to a connection is to run statements on it. -/
theorem Client.leads_runOn (client : Client σ κ) (r : Request) :
    Leads (Watched.Executes c) (client.watched.runOn c r) := by
  refine (leads_ofExcept _).bind fun compiled => ?_
  refine (compiled.leads_run client.backend c _).bind fun response => ?_
  exact leads_ofExcept _

end PolySql

import PolySql.Proofs.Client.Script
import PolySql.Proofs.Transaction.Events

/-!
# The ways of running a request

A request runs on a connection of its own, on one that the caller holds, or in a transaction
(`Way`).  The transaction may have checked its connection out, be on one that the caller holds, or be
nested in another one, to any depth (`Scope`).

Opening and ending transactions sends no statements, so under one script all ways send the same
statements and have the same outcome (`Way.run_agrees`).
-/

namespace PolySql

open Scenario (Ending)

variable {σ κ τ ι ρ : Type}

/-! ### Transactions around a request -/

/-- A transaction around a request, with the transactions around it.  Each ends by the outcome of the
request. -/
inductive Scope (κ : Type) where
  | pooled (ending : Except Error Output → Ending Unit)
  | supplied (c : κ) (ending : Except Error Output → Ending Unit)
  | nested (outer : Scope κ) (ending : Except Error Output → Ending Unit)

namespace Scope

/-- Do something in an open transaction and end the transaction. -/
def enclose (client : Client σ κ) (tx : Transaction κ) (ending : Except Error Output → Ending Unit)
    (act : Session σ κ Output) : Session σ κ Output := do
  let outcome ← act.attempt
  let _ ← (ending outcome).apply client tx
  Action.ofExcept outcome

/-- Open the transactions, the outermost one first, do something in the innermost one, and end
them. -/
def within (client : Client σ κ) :
    Scope κ → (Transaction κ → Session σ κ Output) → Session σ κ Output
  | .pooled ending, act => do
    let tx ← Transaction.begin client.backend
    enclose client tx ending (act tx)
  | .supplied c ending, act => do
    let tx ← Transaction.onConnection c
    enclose client tx ending (act tx)
  | .nested outer ending, act =>
    outer.within client fun around => do
      let tx ← around.nest
      enclose client tx ending (act tx)

/-- The outermost transaction can be opened. -/
def Opens (b : Backend σ κ) (s : σ) : Scope κ → Prop
  | .pooled _ => ∃ c held begun,
    b.acquire.run s = (.ok c, held) ∧ (b.begin c).run held = (.ok (), begun)
  | .supplied _ _ => True
  | .nested outer _ => outer.Opens b s

end Scope

/-! ### Statements sent -/

namespace Watched

/-- No statements are sent between two worlds. -/
def Quiet (before after : World (Watched σ κ) κ) : Prop :=
  after.backend.executed = before.backend.executed

instance : IsPreorder (World (Watched σ κ) κ) Quiet where
  refl _ := rfl
  trans _ _ _ h₁₂ h₂₃ := h₂₃.trans h₁₂

end Watched

open Watched (Quiet)

theorem quiet_of_events {before after : World (Watched σ κ) κ} {events : List (Event κ)}
    (hevents : after.backend.events = before.backend.events ++ events)
    (hquiet : events.filterMap Event.statement? = []) : Quiet before after := by
  rw [Quiet, Watched.executed, hevents, List.filterMap_append, hquiet, List.append_nil]
  rfl

theorem statement?_handBack (c : κ) (trusted : Bool) :
    (Event.handBack c trusted).statement? = none := by
  cases trusted <;> rfl

theorem Closes.quiet {α : Type} {c : κ} {ending : Ending α} {events : List (Event κ)}
    {left : List κ} (h : Closes c ending events left) :
    events.filterMap Event.statement? = [] := by
  cases h with
  | commit answer succeeded =>
    rw [List.filterMap_cons_none rfl, List.filterMap_cons_none (statement?_handBack c succeeded)]
    rfl
  | rollback cause succeeded =>
    rw [List.filterMap_cons_none rfl, List.filterMap_cons_none (statement?_handBack c succeeded)]
    rfl
  | release answer => rfl
  | drop => rfl
  | dropWithoutBackground => rfl

/-- Opening a transaction sends no statements. -/
theorem Transaction.quiet_begin (b : Backend σ κ) :
    Action.Leads Quiet (Transaction.begin b.watched) := by
  intro w
  rw [exec_begin]
  rcases b.acquire.run w.backend.backend with ⟨cause | c, held⟩
  · exact quiet_of_events rfl rfl
  · dsimp only
    rcases (b.begin c).run held with ⟨report | _, begun⟩
    · exact quiet_of_events rfl rfl
    · exact quiet_of_events rfl rfl

/-- Nor does ending one, which always goes on. -/
theorem Scenario.Ending.exists_exec_apply (client : Client σ κ) (tx : Transaction κ)
    (ending : Ending Unit) (w : World (Watched σ κ) κ) :
    ∃ answer closed, (ending.apply client.watched tx).exec w = (.ok answer, closed) ∧
      Quiet w closed := by
  by_cases hpooled : tx.holding = .pooled
  · obtain ⟨id, holding, c⟩ := tx
    obtain rfl : holding = .pooled := hpooled
    obtain ⟨answer, s, events, left, hexec, hcloses⟩ := ending.exec_apply client id c w
    exact ⟨answer, _, hexec, quiet_of_events rfl hcloses.quiet⟩
  · rw [apply_eq_pure client.watched tx hpooled ending]
    exact ⟨_, w, rfl, rfl⟩

namespace Scope

/-- The outcome of what is done in a transaction is there after its end. -/
theorem exists_exec_enclose (client : Client σ κ) (tx : Transaction κ)
    (ending : Except Error Output → Ending Unit) (act : Session (Watched σ κ) κ Output)
    (w : World (Watched σ κ) κ) :
    ∃ closed, (enclose client.watched tx ending act).exec w = ((act.exec w).1, closed) ∧
      Quiet (act.exec w).2 closed := by
  obtain ⟨answer, closed, hexec, hquiet⟩ :=
    (ending (act.exec w).1).exists_exec_apply client tx (act.exec w).2
  refine ⟨closed, ?_, hquiet⟩
  rw [enclose, Action.exec_bind, Action.exec_attempt]
  simp only [Action.exec_bind, hexec, Action.exec_ofExcept]

/-- Transactions that can be opened are opened around what is done in the innermost one, and make no
difference to its statements and its outcome. -/
theorem exists_exec_within (client : Client σ κ) {script : Script ρ} {view : σ → ρ}
    (h : client.backend.Plays script view) (scope : Scope κ) {w : World (Watched σ κ) κ}
    (hopens : scope.Opens client.backend w.backend.backend) :
    ∃ tx opened, Quiet w opened ∧ view opened.backend.backend = view w.backend.backend ∧
      ∀ act : Transaction κ → Session (Watched σ κ) κ Output,
        ∃ closed, (scope.within client.watched act).exec w = (((act tx).exec opened).1, closed) ∧
          Quiet ((act tx).exec opened).2 closed := by
  induction scope with
  | pooled ending =>
    obtain ⟨c, held, begun, hacquire, hbegin⟩ := hopens
    have hview : view begun = view w.backend.backend := by
      have hheld := h.acquire w.backend.backend
      have hbegun := h.begin c held
      rw [hacquire] at hheld
      rw [hbegin] at hbegun
      exact hbegun.trans hheld
    have hopened := Transaction.exec_begin client.backend w
    simp only [hacquire, hbegin] at hopened
    refine ⟨{ id := w.begun + 1, holding := .pooled, connection := c },
      w.opening begun [.acquired c, .called c .begin true], quiet_of_events rfl rfl, hview,
      fun act => ?_⟩
    obtain ⟨closed, hclosed, hquiet⟩ := exists_exec_enclose client
      { id := w.begun + 1, holding := .pooled, connection := c } ending (act _)
      (w.opening begun [.acquired c, .called c .begin true])
    refine ⟨closed, ?_, hquiet⟩
    rw [within, Action.exec_bind]
    simp only [Client.watched, hopened]
    exact hclosed
  | supplied c ending =>
    refine ⟨{ id := w.begun + 1, holding := .supplied, connection := c },
      { w with begun := w.begun + 1 }, rfl, rfl, fun act => ?_⟩
    exact exists_exec_enclose client _ ending (act _) { w with begun := w.begun + 1 }
  | nested outer ending ih =>
    obtain ⟨around, opened, hquiet, hview, houter⟩ := ih hopens
    refine ⟨{ id := opened.begun + 1, holding := .nested, connection := around.connection },
      { opened with begun := opened.begun + 1 }, hquiet, hview, fun act => ?_⟩
    -- the inner transaction ends first
    obtain ⟨inner, hinner, hended⟩ := exists_exec_enclose client
      { id := opened.begun + 1, holding := .nested, connection := around.connection } ending (act _)
      { opened with begun := opened.begun + 1 }
    obtain ⟨closed, hclosed, hlater⟩ := houter fun around =>
      around.nest >>= fun tx => enclose client.watched tx ending (act tx)
    have hact : (around.nest >>= fun tx => enclose client.watched tx ending (act tx)).exec opened =
        (((act { id := opened.begun + 1, holding := .nested, connection := around.connection }).exec
          { opened with begun := opened.begun + 1 }).1, inner) := hinner
    rw [hact] at hclosed hlater
    exact ⟨closed, hclosed, IsTrans.trans _ _ _ hended hlater⟩

/-- Transactions around something that sends no statements send none, whether they can be opened or
not. -/
theorem leads_within (client : Client σ κ) (scope : Scope κ)
    {act : Transaction κ → Session (Watched σ κ) κ Output}
    (hact : ∀ tx, Action.Leads Quiet (act tx)) :
    Action.Leads Quiet (scope.within client.watched act) := by
  have henclose (tx : Transaction κ) (ending : Except Error Output → Ending Unit)
      {act : Session (Watched σ κ) κ Output} (hact : Action.Leads Quiet act) :
      Action.Leads Quiet (enclose client.watched tx ending act) := by
    intro w
    obtain ⟨closed, hexec, hquiet⟩ := exists_exec_enclose client tx ending act w
    rw [hexec]
    exact IsTrans.trans _ _ _ (hact w) hquiet
  induction scope generalizing act with
  | pooled ending =>
    exact (Transaction.quiet_begin client.backend).bind fun tx => henclose tx ending (hact tx)
  | supplied c ending =>
    exact fun w => henclose _ ending (hact _) { w with begun := w.begun + 1 }
  | nested outer ending ih =>
    refine ih fun around w => ?_
    exact henclose _ ending (hact _) { w with begun := w.begun + 1 }

end Scope

/-! ### All ways -/

/-- Where a request runs. -/
inductive Way (κ : Type) where
  /-- On a connection of its own. -/
  | own
  /-- On a connection that the caller holds. -/
  | on (c : κ)
  /-- In a transaction. -/
  | within (scope : Scope κ)

namespace Way

/-- Run a request. -/
def run (client : Client σ κ) (r : Request) : Way κ → Session σ κ Output
  | .own => Session.lift (client.run r)
  | .on c => Session.lift (client.runOn c r)
  | .within scope => scope.within client fun tx => Session.lift (client.runIn tx r)

/-- There is a connection to be had, and a transaction where one is wanted. -/
def Opens (b : Backend σ κ) (s : σ) : Way κ → Prop
  | .own => ∃ c held, b.acquire.run s = (.ok c, held)
  | .on _ => True
  | .within scope => scope.Opens b s

/-- A request that does not compile leaves the pool as it is. -/
theorem exec_run_own_of_refused {b : Backend σ κ} {p : Profile} {r : Request} {e : Error}
    (hcompile : p.compile r = .error e) (w : World (Watched σ κ) κ) :
    (own.run ({ profile := p, backend := b } : Client σ κ).watched r).exec w = (.error e, w) := by
  rw [run, Session.exec_lift, Client.exec_run]
  simp only [Client.watched, hcompile]

/-- Under a script, a request sends the statements of its course, and has its outcome, whichever way
it goes. -/
theorem exec_run {b : Backend σ κ} {script : Script ρ} {view : σ → ρ} (h : b.Plays script view)
    (p : Profile) (r : Request) (way : Way κ) {w : World (Watched σ κ) κ}
    (hopens : way.Opens b w.backend.backend) :
    let final := (way.run ({ profile := p, backend := b } : Client σ κ).watched r).exec w
    let course := script.course (view w.backend.backend) p r
    final.1 = course.1 ∧ final.2.backend.executed = w.backend.executed ++ course.2 := by
  let client : Client σ κ := { profile := p, backend := b }
  intro final course
  -- what the request sends once it has a connection
  have hrunOn (c : κ) (v : Watched σ κ) (hview : view v.backend = view w.backend.backend) :
      ((client.watched.runOn c r).exec v).1 = course.1 ∧
        ((client.watched.runOn c r).exec v).2.executed = v.executed ++ course.2 := by
    obtain ⟨xs, after, hexec, hstatements⟩ := Script.exists_exec_runOn h p r c v
    rw [hview] at hexec hstatements
    refine ⟨by rw [hexec], ?_⟩
    rw [hexec, Watched.executed_append v.backend, filterMap_statement?_exchanges, hstatements]
  cases way with
  | own =>
    obtain ⟨c, held, hacquire⟩ := hopens
    have hheld : view held = view w.backend.backend := by
      have hacquired := h.acquire w.backend.backend
      rwa [hacquire] at hacquired
    rcases hcompile : p.compile r with e | compiled
    · -- then nothing is done, and nothing is in the course
      have hfinal : final = (.error e, w) := exec_run_own_of_refused hcompile w
      have hcourse : course = (.error e, []) := script.course_of_refused _ hcompile
      rw [hfinal, hcourse, List.append_nil]
      exact ⟨rfl, rfl⟩
    · let taken : Watched σ κ := { backend := held, events := w.backend.events ++ [.acquired c] }
      obtain ⟨houtcome, hstatements⟩ := hrunOn c taken hheld
      have htaken : taken.executed = w.backend.executed := by
        rw [Watched.executed_append w.backend.backend]
        exact List.append_nil _
      have hfinal : final = (((client.watched.runOn c r).exec taken).1,
          { w with
            backend := ((b.watched.release c).run ((client.watched.runOn c r).exec taken).2).2 }) := by
        change (Session.lift (client.watched.run r)).exec w = _
        rw [Session.exec_lift, Client.exec_run]
        simp only [Client.watched, client, hcompile, Backend.run_watched_acquire, hacquire,
          Event.ofAcquire_ok]
        rfl
      rw [hfinal]
      refine ⟨houtcome, ?_⟩
      rw [← htaken, ← hstatements, Backend.run_watched_release,
        Watched.executed_append ((client.watched.runOn c r).exec taken).2.backend]
      exact List.append_nil _
  | on c => exact hrunOn c w.backend rfl
  | within scope =>
    obtain ⟨tx, opened, hquiet, hview, hwithin⟩ := Scope.exists_exec_within client h scope hopens
    obtain ⟨closed, hclosed, hended⟩ := hwithin fun tx => Session.lift (client.watched.runIn tx r)
    obtain ⟨houtcome, hstatements⟩ := hrunOn tx.connection opened.backend hview
    have hfinal : final = (((client.watched.runOn tx.connection r).exec opened.backend).1, closed) :=
      hclosed
    rw [hfinal]
    refine ⟨houtcome, hended.trans ?_⟩
    rw [← hquiet]
    exact hstatements

/-- A request that does not compile sends no statements, whichever way it goes. -/
theorem quiet_of_refused {b : Backend σ κ} {p : Profile} {r : Request} {e : Error}
    (hcompile : p.compile r = .error e) (way : Way κ) :
    Action.Leads Quiet (way.run ({ profile := p, backend := b } : Client σ κ).watched r) := by
  have hrunOn (c : κ) : Action.Leads Quiet
      (Session.lift (({ profile := p, backend := b } : Client σ κ).watched.runOn c r)) := by
    intro w
    rw [Client.watched, Session.exec_lift, Client.exec_runOn_of_refused _ hcompile]
    exact Std.Refl.refl w
  cases way with
  | own =>
    intro w
    rw [exec_run_own_of_refused hcompile]
    exact Std.Refl.refl w
  | on c => exact hrunOn c
  | within scope => exact scope.leads_within _ fun tx => hrunOn tx.connection

/-- **All ways of running a request agree.**  On two backends that play one script, and are at the
same place in it, two ways of running a request have the same outcome and send the same statements,
with the same parameters, in the same order.  A request that does not compile sends none, and on a
connection of its own it leaves the pool as it is. -/
theorem run_agrees (p : Profile) (r : Request) {script : Script ρ} {b : Backend σ κ} {view : σ → ρ}
    (hb : b.Plays script view) {b' : Backend τ ι} {view' : τ → ρ} (hb' : b'.Plays script view')
    (way : Way κ) (other : Way ι) (w : World (Watched σ κ) κ) (w' : World (Watched τ ι) ι) :
    let final := (way.run ({ profile := p, backend := b } : Client σ κ).watched r).exec w
    let final' := (other.run ({ profile := p, backend := b' } : Client τ ι).watched r).exec w'
    (view w.backend.backend = view' w'.backend.backend →
      way.Opens b w.backend.backend → other.Opens b' w'.backend.backend →
      final.1 = final'.1 ∧
        ∃ statements, final.2.backend.executed = w.backend.executed ++ statements ∧
          final'.2.backend.executed = w'.backend.executed ++ statements) ∧
    ∀ e, p.compile r = .error e →
      final.2.backend.executed = w.backend.executed ∧ (way = .own → final = (.error e, w)) := by
  intro final final'
  refine ⟨fun hviews hopens hopens' => ?_, fun e hcompile => ?_⟩
  · obtain ⟨houtcome, hstatements⟩ := way.exec_run hb p r hopens
    obtain ⟨houtcome', hstatements'⟩ := other.exec_run hb' p r hopens'
    rw [hviews] at houtcome hstatements
    exact ⟨houtcome.trans houtcome'.symm, _, hstatements, hstatements'⟩
  · refine ⟨way.quiet_of_refused hcompile w, ?_⟩
    rintro rfl
    exact exec_run_own_of_refused hcompile w

end Way

namespace ScriptedPool

/-- The script of a scripted backend: every rule stays in force. -/
def script : Script (List (String × Except DriverError Response)) := fun sql _ rules =>
  (({ rules } : ScriptedPool).answer sql, rules)

theorem plays_script : backend.Plays script ScriptedPool.rules where
  acquire p := by
    obtain ⟨events, rules, begin, commit, rollback, acquire, acquired, released, destroyed⟩ := p
    cases acquire <;> rfl
  release _ _ := rfl
  destroy _ _ := rfl
  begin _ p := by
    obtain ⟨events, rules, begin, commit, rollback, acquire, acquired, released, destroyed⟩ := p
    cases begin <;> rfl
  commit _ p := by
    obtain ⟨events, rules, begin, commit, rollback, acquire, acquired, released, destroyed⟩ := p
    cases commit <;> rfl
  rollback _ p := by
    obtain ⟨events, rules, begin, commit, rollback, acquire, acquired, released, destroyed⟩ := p
    cases rollback <;> rfl
  execute _ _ _ _ := rfl

end ScriptedPool

namespace Way

/-- A request in a transaction that is nested in another one, and on a connection of its own. -/
theorem run_agrees_nested :
    let pool := ScriptedPool.ofRules [.respond "select" { rowsAffected := 3 }]
    let r : Request := .query (Query.select "users") none
    let way : Way Unit := .within (.nested (.pooled fun _ => .commit ()) fun _ => .drop)
    let w : World (Watched ScriptedPool Unit) Unit := { backend := { backend := pool } }
    let final := (way.run (ScriptedPool.client .oracle).watched r).exec w
    let final' := ((own : Way Unit).run (ScriptedPool.client .oracle).watched r).exec w
    final.1 = final'.1 ∧
      ∃ statements, final.2.backend.executed = statements ∧
        final'.2.backend.executed = statements := by
  intro pool r way w final final'
  obtain ⟨hagree, -⟩ := run_agrees (ScriptedPool.client .oracle).profile r ScriptedPool.plays_script
    ScriptedPool.plays_script way .own w w
  exact hagree rfl ⟨(), _, _, rfl, rfl⟩ ⟨(), _, rfl⟩

end Way

end PolySql

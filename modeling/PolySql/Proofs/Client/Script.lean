import PolySql.Proofs.Client.Request
import PolySql.Proofs.Execution.Sequence

/-!
# Scripts

A script answers statements one after the other.  A backend plays a script if it answers the
statements on all of its connections by it, and nothing else that is done to it has a part in that
(`Backend.Plays`).

A request takes its course by the answers that it gets (`Profile.Takes`), so under one script it
takes one course, on whatever connection of whatever backend (`Script.exists_exec_runOn`).
-/

namespace PolySql

variable {σ κ ρ : Type}

/-! ### The statements in a log -/

/-- The statement of an event, with its parameters. -/
def Event.statement? : Event κ → Option (String × List Param)
  | .called _ (.execute sql params) _ => some (sql, params)
  | _ => none

/-- The statements that were sent, with their parameters. -/
def Watched.executed (w : Watched σ κ) : List (String × List Param) :=
  w.events.filterMap Event.statement?

/-- The events that follow add their statements. -/
theorem Watched.executed_append (s t : σ) (events later : List (Event κ)) :
    ({ backend := t, events := events ++ later } : Watched σ κ).executed =
      ({ backend := s, events } : Watched σ κ).executed ++ later.filterMap Event.statement? :=
  List.filterMap_append

/-- An exchange without its answer. -/
def Exchange.statement (x : Exchange) : String × List Param :=
  (x.sql, x.params)

theorem filterMap_statement?_exchanges (c : κ) (xs : List Exchange) :
    (xs.map (Exchange.event c)).filterMap Event.statement? = xs.map Exchange.statement := by
  rw [List.filterMap_map, ← List.filterMap_eq_map]
  rfl

/-! ### The course of a request -/

/-- What a request does on a connection, with its outcome. -/
inductive Profile.Takes (p : Profile) (r : Request) :
    List Exchange → Except Error Output → Prop
  /-- It does not compile, and nothing is sent. -/
  | refused {e : Error} (hcompile : p.compile r = .error e) : Takes p r [] (.error e)
  /-- Its statements take a course, and the answer is shaped from the last response. -/
  | course {compiled : Compiled} (hcompile : p.compile r = .ok compiled) {turns : List Turn}
    {last : Except Error Response}
    (hcourse : Turn.Course p.dialect Response.empty compiled.statements turns last) :
    Takes p r (turns.flatMap Turn.exchanges) (last >>= p.output r compiled)

namespace Client

variable {p : Profile} {r : Request}

theorem exec_runOn_of_refused (b : Backend σ κ) {e : Error} (hcompile : p.compile r = .error e)
    (c : κ) (s : σ) : (({ profile := p, backend := b } : Client σ κ).runOn c r).exec s =
      (.error e, s) := by
  rw [exec_runOn]
  simp only [hcompile]

theorem exec_runOn_of_compiled (b : Backend σ κ) {compiled : Compiled}
    (hcompile : p.compile r = .ok compiled) (c : κ) (s : σ) :
    (({ profile := p, backend := b } : Client σ κ).runOn c r).exec s =
      (((compiled.run b c p.dialect).exec s).1 >>= p.output r compiled,
        ((compiled.run b c p.dialect).exec s).2) := by
  rw [exec_runOn]
  simp only [hcompile]
  rcases (compiled.run b c p.dialect).exec s with ⟨e | response, after⟩
  · rfl
  · rfl

/-- A request on a connection takes a course. -/
theorem runOn_takes (client : Client σ κ) (c : κ) (r : Request) (w : Watched σ κ) :
    ∃ xs, client.profile.Takes r xs ((client.watched.runOn c r).exec w).1 ∧
      w.Between client.backend c xs ((client.watched.runOn c r).exec w).2 := by
  rcases hcompile : client.profile.compile r with e | compiled
  · rw [watched, exec_runOn_of_refused _ hcompile]
    exact ⟨[], .refused hcompile, .refl w⟩
  · rw [watched, exec_runOn_of_compiled _ hcompile]
    obtain ⟨turns, hbetween, hcourse⟩ := Compiled.runFrom_course client.backend c
      client.profile.dialect Response.empty compiled.statements w
    exact ⟨_, .course hcompile hcourse, hbetween⟩

/-- **The engine's answers decide.**  A request on a connection takes the course whose exchanges the
backend answers. -/
theorem exec_runOn_of_takes (client : Client σ κ) {r : Request} {xs : List Exchange}
    {outcome : Except Error Output} (h : client.profile.Takes r xs outcome) {c : κ}
    {w : Watched σ κ} {final : σ} (hanswers : client.backend.Answers c w.backend xs final) :
    (client.watched.runOn c r).exec w =
      (outcome, { backend := final, events := w.events ++ xs.map (Exchange.event c) }) := by
  cases h with
  | refused hcompile =>
    obtain rfl := Backend.answers_nil.mp hanswers
    rw [watched, exec_runOn_of_refused _ hcompile]
    simp
  | course hcompile hcourse =>
    have hrun := Compiled.exec_runFrom_of_course hcourse hanswers
    rw [watched, exec_runOn_of_compiled _ hcompile, Compiled.run, hrun]

end Client

/-! ### Playing a script -/

/-- How an engine answers statements, one after the other. -/
abbrev Script (ρ : Type) := String → List Param → StateM ρ (Except DriverError Response)

/-- A backend answers the statements on all of its connections by a script, and nothing else that is
done to it has a part in the answers.  The state of the script is seen in that of the backend. -/
structure Backend.Plays (b : Backend σ κ) (script : Script ρ) (view : σ → ρ) : Prop where
  acquire : ∀ s, view (b.acquire.run s).2 = view s
  release : ∀ c s, view ((b.release c).run s).2 = view s
  destroy : ∀ c s, view ((b.destroy c).run s).2 = view s
  begin : ∀ c s, view ((b.begin c).run s).2 = view s
  commit : ∀ c s, view ((b.commit c).run s).2 = view s
  rollback : ∀ c s, view ((b.rollback c).run s).2 = view s
  execute : ∀ c sql params s,
    (script sql params).run (view s) =
      (((b.execute c sql params).run s).1, view ((b.execute c sql params).run s).2)

/-- The script itself as a backend, with one connection. -/
def Script.backend (script : Script ρ) : Backend ρ Unit where
  acquire := pure (.ok ())
  release _ := pure ()
  destroy _ := pure ()
  begin _ := pure (.ok ())
  commit _ := pure (.ok ())
  rollback _ := pure (.ok ())
  execute _ sql params := script sql params

/-- What a script answers, a backend that plays it answers on any connection. -/
theorem Backend.Plays.exists_answers {b : Backend σ κ} {script : Script ρ} {view : σ → ρ}
    (h : b.Plays script view) (c : κ) {s : σ} {xs : List Exchange} {final : ρ}
    (hanswers : script.backend.Answers () (view s) xs final) :
    ∃ t, b.Answers c s xs t ∧ view t = final := by
  induction xs generalizing s with
  | nil => exact ⟨s, .nil s, Backend.answers_nil.mp hanswers⟩
  | cons x xs ih =>
    obtain ⟨middle, hx, hxs⟩ := Backend.answers_cons.mp hanswers
    have hplayed := (h.execute c x.sql x.params s).symm.trans hx
    obtain ⟨hanswer, rfl⟩ := Prod.mk.inj hplayed
    obtain ⟨t, ht, hview⟩ := ih hxs
    exact ⟨t, .cons (Prod.ext hanswer rfl) ht, hview⟩

namespace Script

/-- What a request does under a script: its outcome, and its statements with their parameters. -/
def course (script : Script ρ) (start : ρ) (p : Profile) (r : Request) :
    Except Error Output × List (String × List Param) :=
  let client : Client ρ Unit := { profile := p, backend := script.backend }
  let final := (client.watched.runOn () r).exec { backend := start }
  (final.1, final.2.executed)

theorem course_of_refused (script : Script ρ) (start : ρ) {p : Profile} {r : Request} {e : Error}
    (hcompile : p.compile r = .error e) : script.course start p r = (.error e, []) := by
  rw [course, Client.watched, Client.exec_runOn_of_refused _ hcompile]
  rfl

/-- **A request takes one course under a script**, on whatever connection of whatever backend that
plays it. -/
theorem exists_exec_runOn {script : Script ρ} {b : Backend σ κ} {view : σ → ρ}
    (h : b.Plays script view) (p : Profile) (r : Request) (c : κ) (w : Watched σ κ) :
    ∃ (xs : List Exchange) (final : σ),
      (({ profile := p, backend := b } : Client σ κ).watched.runOn c r).exec w =
        ((script.course (view w.backend) p r).1,
          { backend := final, events := w.events ++ xs.map (Exchange.event c) }) ∧
      xs.map Exchange.statement = (script.course (view w.backend) p r).2 := by
  let reference : Client ρ Unit := { profile := p, backend := script.backend }
  obtain ⟨xs, htakes, hbetween⟩ := reference.runOn_takes () r { backend := view w.backend }
  obtain ⟨final, hanswers, -⟩ := h.exists_answers c hbetween.answers
  have hrun :=
    ({ profile := p, backend := b } : Client σ κ).exec_runOn_of_takes htakes hanswers
  refine ⟨xs, final, hrun, ?_⟩
  rw [course, Watched.executed, hbetween.events, List.filterMap_append,
    filterMap_statement?_exchanges]
  rfl

end Script

end PolySql

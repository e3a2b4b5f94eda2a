import PolySql.Proofs.Execution.Exchange
import PolySql.Proofs.Fragment.Compiled
import PolySql.ScriptedPool

/-!
# The run of a request

A request that runs on a connection of its own is compiled, has a connection checked out, runs on it
as it would on any other, and has the connection handed back (`Client.exec_run`).

The statement of a query always has text and tolerates nothing, so its run is that of the statement
and then the shape of the answer (`Client.exec_runOn_query`).  From there on the engine's answers
decide what becomes of the query and what it leaves in the log (`Client.exec_run_query`).
-/

namespace PolySql

variable {σ κ : Type}

/-! ### Any request -/

namespace Client

theorem exec_compile (client : Client σ κ) (r : Request) (s : σ) :
    (client.compile r).exec s = (client.profile.compile r, s) := rfl

theorem exec_answer (client : Client σ κ) (r : Request) (compiled : Compiled)
    (response : Response) (s : σ) :
    (client.answer r compiled response).exec s =
      (client.profile.output r compiled response, s) := rfl

/-- On a connection that is there, a request is compiled and then run. -/
theorem exec_runOn (client : Client σ κ) (c : κ) (r : Request) (s : σ) :
    (client.runOn c r).exec s =
      match client.profile.compile r with
      | .error e => (.error e, s)
      | .ok compiled =>
        match (compiled.run client.backend c client.profile.dialect).exec s with
        | (.error e, after) => (.error e, after)
        | (.ok response, after) => (client.profile.output r compiled response, after) := by
  rw [runOn, Action.exec_bind, exec_compile]
  cases client.profile.compile r with
  | error e => rfl
  | ok compiled =>
    simp only [Action.exec_bind, exec_answer]
    rcases (compiled.run client.backend c client.profile.dialect).exec s with ⟨e | response, after⟩
    · rfl
    · rfl

/-- **A request on a connection of its own.**  Nothing happens to the pool if the request does not
compile.  Else a connection is checked out, and what follows is the run on this connection, and then
the connection's release, whatever the outcome. -/
theorem exec_run (client : Client σ κ) (r : Request) (s : σ) :
    (client.run r).exec s =
      match client.profile.compile r with
      | .error e => (.error e, s)
      | .ok _ =>
        match client.backend.acquire.run s with
        | (.error cause, refused) => (.error cause, refused)
        | (.ok c, held) =>
          (((client.runOn c r).exec held).1,
            ((client.backend.release c).run ((client.runOn c r).exec held).2).2) := by
  rw [run, Action.exec_bind, exec_compile]
  rcases hcompile : client.profile.compile r with e | compiled
  · rfl
  · simp only [Action.exec_bind, Backend.exec_checkout]
    rcases client.backend.acquire.run s with ⟨cause | c, held⟩
    · rfl
    · simp only [Action.exec_attempt, Action.exec_perform, exec_runOn, hcompile]
      -- the connection is released before a failure of the statements comes back
      rcases (compiled.run client.backend c client.profile.dialect).exec held with
        ⟨e | response, after⟩
      · rfl
      · rfl

end Client

/-! ### The statement of a query -/

/-- The statement of a query tolerates nothing. -/
theorem Query.tolerates_of_compile {d : Dialect} {quoting : Bool} {q : Query} {s : Statement}
    (h : q.compile d quoting = .ok s) : s.tolerates = none := by
  obtain ⟨draft, -, rfl⟩ := compile_eq_ok.mp h
  rfl

theorem Statement.exec_runTolerant_of_tolerates {s : Statement} (h : s.tolerates = none)
    (b : Backend σ κ) (c : κ) (d : Dialect) (start : σ) :
    (s.runTolerant b c d).exec start = (s.run b c d).exec start := by
  rw [runTolerant, Action.exec_tryCatch]
  rcases (s.run b c d).exec start with ⟨e | response, after⟩
  · have htolerates : s.toleratesError d e = false := by
      cases e <;> simp [toleratesError, h]
    simp only [htolerates, Bool.false_eq_true, if_false, Action.exec_throw]
  · rfl

theorem Compiled.exec_run_single {s : Statement} (h : s.tolerates = none) (b : Backend σ κ) (c : κ)
    (d : Dialect) (start : σ) :
    ((single s).run b c d).exec start = (s.run b c d).exec start := by
  rw [run, statements, runFrom, Action.exec_bind, s.exec_runTolerant_of_tolerates h]
  rcases (s.run b c d).exec start with ⟨e | response, after⟩
  · rfl
  · rfl

/-! ### The run of a query -/

namespace Client

theorem compile_query_of_compile {p : Profile} {q : Query} {transform : Option Transform}
    {s : Statement} (h : q.compile p.dialect p.quoting = .ok s) :
    p.compile (.query q transform) = .ok (.single s) := by
  rw [Profile.compile, Request.compile, h]
  rfl

/-- The run of a query is that of its statement, and then the shape of the answer. -/
theorem exec_runOn_query (client : Client σ κ) {q : Query} (transform : Option Transform)
    {s : Statement} (h : q.compile client.profile.dialect client.profile.quoting = .ok s) (c : κ)
    (start : σ) :
    (client.runOn c (.query q transform)).exec start =
      match (s.run client.backend c client.profile.dialect).exec start with
      | (.error e, after) => (.error e, after)
      | (.ok response, after) =>
        ((Compiled.single s).output response transform client.profile.maxRows, after) := by
  rw [exec_runOn, compile_query_of_compile h]
  simp only [Compiled.exec_run_single (Query.tolerates_of_compile h)]
  rfl

/-- **The engine's answers decide what becomes of a query.**  On a connection of its own, a query
takes the way of its statement whose exchanges the backend answers. -/
theorem exec_run_query {client : Client σ κ} {q : Query} (transform : Option Transform)
    {s : Statement} (h : q.compile client.profile.dialect client.profile.quoting = .ok s)
    {w : Watched σ κ} {c : κ} {held : σ}
    (hacquire : client.backend.acquire.run w.backend = (.ok c, held))
    {xs : List Exchange} {outcome : Except Error Response}
    (hran : s.Ran client.profile.dialect xs outcome) {final : σ}
    (hanswers : client.backend.Answers c held xs final) :
    (client.watched.run (.query q transform)).exec w =
      (outcome >>= fun response =>
        (Compiled.single s).output response transform client.profile.maxRows,
        { backend := ((client.backend.release c).run final).2
          events := w.events ++ .acquired c :: xs.map (Exchange.event c) ++ [.released c] }) := by
  have hcompile : client.watched.profile.compile (.query q transform) = .ok (.single s) :=
    compile_query_of_compile h
  have hrun := Statement.exec_run_of_ran hran
    (w := { backend := held, events := w.events ++ [.acquired c] }) hanswers
  have hrunOn : (client.watched.runOn c (.query q transform)).exec
      { backend := held, events := w.events ++ [.acquired c] } =
        (outcome >>= fun response =>
          (Compiled.single s).output response transform client.profile.maxRows,
          { backend := final
            events := w.events ++ [.acquired c] ++ xs.map (Exchange.event c) }) := by
    have hquery := client.watched.exec_runOn_query transform h c
      { backend := held, events := w.events ++ [.acquired c] }
    rw [hquery]
    simp only [watched, hrun]
    cases outcome <;> rfl
  rw [exec_run, hcompile]
  simp only [watched, Backend.run_watched_acquire, hacquire, Event.ofAcquire_ok] at hrunOn ⊢
  rw [hrunOn]
  simp

end Client

/-- A client on the scripted backend, with the settings that it has of itself. -/
def ScriptedPool.client (d : Dialect) : Client ScriptedPool Unit :=
  { profile := { dialect := d }, backend := ScriptedPool.backend }

end PolySql

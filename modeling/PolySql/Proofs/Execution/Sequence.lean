import PolySql.Dialect.Builtin
import PolySql.Proofs.Execution.Exchange
import PolySql.ScriptedPool

/-!
# The course of a sequence

Statements take their turns in order.  A `Turn` that has `Passed` is followed by the next one: its
statement has succeeded, or has failed in a way that it tolerates.  `Turn.Course` says how the turns
of a sequence make its outcome, and `Compiled.run_course` that every run of a sequence has such a
course, whatever the engine answers.  It has no other than the one that the engine answers
(`Compiled.exec_runFrom_of_course`).

A failure is tolerated by its code.  The sign of a code does not matter, as some drivers report
negative ones (`Statement.toleratesError_of_expects`), and nothing is tolerated without a code of
the same size among those listed (`Statement.expects_of_toleratesError`).
-/

namespace PolySql

variable {σ κ : Type}

/-! ### Tolerated failures -/

namespace Statement

/-- The engine has reported a failure of a statement, or of its refetch, by a code that stands in
the given relation to one of those listed for the conflict that the statement tolerates. -/
def Expects (d : Dialect) (s : Statement) (same : Int32 → Int32 → Prop) (e : Error) : Prop :=
  ∃ sql report conflict code, e = .statement sql report ∧ s.tolerates = some conflict ∧
    report.code = some code ∧ ∃ listed ∈ d.conflictCodes conflict, same listed code

theorem Expects.mono {d : Dialect} {s : Statement} {same same' : Int32 → Int32 → Prop} {e : Error}
    (hsame : ∀ listed code, same listed code → same' listed code) (h : s.Expects d same e) :
    s.Expects d same' e := by
  obtain ⟨sql, report, conflict, code, he, hconflict, hcode, listed, hlisted, hmatch⟩ := h
  exact ⟨sql, report, conflict, code, he, hconflict, hcode, listed, hlisted, hsame _ _ hmatch⟩

theorem toleratesError_iff_expects {d : Dialect} {s : Statement} {e : Error} :
    s.toleratesError d e = true ↔ s.Expects d (fun listed code => code.abs = listed) e := by
  unfold Expects
  cases e with
  | statement sql report =>
    cases htolerates : s.tolerates <;> cases hcode : report.code <;>
      simp +contextual [toleratesError, Dialect.reports, htolerates, hcode, and_assoc]
  | _ => simp [toleratesError]

end Statement

theorem natAbs_toInt_abs (code : Int32) : code.abs.toInt.natAbs = code.toInt.natAbs := by
  rw [← Int32.toInt_toBitVec, Int32.toBitVec_abs, BitVec.toInt_abs_eq_natAbs,
    ← Int32.toInt_toBitVec]
  split
  · -- the least code is its own absolute value
    rename_i hmin
    rw [hmin]
  · rfl

theorem abs_eq_of_toInt_eq {listed code : Int32} (h : listed.toInt = code.toInt.natAbs) :
    code.abs = listed := by
  have hlt := Int32.toInt_lt listed
  rw [← Int32.toInt_inj, h, ← Int32.toInt_toBitVec, Int32.toBitVec_abs,
    BitVec.toInt_abs_eq_natAbs, ← Int32.toInt_toBitVec]
  rw [h, ← Int32.toInt_toBitVec] at hlt
  refine if_neg fun hmin => ?_
  -- the size of the least code is no code
  rw [hmin] at hlt
  exact absurd hlt (by decide)

namespace Statement

variable {d : Dialect} {s : Statement} {e : Error}

/-- A failure is tolerated if the size of its code is listed. -/
theorem toleratesError_of_expects
    (h : s.Expects d (fun listed code => listed.toInt = code.toInt.natAbs) e) :
    s.toleratesError d e = true :=
  toleratesError_iff_expects.mpr (h.mono fun _ _ => abs_eq_of_toInt_eq)

/-- A failure that is tolerated has a code of the same size as a listed one. -/
theorem expects_of_toleratesError (h : s.toleratesError d e = true) :
    s.Expects d (fun listed code => listed.toInt.natAbs = code.toInt.natAbs) e := by
  refine (toleratesError_iff_expects.mp h).mono fun listed code habs => ?_
  rw [← habs, natAbs_toInt_abs]

end Statement

/-! ### Turns -/

/-- The turn of a statement in a sequence, with its exchanges and its outcome. -/
structure Turn where
  statement : Statement
  exchanges : List Exchange
  outcome : Except Error Response

namespace Turn

/-- The statement went in one of its ways. -/
def Ran (d : Dialect) (turn : Turn) : Prop :=
  turn.statement.Ran d turn.exchanges turn.outcome

/-- The sequence goes on after a turn: if it failed, the failure is tolerated. -/
def Passed (d : Dialect) (turn : Turn) : Prop :=
  ∀ e, turn.outcome = .error e → turn.statement.toleratesError d e = true

/-- The response after a turn, which is empty if it failed. -/
def response (turn : Turn) : Response :=
  match turn.outcome with
  | .ok response => response
  | .error _ => Response.empty

/-- How the turns of a sequence make its outcome, `last` being the response before the first of
them.  The first statements have a turn each, in order.  If all of them do, and all turns have
passed, the response after the last turn is the answer.  Else the last turn is the first that has
not passed, and the answer is its error. -/
structure Course (d : Dialect) (last : Response) (ss : List Statement) (turns : List Turn)
    (outcome : Except Error Response) : Prop where
  statements : turns.map Turn.statement <+: ss
  ran : ∀ turn ∈ turns, turn.Ran d
  ends : match outcome with
    | .ok response => turns.map Turn.statement = ss ∧ (∀ turn ∈ turns, turn.Passed d) ∧
      response = (turns.getLast?.map Turn.response).getD last
    | .error e => ∃ passed final, turns = passed ++ [final] ∧ (∀ turn ∈ passed, turn.Passed d) ∧
      ¬ final.Passed d ∧ final.outcome = .error e

section Course

variable {d : Dialect} {last : Response} {ss : List Statement} {turn : Turn} {turns : List Turn}
  {outcome : Except Error Response} {e : Error}

theorem Course.nil : Course d last [] [] (.ok last) where
  statements := List.nil_prefix
  ran := by simp
  ends := ⟨rfl, by simp, rfl⟩

theorem Course.cons (hran : turn.Ran d) (hpassed : turn.Passed d)
    (h : Course d turn.response ss turns outcome) :
    Course d last (turn.statement :: ss) (turn :: turns) outcome where
  statements := (List.prefix_cons_inj _).mpr h.statements
  ran := List.forall_mem_cons.mpr ⟨hran, h.ran⟩
  ends := by
    have hends := h.ends
    rcases outcome with e | response
    · obtain ⟨passed, final, rfl, hpasseds, hfinal⟩ := hends
      exact ⟨turn :: passed, final, rfl, List.forall_mem_cons.mpr ⟨hpassed, hpasseds⟩, hfinal⟩
    · obtain ⟨hall, hpasseds, rfl⟩ := hends
      refine ⟨by rw [List.map_cons, hall], List.forall_mem_cons.mpr ⟨hpassed, hpasseds⟩, ?_⟩
      rw [List.getLast?_cons]
      cases turns.getLast? <;> rfl

theorem Course.stop (hran : turn.Ran d) (hstopped : ¬ turn.Passed d)
    (houtcome : turn.outcome = .error e) :
    Course d last (turn.statement :: ss) [turn] (.error e) where
  statements := by simp
  ran := by simpa using hran
  ends := ⟨[], turn, rfl, by simp, hstopped, houtcome⟩

/-- The first turn of a course either has passed, and the other turns are the course of the other
statements, or is the last one. -/
theorem Course.exists_cons {s : Statement} (h : Course d last (s :: ss) turns outcome) :
    ∃ turn rest, turns = turn :: rest ∧ turn.statement = s ∧ turn.Ran d ∧
      (turn.Passed d ∧ Course d turn.response ss rest outcome ∨
        ¬ turn.Passed d ∧ rest = [] ∧ ∃ e, turn.outcome = .error e ∧ outcome = .error e) := by
  obtain ⟨hstatements, hran, hends⟩ := h
  rcases outcome with e | response
  · obtain ⟨passed, final, rfl, hpassed, hstopped, hfinal⟩ := hends
    cases passed with
    | nil =>
      refine ⟨final, [], rfl, ?_, hran final (by simp), .inr ⟨hstopped, rfl, e, hfinal, rfl⟩⟩
      simpa using hstatements
    | cons turn passed =>
      obtain ⟨rfl, hrest⟩ := List.cons_prefix_cons.mp hstatements
      obtain ⟨hturn, hpassed⟩ := List.forall_mem_cons.mp hpassed
      obtain ⟨hfirst, hran⟩ := List.forall_mem_cons.mp hran
      exact ⟨turn, passed ++ [final], rfl, rfl, hfirst,
        .inl ⟨hturn, hrest, hran, passed, final, rfl, hpassed, hstopped, hfinal⟩⟩
  · obtain ⟨hall, hpassed, rfl⟩ := hends
    obtain ⟨turn, rest, rfl, rfl, hrest⟩ := List.map_eq_cons_iff.mp hall
    obtain ⟨hturn, hpassed⟩ := List.forall_mem_cons.mp hpassed
    obtain ⟨hfirst, hran⟩ := List.forall_mem_cons.mp hran
    refine ⟨turn, rest, rfl, rfl, hfirst,
      .inl ⟨hturn, hrest ▸ List.prefix_refl _, hran, hrest, hpassed, ?_⟩⟩
    rw [List.getLast?_cons]
    cases rest.getLast? <;> rfl

end Course

end Turn

/-! ### Runs -/

section Run

variable (b : Backend σ κ) (c : κ) (d : Dialect)

/-- A statement has a turn.  If it has passed, the response after it is the outcome, else its error
is. -/
theorem Statement.exists_turn (s : Statement) (w : Watched σ κ) :
    ∃ turn : Turn, turn.statement = s ∧ turn.Ran d ∧
      w.Between b c turn.exchanges ((s.runTolerant b.watched c d).exec w).2 ∧
      (turn.Passed d ∧ ((s.runTolerant b.watched c d).exec w).1 = .ok turn.response ∨
        ∃ e, ¬ turn.Passed d ∧ turn.outcome = .error e ∧
          ((s.runTolerant b.watched c d).exec w).1 = .error e) := by
  obtain ⟨xs, hran, hbetween⟩ := s.ran_run b c d w
  rw [runTolerant, Action.exec_tryCatch]
  rcases hexec : (s.run b.watched c d).exec w with ⟨e | response, after⟩ <;>
    rw [hexec] at hran hbetween
  · refine ⟨⟨s, xs, .error e⟩, rfl, hran, ?_⟩
    by_cases htolerates : s.toleratesError d e = true
    · simp only [htolerates, if_true]
      refine ⟨hbetween, .inl ⟨fun _ he => ?_, rfl⟩⟩
      obtain rfl := Except.error.inj he
      exact htolerates
    · simp only [htolerates]
      exact ⟨hbetween, .inr ⟨e, fun hpassed => htolerates (hpassed e rfl), rfl, rfl⟩⟩
  · exact ⟨⟨s, xs, .ok response⟩, rfl, hran, hbetween, .inl ⟨by simp [Turn.Passed], rfl⟩⟩

/-- A run of statements has a course. -/
theorem Compiled.runFrom_course (last : Response) (ss : List Statement) (w : Watched σ κ) :
    ∃ turns, w.Between b c (turns.flatMap Turn.exchanges)
        ((runFrom b.watched c d last ss).exec w).2 ∧
      Turn.Course d last ss turns ((runFrom b.watched c d last ss).exec w).1 := by
  induction ss generalizing last w with
  | nil => exact ⟨[], .refl w, .nil⟩
  | cons s ss ih =>
    obtain ⟨turn, rfl, hran, hbetween, hends⟩ := s.exists_turn b c d w
    rw [runFrom, Action.exec_bind]
    rcases hexec : (turn.statement.runTolerant b.watched c d).exec w with ⟨outcome, after⟩
    rw [hexec] at hbetween hends
    rcases hends with ⟨hpassed, rfl⟩ | ⟨e, hstopped, houtcome, rfl⟩
    · obtain ⟨turns, hrest, hcourse⟩ := ih turn.response after
      exact ⟨turn :: turns, hbetween.trans hrest, hcourse.cons hran hpassed⟩
    · exact ⟨[turn], by simpa using hbetween, .stop hran hstopped houtcome⟩

/-- A statement with a turn whose exchanges the backend answers takes this turn. -/
theorem Turn.exec_runTolerant {b : Backend σ κ} {c : κ} {d : Dialect} {turn : Turn}
    (hran : turn.Ran d) {w : Watched σ κ} {final : σ}
    (hanswers : b.Answers c w.backend turn.exchanges final) :
    (turn.Passed d → (turn.statement.runTolerant b.watched c d).exec w =
      (.ok turn.response,
        { backend := final, events := w.events ++ turn.exchanges.map (Exchange.event c) })) ∧
    ∀ e, ¬ turn.Passed d → turn.outcome = .error e →
      (turn.statement.runTolerant b.watched c d).exec w =
        (.error e,
          { backend := final, events := w.events ++ turn.exchanges.map (Exchange.event c) }) := by
  obtain ⟨s, xs, outcome⟩ := turn
  have hrun := Statement.exec_run_of_ran (s := s) hran hanswers
  simp only [Statement.runTolerant, Action.exec_tryCatch, hrun]
  rcases outcome with e | response
  · refine ⟨fun hpassed => ?_, fun e' hstopped he => ?_⟩
    · simp [hpassed e rfl, Turn.response]
    · obtain rfl := Except.error.inj he
      have htolerates : s.toleratesError d e = false := by
        refine Bool.eq_false_iff.mpr fun htolerates => hstopped fun e' he' => ?_
        obtain rfl := Except.error.inj he'
        exact htolerates
      simp [htolerates]
  · exact ⟨fun _ => rfl, fun e _ he => by simp at he⟩

/-- **The engine's answers decide.**  A sequence takes the course whose exchanges the backend
answers. -/
theorem Compiled.exec_runFrom_of_course {b : Backend σ κ} {c : κ} {d : Dialect}
    {last : Response} {ss : List Statement} {turns : List Turn} {outcome : Except Error Response}
    (hcourse : Turn.Course d last ss turns outcome) {w : Watched σ κ} {final : σ}
    (hanswers : b.Answers c w.backend (turns.flatMap Turn.exchanges) final) :
    (runFrom b.watched c d last ss).exec w =
      (outcome,
        { backend := final
          events := w.events ++ (turns.flatMap Turn.exchanges).map (Exchange.event c) }) := by
  induction ss generalizing last turns w with
  | nil =>
    obtain rfl : turns = [] := List.map_eq_nil_iff.mp (List.prefix_nil.mp hcourse.statements)
    have hends := hcourse.ends
    rcases outcome with e | response
    · obtain ⟨passed, final, hnil, -⟩ := hends
      simp at hnil
    · obtain ⟨-, -, rfl⟩ := hends
      obtain rfl := Backend.answers_nil.mp hanswers
      simp [runFrom]
  | cons s ss ih =>
    obtain ⟨turn, rest, rfl, rfl, hran, hturn⟩ := hcourse.exists_cons
    rw [List.flatMap_cons, Backend.answers_append] at hanswers
    obtain ⟨t, hfirst, hrest⟩ := hanswers
    obtain ⟨hgoesOn, hstops⟩ := Turn.exec_runTolerant hran hfirst
    rw [runFrom, Action.exec_bind]
    rcases hturn with ⟨hpassed, hcourse⟩ | ⟨hstopped, rfl, e, he, rfl⟩
    · have hrun := ih hcourse
        (w := { backend := t, events := w.events ++ turn.exchanges.map (Exchange.event c) }) hrest
      rw [hgoesOn hpassed]
      simp [hrun]
    · obtain rfl := Backend.answers_nil.mp hrest
      rw [hstops e hstopped he]
      simp

/-- **The course of a run.**  Whatever the engine answers, what a run sends to its connection are
the exchanges of its turns, in order, and nothing else.  Each turn is one of the ways of its
statement (`Statement.Ran`): a refetch follows a statement that has one, has succeeded and brought
all of its names back, and binds what came back under them.  The run goes on after a turn that
succeeded or whose failure is tolerated, and ends with the first other failure.  A failure is
tolerated if the size of its code is listed, and only if a code of this size is. -/
theorem Compiled.run_course (compiled : Compiled) (w : Watched σ κ) :
    (∃ turns, w.Between b c (turns.flatMap Turn.exchanges)
        ((compiled.run b.watched c d).exec w).2 ∧
      Turn.Course d Response.empty compiled.statements turns
        ((compiled.run b.watched c d).exec w).1 ∧
      ∀ turn ∈ turns, turn.exchanges.length = 2 ↔
        ∃ refetch response, turn.statement.refetch = some refetch ∧
          turn.statement.exchange d (.ok response) ∈ turn.exchanges ∧
          ∀ n ∈ refetch.rowIds, (response.outBind? n).isSome) ∧
    ∀ (s : Statement) (e : Error),
      (s.Expects d (fun listed code => listed.toInt = code.toInt.natAbs) e →
        s.toleratesError d e = true) ∧
      (s.toleratesError d e = true →
        s.Expects d (fun listed code => listed.toInt.natAbs = code.toInt.natAbs) e) := by
  refine ⟨?_, fun s e => ⟨s.toleratesError_of_expects, s.expects_of_toleratesError⟩⟩
  obtain ⟨turns, hbetween, hcourse⟩ :=
    runFrom_course b c d Response.empty compiled.statements w
  exact ⟨turns, hbetween, hcourse, fun turn hturn => (hcourse.ran turn hturn).refetch_sent_iff⟩

end Run

/-- Being listed is not what decides.  A failure with a code that is not listed is tolerated where
the code's absolute value is, and one with a code that is listed is not where the absolute value is
not. -/
theorem Compiled.not_tolerated_iff_listed :
    let code : Int32 := -2289
    let report : DriverError := { code := some code, message := "sequence does not exist" }
    let drop : Statement := { sql := "drop sequence s", tolerates := some .alreadyAbsent }
    let statements := Compiled.sequence [drop, { sql := "select 1", method := .select }]
    let pool := ScriptedPool.ofRules [.fail "drop" report]
    let negated := { Dialect.oracle with alreadyAbsentCodes := [code] }
    let ran (d : Dialect) := (statements.run ScriptedPool.backend () d).exec pool
    code ∉ Dialect.oracle.conflictCodes .alreadyAbsent ∧
      (ran .oracle).1 = .ok Response.empty ∧
      (ran .oracle).2.executed = ["drop sequence s", "select 1"] ∧
      code ∈ negated.conflictCodes .alreadyAbsent ∧
      (ran negated).1 = .error (.statement "drop sequence s" report) ∧
      (ran negated).2.executed = ["drop sequence s"] :=
  ⟨by decide, rfl, rfl, by decide, rfl, rfl⟩

end PolySql

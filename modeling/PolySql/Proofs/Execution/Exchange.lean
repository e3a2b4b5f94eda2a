import PolySql.Proofs.Watched

/-!
# The exchanges of a statement

An `Exchange` is a statement that was sent to a connection, with the engine's answer.
`Watched.Between` says of two states of a watched backend that some exchanges on one connection lie
between them, and nothing else: the log has grown by their events, and the backend has given their
answers, one after the other.

`Statement.Ran` lists the ways in which a statement goes, each with its exchanges and its outcome,
and `Statement.ran_run` says that there are no others.
-/

namespace PolySql

variable {σ κ : Type}

/-! ### Exchanges -/

/-- A statement that was sent to a connection, and the engine's answer. -/
structure Exchange where
  sql : String
  params : List Param
  answer : Except DriverError Response

/-- An exchange in the log. -/
def Exchange.event (c : κ) (x : Exchange) : Event κ :=
  .called c (.execute x.sql x.params) x.answer.isOk

/-- A backend gives the answers of exchanges on a connection, one after the other, and gets from one
state to another by them. -/
inductive Backend.Answers (b : Backend σ κ) (c : κ) : σ → List Exchange → σ → Prop
  | nil (s : σ) : b.Answers c s [] s
  | cons {s t u : σ} {x : Exchange} {xs : List Exchange}
    (hx : (b.execute c x.sql x.params).run s = (x.answer, t)) (hxs : b.Answers c t xs u) :
    b.Answers c s (x :: xs) u

@[simp] theorem Backend.answers_nil {b : Backend σ κ} {c : κ} {s t : σ} :
    b.Answers c s [] t ↔ s = t := by
  constructor
  · rintro ⟨⟩
    rfl
  · rintro rfl
    exact .nil s

@[simp] theorem Backend.answers_cons {b : Backend σ κ} {c : κ} {s u : σ} {x : Exchange}
    {xs : List Exchange} :
    b.Answers c s (x :: xs) u ↔
      ∃ t, (b.execute c x.sql x.params).run s = (x.answer, t) ∧ b.Answers c t xs u := by
  constructor
  · rintro (_ | ⟨hx, hxs⟩)
    exact ⟨_, hx, hxs⟩
  · rintro ⟨t, hx, hxs⟩
    exact .cons hx hxs

@[simp] theorem Backend.answers_append {b : Backend σ κ} {c : κ} {s u : σ}
    {xs ys : List Exchange} :
    b.Answers c s (xs ++ ys) u ↔ ∃ t, b.Answers c s xs t ∧ b.Answers c t ys u := by
  induction xs generalizing s with
  | nil => simp
  | cons x xs ih =>
    simp only [List.cons_append, answers_cons, ih]
    constructor
    · rintro ⟨r, hx, t, hxs, hys⟩
      exact ⟨t, ⟨r, hx, hxs⟩, hys⟩
    · rintro ⟨t, ⟨r, hx, hxs⟩, hys⟩
      exact ⟨r, hx, t, hxs, hys⟩

namespace Watched

/-- The given exchanges on a connection lie between two states, and nothing else. -/
structure Between (b : Backend σ κ) (c : κ) (before : Watched σ κ) (xs : List Exchange)
    (after : Watched σ κ) : Prop where
  events : after.events = before.events ++ xs.map (Exchange.event c)
  answers : b.Answers c before.backend xs after.backend

variable {b : Backend σ κ} {c : κ}

theorem Between.refl (w : Watched σ κ) : Between b c w [] w :=
  ⟨by simp, .nil _⟩

theorem Between.trans {w₁ w₂ w₃ : Watched σ κ} {xs ys : List Exchange}
    (h₁₂ : Between b c w₁ xs w₂) (h₂₃ : Between b c w₂ ys w₃) : Between b c w₁ (xs ++ ys) w₃ :=
  ⟨by rw [h₂₃.events, h₁₂.events, List.append_assoc, List.map_append],
    Backend.answers_append.mpr ⟨_, h₁₂.answers, h₂₃.answers⟩⟩

end Watched

/-- What is left of an engine's answer to a text. -/
def Exchange.outcome (x : Exchange) : Except Error Response :=
  x.answer.mapError (Error.statement x.sql)

@[simp] theorem Exchange.outcome_ok (sql : String) (params : List Param) (response : Response) :
    (Exchange.mk sql params (.ok response)).outcome = .ok response := rfl

@[simp] theorem Exchange.outcome_error (sql : String) (params : List Param) (report : DriverError) :
    (Exchange.mk sql params (.error report)).outcome = .error (.statement sql report) := rfl

theorem Backend.exec_dispatch_of_run (b : Backend σ κ) {c : κ} {x : Exchange} {w : Watched σ κ}
    {s : σ} (h : (b.execute c x.sql x.params).run w.backend = (x.answer, s)) :
    (b.watched.dispatch c x.sql x.params).exec w =
      (x.outcome, { backend := s, events := w.events ++ [x.event c] }) := by
  obtain ⟨sql, params, answer⟩ := x
  rw [exec_dispatch]
  cases answer <;> simp_all [watched, Exchange.event]

/-- Sending a text is one exchange. -/
theorem Backend.exists_dispatch (b : Backend σ κ) (c : κ) (sql : String) (params : List Param)
    (w : Watched σ κ) :
    ∃ answer after,
      (b.watched.dispatch c sql params).exec w =
        ((Exchange.mk sql params answer).outcome, after) ∧
      w.Between b c [⟨sql, params, answer⟩] after := by
  rcases h : (b.execute c sql params).run w.backend with ⟨answer, s⟩
  exact ⟨answer, _, b.exec_dispatch_of_run (x := ⟨sql, params, answer⟩) h, rfl, .cons h (.nil s)⟩

/-! ### The parameters of a refetch -/

section RowIds

variable {response : Response} {names : List String}

theorem rowIdParams_cons (name : String) :
    rowIdParams response (name :: names) =
      match response.outBind? name with
      | some v => (rowIdParams response names).map (Param.input v :: ·)
      | none => .error (missingOutBind name) := by
  rw [rowIdParams, List.mapM_cons, ← rowIdParams]
  cases response.outBind? name with
  | none => rfl
  | some v => cases rowIdParams response names <;> rfl

/-- The parameters of a refetch are the values under its names, in order.  If there is a name that
has none, the first one is reported. -/
theorem rowIdParams_spec (response : Response) (names : List String) :
    (∃ values : List Value, names.map response.outBind? = values.map some ∧
        rowIdParams response names = .ok (values.map .input)) ∨
      ∃ before name after, names = before ++ name :: after ∧
        (∀ n ∈ before, (response.outBind? n).isSome) ∧ response.outBind? name = none ∧
        rowIdParams response names = .error (missingOutBind name) := by
  induction names with
  | nil => exact .inl ⟨[], rfl, rfl⟩
  | cons name names ih =>
    rw [rowIdParams_cons]
    rcases hname : response.outBind? name with _ | v
    · exact .inr ⟨[], name, names, rfl, by simp, hname, rfl⟩
    · rcases ih with
        ⟨values, hvalues, hparams⟩ | ⟨before, missing, after, rfl, hbefore, hmissing, herror⟩
      · exact .inl ⟨v :: values, by simp [hname, hvalues], by simp [hparams, Except.map]⟩
      · have hcame : ∀ n ∈ name :: before, (response.outBind? n).isSome :=
          List.forall_mem_cons.mpr ⟨by simp [hname], hbefore⟩
        exact .inr ⟨name :: before, missing, after, rfl, hcame, hmissing,
          by simp [herror, Except.map]⟩

/-- Where all names came back, the parameters are what came back under them. -/
theorem rowIdParams_of_came {values : List Value}
    (h : names.map response.outBind? = values.map some) :
    rowIdParams response names = .ok (values.map .input) := by
  rcases rowIdParams_spec response names with
    ⟨came, hcame, hparams⟩ | ⟨before, name, after, rfl, -, hname, -⟩
  · have hvalues : came = values :=
      (List.map_inj_right fun _ _ => Option.some.inj).mp (hcame.symm.trans h)
    rw [hparams, hvalues]
  · have hmem : none ∈ values.map some := by
      rw [← h, List.map_append, List.map_cons, hname]
      exact List.mem_append_right _ List.mem_cons_self
    simp at hmem

/-- Where a name did not come back, the first such name is reported. -/
theorem rowIdParams_of_missing {before after : List String} {name : String}
    (hbefore : ∀ n ∈ before, (response.outBind? n).isSome)
    (hname : response.outBind? name = none) :
    rowIdParams response (before ++ name :: after) = .error (missingOutBind name) := by
  induction before with
  | nil => rw [List.nil_append, rowIdParams_cons, hname]
  | cons n before ih =>
    obtain ⟨hn, hbefore⟩ := List.forall_mem_cons.mp hbefore
    obtain ⟨v, hv⟩ := Option.isSome_iff_exists.mp hn
    rw [List.cons_append, rowIdParams_cons, hv, ih hbefore]
    rfl

end RowIds

/-! ### The ways of a statement -/

namespace Statement

/-- The exchange of a statement itself. -/
def exchange (d : Dialect) (s : Statement) (answer : Except DriverError Response) : Exchange :=
  ⟨s.sql, d.encodeAll s.bindings, answer⟩

/-- The ways in which a statement goes, with its exchanges and its outcome. -/
inductive Ran (d : Dialect) (s : Statement) : List Exchange → Except Error Response → Prop
  /-- It has no text, and is not sent. -/
  | blank (hblank : Text.isAllBlank s.sql = true) : Ran d s [] (.error emptyQueryError)
  /-- It fails. -/
  | failed (hblank : Text.isAllBlank s.sql = false) (report : DriverError) :
    Ran d s [s.exchange d (.error report)] (.error (.statement s.sql report))
  /-- It succeeds, and has no refetch. -/
  | plain (hblank : Text.isAllBlank s.sql = false) (hrefetch : s.refetch = none)
    (response : Response) : Ran d s [s.exchange d (.ok response)] (.ok response)
  /-- It succeeds, and one of the names of its refetch did not come back. -/
  | missing (hblank : Text.isAllBlank s.sql = false) {refetch : Refetch}
    (hrefetch : s.refetch = some refetch) (response : Response)
    {before after : List String} {name : String} (hnames : refetch.rowIds = before ++ name :: after)
    (hbefore : ∀ n ∈ before, (response.outBind? n).isSome)
    (hname : response.outBind? name = none) :
    Ran d s [s.exchange d (.ok response)] (.error (missingOutBind name))
  /-- It succeeds, all names came back, and the refetch fails. -/
  | refetchFailed (hblank : Text.isAllBlank s.sql = false) {refetch : Refetch}
    (hrefetch : s.refetch = some refetch) (response : Response) {values : List Value}
    (hvalues : refetch.rowIds.map response.outBind? = values.map some) (report : DriverError) :
    Ran d s [s.exchange d (.ok response), ⟨refetch.sql, values.map .input, .error report⟩]
      (.error (.statement refetch.sql report))
  /-- It succeeds, all names came back, and the rows of the refetch take the place of its own. -/
  | refetched (hblank : Text.isAllBlank s.sql = false) {refetch : Refetch}
    (hrefetch : s.refetch = some refetch) (response : Response) {values : List Value}
    (hvalues : refetch.rowIds.map response.outBind? = values.map some) (rows : Response) :
    Ran d s [s.exchange d (.ok response), ⟨refetch.sql, values.map .input, .ok rows⟩]
      (.ok { response with resultSet := rows.resultSet })

/-- A refetch is sent if and only if the statement has one, has succeeded, and all names of the
refetch have come back. -/
theorem Ran.refetch_sent_iff {d : Dialect} {s : Statement} {xs : List Exchange}
    {outcome : Except Error Response} (h : s.Ran d xs outcome) :
    xs.length = 2 ↔ ∃ refetch response, s.refetch = some refetch ∧
      s.exchange d (.ok response) ∈ xs ∧ ∀ n ∈ refetch.rowIds, (response.outBind? n).isSome := by
  have hcame {response : Response} {names : List String} {values : List Value}
      (hvalues : names.map response.outBind? = values.map some) :
      ∀ n ∈ names, (response.outBind? n).isSome := by
    intro n hn
    obtain ⟨v, -, hv⟩ := List.mem_map.mp (hvalues ▸ List.mem_map_of_mem (f := response.outBind?) hn)
    rw [← hv]
    rfl
  cases h with
  | blank => simp
  | failed => simp [exchange]
  | plain _ hrefetch => simp [hrefetch]
  | missing _ hrefetch response hnames _ hname =>
    refine ⟨by simp, ?_⟩
    -- the refetch would have had all of its names
    rintro ⟨refetch, came, heq, hmem, hall⟩
    obtain rfl := Option.some.inj (hrefetch.symm.trans heq)
    obtain rfl : came = response := by simpa [exchange] using hmem
    have hisSome := hall _ (hnames ▸ List.mem_append_right _ List.mem_cons_self)
    simp [hname] at hisSome
  | refetchFailed _ hrefetch response hvalues =>
    exact ⟨fun _ => ⟨_, response, hrefetch, by simp, hcame hvalues⟩, fun _ => rfl⟩
  | refetched _ hrefetch response hvalues =>
    exact ⟨fun _ => ⟨_, response, hrefetch, by simp, hcame hvalues⟩, fun _ => rfl⟩

variable (b : Backend σ κ) (c : κ) (d : Dialect)

/-- **A statement goes in one of its ways.** -/
theorem ran_run (s : Statement) (w : Watched σ κ) :
    ∃ xs, s.Ran d xs ((s.run b.watched c d).exec w).1 ∧
      w.Between b c xs ((s.run b.watched c d).exec w).2 := by
  rcases hblank : Text.isAllBlank s.sql with _ | _
  · obtain ⟨answer, after, hexec, hbetween⟩ :=
      b.exists_dispatch c s.sql (d.encodeAll s.bindings) w
    simp only [run, hblank, Bool.false_eq_true, if_false, Action.exec_bind, hexec]
    rcases answer with report | response
    · exact ⟨_, .failed hblank report, hbetween⟩
    · simp only [Exchange.outcome_ok]
      cases hrefetch : s.refetch with
      | none => exact ⟨_, .plain hblank hrefetch response, hbetween⟩
      | some refetch =>
        simp only [runRefetch, Action.exec_bind, Action.exec_ofExcept]
        rcases rowIdParams_spec response refetch.rowIds with
          ⟨values, hvalues, hparams⟩ | ⟨before, name, rest, hnames, hbefore, hname, herror⟩
        · obtain ⟨rows, final, hrows, hrefetched⟩ :=
            b.exists_dispatch c refetch.sql (values.map .input) after
          simp only [hparams, hrows]
          rcases rows with report | rows
          · exact ⟨_, .refetchFailed hblank hrefetch response hvalues report,
              hbetween.trans hrefetched⟩
          · exact ⟨_, .refetched hblank hrefetch response hvalues rows, hbetween.trans hrefetched⟩
        · simp only [herror]
          exact ⟨_, .missing hblank hrefetch response hnames hbefore hname, hbetween⟩
  · simp only [run, hblank]
    exact ⟨[], .blank hblank, .refl w⟩

variable {b c d}

/-- A refetch whose names all came back is sent, and its rows take the place of the statement's. -/
theorem exec_runRefetch_of_came {refetch : Refetch} {response : Response} {values : List Value}
    (hvalues : refetch.rowIds.map response.outBind? = values.map some)
    {answer : Except DriverError Response} {t u : σ} {events : List (Event κ)}
    (hrows : (b.execute c refetch.sql (values.map .input)).run t = (answer, u)) :
    (runRefetch b.watched c refetch response).exec { backend := t, events } =
      let x : Exchange := ⟨refetch.sql, values.map .input, answer⟩
      (x.outcome.map fun rows => { response with resultSet := rows.resultSet },
        { backend := u, events := events ++ [x.event c] }) := by
  have hsent := b.exec_dispatch_of_run (x := ⟨refetch.sql, values.map .input, answer⟩)
    (w := { backend := t, events }) hrows
  simp only [runRefetch, rowIdParams_of_came hvalues, Action.exec_bind, Action.exec_ofExcept, hsent]
  cases answer <;> rfl

/-- **The engine's answers decide.**  A statement goes in the one of its ways whose exchanges the
backend answers. -/
theorem exec_run_of_ran {s : Statement} {xs : List Exchange} {outcome : Except Error Response}
    (hran : s.Ran d xs outcome) {w : Watched σ κ} {final : σ}
    (hanswers : b.Answers c w.backend xs final) :
    (s.run b.watched c d).exec w =
      (outcome, { backend := final, events := w.events ++ xs.map (Exchange.event c) }) := by
  -- but for a statement without text, the first exchange is that of the statement itself
  have hfailed {report : DriverError} {t : σ}
      (hx : (b.execute c s.sql (d.encodeAll s.bindings)).run w.backend = (.error report, t)) :
      (b.watched.dispatch c s.sql (d.encodeAll s.bindings)).exec w =
        (.error (.statement s.sql report),
          { backend := t, events := w.events ++ [(s.exchange d (.error report)).event c] }) :=
    b.exec_dispatch_of_run (x := s.exchange d (.error report)) hx
  have hsucceeded {response : Response} {t : σ}
      (hx : (b.execute c s.sql (d.encodeAll s.bindings)).run w.backend = (.ok response, t)) :
      (b.watched.dispatch c s.sql (d.encodeAll s.bindings)).exec w =
        (.ok response,
          { backend := t, events := w.events ++ [(s.exchange d (.ok response)).event c] }) :=
    b.exec_dispatch_of_run (x := s.exchange d (.ok response)) hx
  cases hran with
  | blank hblank =>
    obtain rfl := Backend.answers_nil.mp hanswers
    simp [run, hblank]
  | failed hblank report =>
    obtain ⟨t, hx, hxs⟩ := Backend.answers_cons.mp hanswers
    obtain rfl := Backend.answers_nil.mp hxs
    simp only [run, hblank, Bool.false_eq_true, if_false, Action.exec_bind, hfailed hx]
    rfl
  | plain hblank hrefetch response =>
    obtain ⟨t, hx, hxs⟩ := Backend.answers_cons.mp hanswers
    obtain rfl := Backend.answers_nil.mp hxs
    simp only [run, hblank, Bool.false_eq_true, if_false, Action.exec_bind, hsucceeded hx, hrefetch]
    rfl
  | missing hblank hrefetch response hnames hbefore hname =>
    obtain ⟨t, hx, hxs⟩ := Backend.answers_cons.mp hanswers
    obtain rfl := Backend.answers_nil.mp hxs
    simp only [run, hblank, Bool.false_eq_true, if_false, Action.exec_bind, hsucceeded hx,
      hrefetch, runRefetch, hnames, rowIdParams_of_missing hbefore hname, Action.exec_ofExcept]
    rfl
  | refetchFailed hblank hrefetch response hvalues report =>
    obtain ⟨t, hx, hxs⟩ := Backend.answers_cons.mp hanswers
    obtain ⟨u, hrows, hxs⟩ := Backend.answers_cons.mp hxs
    obtain rfl := Backend.answers_nil.mp hxs
    simp only [run, hblank, Bool.false_eq_true, if_false, Action.exec_bind, hsucceeded hx,
      hrefetch, exec_runRefetch_of_came hvalues hrows]
    simp [Except.map]
  | refetched hblank hrefetch response hvalues rows =>
    obtain ⟨t, hx, hxs⟩ := Backend.answers_cons.mp hanswers
    obtain ⟨u, hrows, hxs⟩ := Backend.answers_cons.mp hxs
    obtain rfl := Backend.answers_nil.mp hxs
    simp only [run, hblank, Bool.false_eq_true, if_false, Action.exec_bind, hsucceeded hx,
      hrefetch, exec_runRefetch_of_came hvalues hrows]
    simp [Except.map]

end Statement

end PolySql

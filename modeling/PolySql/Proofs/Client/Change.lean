import PolySql.Proofs.Client.Request
import PolySql.Proofs.Returning
import PolySql.Transform

/-!
# The answers to changes

An engine hands changed rows back from the changing statement itself (`Backend.HandsBack`), or it
gives their ids, and a refetch finds the rows (`Backend.HandsBackById`).  If the rows are the same, so
is the answer to an insert, an update or a counter (`Client.run_handsBack_eq`).

The two ways part where the engine has no id to give: an update that matches no row is answered by
no rows on the one, and fails on the other, after it has run (`Client.run_matching_nothing`).
-/

namespace PolySql

variable {σ κ τ ι : Type}

/-! ### Answers -/

/-- The shape of an answer to a change of `n` rows: a list of values for one column, all rows for
several columns or the column `*`, and a count where no column is to be handed back. -/
structure Query.Shapes (q : Query) (n : Nat) (rows : ResultSet) (output : Output) : Prop where
  values : ∀ column, q.returning = some [column] → column ≠ "*" →
    output = .values rows.firstValues
  star : q.returning = some ["*"] → output = .rows rows
  several : ∀ columns, q.returning = some columns → 1 < columns.length → output = .rows rows
  count : q.returningColumns? = none → output = .count n

theorem Query.returningColumns?_eq_none_iff {q : Query} :
    q.returningColumns? = none ↔ q.returning = none ∨ q.returning = some [] := by
  unfold returningColumns?
  cases q.returning with
  | none => simp
  | some columns => cases columns <;> simp [Option.filter]

theorem Query.shapes_changeOutput (q : Query) (n : Nat) (rows : ResultSet) :
    q.Shapes n rows (Statement.changeOutput q.returning rows n) where
  values column hreturning hstar := by rw [hreturning, Statement.changeOutput, if_neg hstar]
  star hreturning := by rw [hreturning, Statement.changeOutput, if_pos rfl]
  several columns hreturning hlength := by
    obtain ⟨first, second, rest, rfl⟩ : ∃ first second rest, columns = first :: second :: rest := by
      match columns with
      | first :: second :: rest => exact ⟨first, second, rest, rfl⟩
    rw [hreturning]
    rfl
  count hnone := by
    rcases returningColumns?_eq_none_iff.mp hnone with hreturning | hreturning <;>
      rw [hreturning] <;> rfl

/-- Where more than one column is to be handed back, the answer is all rows. -/
theorem Query.Shapes.rows {q : Query} {n : Nat} {rows : ResultSet} {output : Output}
    (h : q.Shapes n rows output) (hreturning : q.returningColumns?.isSome)
    (hstar : ∀ column, q.returning = some [column] → column = "*") : output = .rows rows := by
  obtain ⟨columns, hcolumns, hne⟩ := returningColumns?_isSome_iff.mp hreturning
  match columns with
  | [column] => exact h.star (hstar column hcolumns ▸ hcolumns)
  | first :: second :: rest => exact h.several _ hcolumns (by simp)

/-- The answer of a changing statement without a transform. -/
theorem Statement.output_of_isChange {s : Statement} (hmethod : s.method.isChange)
    (response : Response) (maxRows : Option UInt64) :
    (Compiled.single s).output response none maxRows =
      .ok (changeOutput s.returning (response.resultSet.capped maxRows) response.rowsAffected) := by
  rw [Compiled.output, output]
  cases hs : s.method <;> simp_all [Method.isChange]

/-- The answer to a change without a transform. -/
theorem Query.output_of_isChange {q : Query} (hmethod : q.method.isChange) {d : Dialect}
    {quoting : Bool} {s : Statement} (h : q.compile d quoting = .ok s) (response : Response)
    (maxRows : Option UInt64) :
    (Compiled.single s).output response none maxRows =
      .ok (Statement.changeOutput q.returning (response.resultSet.capped maxRows)
        response.rowsAffected) := by
  obtain ⟨draft, -, rfl⟩ := compile_eq_ok.mp h
  exact Statement.output_of_isChange hmethod response maxRows

/-- A transform that does not look at what came back through out-parameters. -/
def Transform.IgnoresOutBinds (f : Transform) : Prop :=
  ∀ response : Response, f { response with outBinds := [] } = f response

/-- A transform that does not look at the rows. -/
def Transform.IgnoresRows (f : Transform) : Prop :=
  ∀ response : Response, f { response with resultSet := {} } = f response

/-- Statements of one query give equal answers to responses that differ in nothing but what came
back through out-parameters, unless a transform looks at that. -/
theorem Query.output_congr {q : Query} {d e : Dialect} {quoting quoted : Bool} {s t : Statement}
    (hs : q.compile d quoting = .ok s) (ht : q.compile e quoted = .ok t)
    {transform : Option Transform} (htransform : ∀ f ∈ transform, f.IgnoresOutBinds)
    (left right : Response) (hset : left.resultSet = right.resultSet)
    (hcount : left.rowsAffected = right.rowsAffected) (maxRows : Option UInt64) :
    (Compiled.single s).output left transform maxRows =
      (Compiled.single t).output right transform maxRows := by
  obtain ⟨draft, -, rfl⟩ := compile_eq_ok.mp hs
  obtain ⟨draft', -, rfl⟩ := compile_eq_ok.mp ht
  cases transform with
  | none =>
    simp only [Compiled.output, Statement.output, statementOf, hset, hcount]
  | some transform =>
    have hignores : transform.IgnoresOutBinds := htransform transform rfl
    have hsame : { left with outBinds := [] } = { right with outBinds := [] } := by
      rw [hset, hcount]
    simp only [Compiled.output]
    rw [← hignores left, hsame, hignores right]

/-- A cap does not bring rows into a result set without any. -/
theorem ResultSet.rows_capped_of_nil {set : ResultSet} (h : set.rows = [])
    (maxRows : Option UInt64) : (set.capped maxRows).rows = [] := by
  cases maxRows with
  | none => exact h
  | some max => rw [capped, truncate, h, List.take_nil]

/-! ### Rows handed back -/

namespace Backend

/-- An engine answers a statement that hands rows back: with the number of rows affected and the
rows. -/
def HandsBack (b : Backend σ κ) (c : κ) (start : σ) (d : Dialect) (s : Statement) (n : Nat)
    (rows : ResultSet) : Prop :=
  ∃ response after,
    (b.execute c s.sql (d.encodeAll s.bindings)).run start = (.ok response, after) ∧
      response.rowsAffected = n ∧ response.resultSet = rows

/-- An engine answers a statement that hands rows back by their ids: with the number of rows
affected and a value for every out-parameter, and its refetch with the rows. -/
def HandsBackById (b : Backend σ κ) (c : κ) (start : σ) (d : Dialect) (s : Statement) (n : Nat)
    (rows : ResultSet) : Prop :=
  ∃ response after,
    (b.execute c s.sql (d.encodeAll s.bindings)).run start = (.ok response, after) ∧
      response.rowsAffected = n ∧
      (∀ p, Param.output p ∈ d.encodeAll s.bindings → (response.outBind? p.name).isSome) ∧
      ∀ refetch ∈ s.refetch, ∀ values : List Value,
        refetch.rowIds.map response.outBind? = values.map some →
          ∃ found final,
            (b.execute c refetch.sql (values.map .input)).run after = (.ok found, final) ∧
              found.resultSet = rows

end Backend

/-- Every slot is an out-parameter. -/
theorem Dialect.output_mem_encodeAll (d : Dialect) {s : Statement} {slot : ReturningSlot}
    (h : slot ∈ s.slots) :
    Param.output { name := slot.outBindName, column := slot.column } ∈ d.encodeAll s.bindings := by
  obtain ⟨b, hb, hslot⟩ := List.mem_filterMap.mp h
  obtain rfl : b = .returning slot := by
    cases b with
    | value v => exact absurd hslot (by simp [Binding.slot?])
    | returning other => rw [Option.some.inj hslot]
  rw [encodeAll_eq_map]
  exact List.mem_map_of_mem (f := d.encode) hb

/-- Where every out-parameter of a statement came back, so did every id of its refetch. -/
theorem Query.exists_rowIds {d : Dialect} {quoting : Bool} {q : Query} {s : Statement}
    (h : q.compile d quoting = .ok s) {refetch : Refetch} (hrefetch : s.refetch = some refetch)
    {response : Response}
    (hcame : ∀ p, Param.output p ∈ d.encodeAll s.bindings → (response.outBind? p.name).isSome) :
    ∃ values : List Value, refetch.rowIds.map response.outBind? = values.map some := by
  obtain ⟨draft, hdraft, rfl⟩ := compile_eq_ok.mp h
  have hreturns := returns_statementOf (w := q.writer d quoting) hdraft
  rw [hreturns.rowIds refetch hrefetch]
  rcases rowIdParams_spec response _ with
    ⟨values, hvalues, -⟩ | ⟨before, name, after, hnames, -, hmissing, -⟩
  · exact ⟨values, hvalues⟩
  · -- the name that is missing is that of a slot
    obtain ⟨slot, hslot, rfl⟩ := List.mem_map.mp
      (hnames ▸ List.mem_append_right before List.mem_cons_self)
    exact absurd (hcame _ (d.output_mem_encodeAll hslot)) (by simp [hmissing])

/-- A statement has a refetch if and only if its rows are handed back by their ids. -/
theorem Query.refetch_isSome_iff {d : Dialect} {quoting : Bool} {q : Query} {s : Statement}
    (h : q.compile d quoting = .ok s) : s.refetch.isSome ↔ q.ReturnsByRowId d := by
  obtain ⟨draft, hdraft, rfl⟩ := compile_eq_ok.mp h
  exact (returns_statementOf (w := q.writer d quoting) hdraft).refetch_iff

/-- Where rows are handed back by their ids, a change that is no delete has a refetch if and only if
it has columns to hand back. -/
theorem Query.refetch_isSome_iff_returning {d : Dialect} {quoting : Bool} {q : Query}
    {s : Statement} (h : q.compile d quoting = .ok s) (hstrategy : d.returningStrategy = .refetch)
    (hmethod : q.method = .insert ∨ q.method = .update ∨ q.method = .counter) :
    s.refetch.isSome ↔ q.returningColumns?.isSome := by
  rw [refetch_isSome_iff h, returningColumns?_isSome_iff]
  exact ⟨fun hrows => hrows.2.2, fun hcolumns => ⟨hstrategy, hmethod, hcolumns⟩⟩

/-- The refetch of an update looks for one id. -/
theorem Query.rowIds_of_update {d : Dialect} {quoting : Bool} {q : Query} {s : Statement}
    (h : q.compile d quoting = .ok s) (hmethod : q.method = .update ∨ q.method = .counter)
    {refetch : Refetch} (hrefetch : s.refetch = some refetch) :
    refetch.rowIds = ["returnParam"] := by
  obtain ⟨draft, hdraft, rfl⟩ := compile_eq_ok.mp h
  have hreturns := returns_statementOf (w := q.writer d quoting) hdraft
  have hlength := hreturns.length_slots (by simp [hrefetch])
  rw [if_neg (by rcases hmethod with h | h <;> simp [h])] at hlength
  obtain ⟨slot, hslot⟩ := List.length_eq_one_iff.mp hlength
  have hordinal : slot.ordinal = 0 := by
    have hordinals := hreturns.ordinals
    rw [hslot] at hordinals
    exact (List.cons.inj hordinals).1
  rw [hreturns.rowIds refetch hrefetch, hslot, List.map_singleton, ReturningSlot.outBindName,
    if_pos hordinal]

namespace Client

/-- A change without a refetch, on a connection of its own. -/
theorem exec_run_plain {client : Client σ κ} {q : Query} (transform : Option Transform)
    {s : Statement} (h : q.compile client.profile.dialect client.profile.quoting = .ok s)
    (hrefetch : s.refetch = none) {w : Watched σ κ} {c : κ} {held : σ}
    (hacquire : client.backend.acquire.run w.backend = (.ok c, held)) {response : Response}
    {after : σ}
    (hexecute : (client.backend.execute c s.sql
      (client.profile.dialect.encodeAll s.bindings)).run held = (.ok response, after)) :
    (client.watched.run (.query q transform)).exec w =
      ((Compiled.single s).output response transform client.profile.maxRows,
        { backend := ((client.backend.release c).run after).2
          events := w.events ++ [.acquired c, .called c (.execute s.sql
            (client.profile.dialect.encodeAll s.bindings)) true, .released c] }) := by
  have hran : s.Ran client.profile.dialect [s.exchange client.profile.dialect (.ok response)]
      (.ok response) := .plain (Query.isAllBlank_sql h) hrefetch response
  rw [client.exec_run_query transform h hacquire hran (.cons hexecute (.nil after))]
  simp [Statement.exchange, Exchange.event]
  rfl

/-- A change with a refetch, on a connection of its own, where all ids came back. -/
theorem exec_run_refetched {client : Client σ κ} {q : Query} (transform : Option Transform)
    {s : Statement} (h : q.compile client.profile.dialect client.profile.quoting = .ok s)
    {refetch : Refetch} (hrefetch : s.refetch = some refetch) {w : Watched σ κ} {c : κ} {held : σ}
    (hacquire : client.backend.acquire.run w.backend = (.ok c, held)) {response found : Response}
    {after final : σ}
    (hexecute : (client.backend.execute c s.sql
      (client.profile.dialect.encodeAll s.bindings)).run held = (.ok response, after))
    {values : List Value} (hvalues : refetch.rowIds.map response.outBind? = values.map some)
    (hfound : (client.backend.execute c refetch.sql (values.map .input)).run after =
      (.ok found, final)) :
    (client.watched.run (.query q transform)).exec w =
      ((Compiled.single s).output { response with resultSet := found.resultSet } transform
          client.profile.maxRows,
        { backend := ((client.backend.release c).run final).2
          events := w.events ++ [.acquired c,
            .called c (.execute s.sql (client.profile.dialect.encodeAll s.bindings)) true,
            .called c (.execute refetch.sql (values.map .input)) true, .released c] }) := by
  have hran : s.Ran client.profile.dialect
      [s.exchange client.profile.dialect (.ok response),
        ⟨refetch.sql, values.map .input, .ok found⟩]
      (.ok { response with resultSet := found.resultSet }) :=
    .refetched (Query.isAllBlank_sql h) hrefetch response hvalues found
  rw [client.exec_run_query transform h hacquire hran (.cons hexecute (.cons hfound (.nil final)))]
  simp [Statement.exchange, Exchange.event]
  rfl

/-- **Rows that are fetched by their ids make the same answer as rows that are handed back.** -/
theorem run_handsBack_eq (byId : Client σ κ) (direct : Client τ ι) (q : Query)
    (transform : Option Transform) {s t : Statement}
    (hbyId : byId.profile.dialect.returningStrategy = .refetch)
    (hdirect : direct.profile.dialect.returningStrategy ≠ .refetch)
    (hmaxRows : byId.profile.maxRows = direct.profile.maxRows)
    (hmethod : q.method = .insert ∨ q.method = .update ∨ q.method = .counter)
    (hs : q.compile byId.profile.dialect byId.profile.quoting = .ok s)
    (ht : q.compile direct.profile.dialect direct.profile.quoting = .ok t)
    (houtBinds : ∀ f ∈ transform, f.IgnoresOutBinds)
    (hignoresRows : q.returningColumns? = none → ∀ f ∈ transform, f.IgnoresRows)
    {v : Watched σ κ} {c : κ} {held : σ}
    (hacquire : byId.backend.acquire.run v.backend = (.ok c, held))
    {w : Watched τ ι} {e : ι} {taken : τ}
    (htake : direct.backend.acquire.run w.backend = (.ok e, taken))
    {n : Nat} {rows : ResultSet}
    (hrowIds : byId.backend.HandsBackById c held byId.profile.dialect s n rows)
    (hrows : direct.backend.HandsBack e taken direct.profile.dialect t n rows) :
    ((byId.watched.run (.query q transform)).exec v).1 =
        ((direct.watched.run (.query q transform)).exec w).1 ∧
      (transform = none → ∃ output,
        ((byId.watched.run (.query q transform)).exec v).1 = .ok output ∧
          q.Shapes n (rows.capped byId.profile.maxRows) output) ∧
      (q.returningColumns? = none →
        ((byId.watched.run (.query q transform)).exec v).2.events =
          v.events ++ [.acquired c, .called c (.execute s.sql
            (byId.profile.dialect.encodeAll s.bindings)) true, .released c]) := by
  have hchange : q.method.isChange := by
    rcases hmethod with h | h | h <;> rw [h] <;> rfl
  obtain ⟨answer, later, htaken, hn, rfl⟩ := hrows
  obtain ⟨response, after, hexecute, hcount, hcame, hfound⟩ := hrowIds
  have hplain : t.refetch = none := by
    rw [← Option.not_isSome_iff_eq_none, Query.refetch_isSome_iff ht]
    exact fun h => hdirect h.1
  have hrun := exec_run_plain transform ht hplain htake htaken
  -- without a transform, the answer has the shape that the query asks for
  have hshape (hnone : transform = none) : ∃ output,
      (Compiled.single t).output answer transform direct.profile.maxRows = .ok output ∧
        q.Shapes n (answer.resultSet.capped byId.profile.maxRows) output := by
    subst hnone
    rw [Query.output_of_isChange hchange ht, hn, hmaxRows]
    exact ⟨_, rfl, q.shapes_changeOutput n _⟩
  have hcolumns := Query.refetch_isSome_iff_returning hs hbyId hmethod
  cases hrefetch : s.refetch with
  | none =>
    replace hcolumns : q.returningColumns? = none := by simpa [hrefetch] using hcolumns
    -- then the rows, which the two engines may report differently, do not show in the answer
    have hsame : (Compiled.single s).output response transform byId.profile.maxRows =
        (Compiled.single t).output answer transform direct.profile.maxRows := by
      cases transform with
      | none =>
        rw [Query.output_of_isChange hchange hs, Query.output_of_isChange hchange ht,
          (q.shapes_changeOutput _ _).count hcolumns, (q.shapes_changeOutput _ _).count hcolumns,
          hcount, hn]
      | some f =>
        have hrowsIgnored : f.IgnoresRows := hignoresRows hcolumns f rfl
        have hbare := Query.output_congr hs ht houtBinds { response with resultSet := {} }
          { answer with resultSet := {} } rfl (hcount.trans hn.symm) direct.profile.maxRows
        simpa only [Compiled.output, hrowsIgnored response, hrowsIgnored answer] using hbare
    rw [exec_run_plain transform hs hrefetch hacquire hexecute, hrun]
    exact ⟨hsame, fun hnone => hsame ▸ hshape hnone, fun _ => rfl⟩
  | some refetch =>
    obtain ⟨values, hvalues⟩ := Query.exists_rowIds hs hrefetch hcame
    obtain ⟨found, final, hsent, hset⟩ := hfound refetch hrefetch values hvalues
    have hsame : (Compiled.single s).output { response with resultSet := found.resultSet }
          transform byId.profile.maxRows =
        (Compiled.single t).output answer transform direct.profile.maxRows := by
      rw [hmaxRows]
      exact Query.output_congr hs ht houtBinds { response with resultSet := found.resultSet } answer
        hset (hcount.trans hn.symm) direct.profile.maxRows
    replace hcolumns : q.returningColumns? ≠ none := by
      simpa [hrefetch, Option.isSome_iff_ne_none] using hcolumns
    rw [exec_run_refetched transform hs hrefetch hacquire hexecute hvalues hsent, hrun]
    exact ⟨hsame, fun hnone => hsame ▸ hshape hnone, fun hnone => absurd hnone hcolumns⟩

/-- An update that hands a column back. -/
def updateReturning : Query :=
  { Query.update "users" [("name", .text "ann")] with returning := some ["id"] }

/-- An engine that answers every statement by the id of a row and the row. -/
def answersById : Watched ScriptedPool Unit where
  backend := ScriptedPool.ofRules
    [.respond "" { rowsAffected := 1, resultSet := ResultSet.ofRows ["id"] [[.int 7]]
                   outBinds := [("returnParam", .text "AAB")] }]

/-- An engine that answers every statement by the row alone. -/
def answersByRow : Watched ScriptedPool Unit where
  backend := ScriptedPool.ofRules
    [.respond "" { rowsAffected := 1, resultSet := ResultSet.ofRows ["id"] [[.int 7]] }]

theorem handsBackById_answersById {s : Statement}
    (h : updateReturning.compile .oracle true = .ok s) :
    ScriptedPool.backend.HandsBackById () { answersById.backend with acquired := 1 } .oracle s 1
      (ResultSet.ofRows ["id"] [[.int 7]]) := by
  obtain rfl := Except.ok.inj ((Query.compile_of_draft rfl).symm.trans h)
  refine ⟨_, _, rfl, rfl, fun p hp => ?_, fun refetch hrefetch values _ => ?_⟩
  · have hparam : Param.output p ∈
        [Param.input (.text "ann"), .output { name := "returnParam", column := "id" }] := hp
    obtain rfl : p = { name := "returnParam", column := "id" } := by simpa using hparam
    rfl
  · obtain rfl := Option.some.inj hrefetch
    exact ⟨_, _, rfl, rfl⟩

theorem run_handsBack_eq_updateReturning :
    (((ScriptedPool.client .oracle).watched.run (.query updateReturning none)).exec
        answersById).1 =
      (((ScriptedPool.client .postgres).watched.run (.query updateReturning none)).exec
        answersByRow).1 ∧
    ∃ output,
      (((ScriptedPool.client .oracle).watched.run (.query updateReturning none)).exec
        answersById).1 = .ok output ∧
      updateReturning.Shapes 1 ((ResultSet.ofRows ["id"] [[.int 7]]).capped none) output := by
  obtain ⟨heq, hshape, -⟩ := run_handsBack_eq (ScriptedPool.client .oracle)
    (ScriptedPool.client .postgres) updateReturning none (v := answersById) (w := answersByRow)
    rfl (by decide) rfl (.inr (.inl rfl)) (Query.compile_of_draft rfl) (Query.compile_of_draft rfl)
    (by simp) (by simp) rfl rfl (handsBackById_answersById (Query.compile_of_draft rfl))
    ⟨_, _, rfl, rfl, rfl⟩
  exact ⟨heq, hshape rfl⟩

/-- An update of the rows in a page that ends beyond the integers that a window by row numbers can
bind. -/
def pagedUpdate : Query :=
  { Query.update "users" [("name", .text "ann")] with
    conditions := [.inQuery "id"
      { Query.select "users" with
        columns := ["id"], limit := some 0x7FFF_FFFF_FFFF_FFFF, offset := some 1 }] }

/-- A transform that looks at what came back through out-parameters sees the ids of the rows on the
one engine, and nothing on the other.  And not every query has a statement in both dialects. -/
theorem not_handsBack_eq :
    (∀ s t, updateReturning.compile .oracle true = .ok s →
      updateReturning.compile .postgres true = .ok t →
      ScriptedPool.backend.HandsBackById () { answersById.backend with acquired := 1 } .oracle s 1
          (ResultSet.ofRows ["id"] [[.int 7]]) ∧
        ScriptedPool.backend.HandsBack () { answersByRow.backend with acquired := 1 } .postgres t 1
          (ResultSet.ofRows ["id"] [[.int 7]])) ∧
    (((ScriptedPool.client .oracle).watched.run
      (.query updateReturning (some Transform.outBinds))).exec answersById).1 =
        .ok (.values [.text "AAB"]) ∧
    (((ScriptedPool.client .postgres).watched.run
      (.query updateReturning (some Transform.outBinds))).exec answersByRow).1 =
        .ok (.values []) ∧
    (pagedUpdate.compile .postgres true).isOk ∧ ¬ (pagedUpdate.compile .oracle true).isOk := by
  have hpaged : (pagedUpdate.compile .postgres true).isOk :=
    congrArg Except.isOk (Query.compile_of_draft rfl)
  refine ⟨fun s t hs ht => ⟨handsBackById_answersById hs, ?_⟩, ?_, ?_, hpaged, by decide⟩
  · obtain rfl := Except.ok.inj ((Query.compile_of_draft rfl).symm.trans ht)
    exact ⟨_, _, rfl, rfl, rfl⟩
  · have hvalues : ["returnParam"].map
        (Response.outBind? { outBinds := [("returnParam", .text "AAB")] }) =
          [Value.text "AAB"].map some := rfl
    rw [exec_run_refetched (some Transform.outBinds) (Query.compile_of_draft rfl) rfl rfl rfl hvalues
      rfl]
    simp [Compiled.output, Transform.outBinds]
  · rw [exec_run_plain (some Transform.outBinds) (Query.compile_of_draft rfl) rfl rfl rfl]
    simp [Compiled.output, Transform.outBinds]

/-! ### Changes that match nothing -/

/-- **An update that matches no row has no id to give.**  It runs all the same.  Where rows come back
from the statement itself, the answer is empty, in the shape that the query asks for; where they come
back by their ids, there is no answer but the error of the id that is missing. -/
theorem run_matching_nothing (client : Client σ κ) (q : Query) (transform : Option Transform)
    {s : Statement} (hmethod : q.method = .update ∨ q.method = .counter)
    (hreturning : q.returningColumns?.isSome)
    (hs : q.compile client.profile.dialect client.profile.quoting = .ok s)
    {w : Watched σ κ} {c : κ} {held : σ}
    (hacquire : client.backend.acquire.run w.backend = (.ok c, held))
    {response : Response} {after : σ}
    (hexecute : (client.backend.execute c s.sql
      (client.profile.dialect.encodeAll s.bindings)).run held = (.ok response, after))
    (hcount : response.rowsAffected = 0) (hrows : response.resultSet.rows = [])
    (hbinds : response.outBinds = []) :
    ((client.watched.run (.query q transform)).exec w).2.events =
        w.events ++ [.acquired c, .called c (.execute s.sql
          (client.profile.dialect.encodeAll s.bindings)) true, .released c] ∧
      (client.profile.dialect.returningStrategy = .refetch →
        ((client.watched.run (.query q transform)).exec w).1 =
          .error (missingOutBind "returnParam")) ∧
      (client.profile.dialect.returningStrategy ≠ .refetch → transform = none →
        (∀ column, q.returning = some [column] → column ≠ "*" →
          ((client.watched.run (.query q transform)).exec w).1 = .ok (.values [])) ∧
        ((∀ column, q.returning = some [column] → column = "*") →
          ∃ set, ((client.watched.run (.query q transform)).exec w).1 = .ok (.rows set) ∧
            set.rows = [])) := by
  have hchange : q.method.isChange := by
    rcases hmethod with h | h <;> rw [h] <;> rfl
  cases hrefetch : s.refetch with
  | none =>
    have hstrategy : client.profile.dialect.returningStrategy ≠ .refetch := by
      intro hstrategy
      have hsent := (Query.refetch_isSome_iff_returning hs hstrategy (.inr hmethod)).mpr hreturning
      simp [hrefetch] at hsent
    rw [exec_run_plain transform hs hrefetch hacquire hexecute]
    refine ⟨rfl, fun h => absurd h hstrategy, fun _ hnone => ?_⟩
    subst hnone
    rw [Query.output_of_isChange hchange hs, hcount]
    have hempty : (response.resultSet.capped client.profile.maxRows).rows = [] :=
      ResultSet.rows_capped_of_nil hrows client.profile.maxRows
    have hshape := q.shapes_changeOutput 0 (response.resultSet.capped client.profile.maxRows)
    refine ⟨fun column hcolumn hstar => ?_, fun hstar => ⟨_, ?_, hempty⟩⟩
    · rw [hshape.values column hcolumn hstar, ResultSet.firstValues, hempty]
      rfl
    · rw [hshape.rows hreturning hstar]
  | some refetch =>
    have hstrategy := ((Query.refetch_isSome_iff hs).mp (by simp [hrefetch])).1
    have hnames : refetch.rowIds = [] ++ "returnParam" :: [] :=
      Query.rowIds_of_update hs hmethod hrefetch
    have hran : s.Ran client.profile.dialect
        [s.exchange client.profile.dialect (.ok response)] (.error (missingOutBind "returnParam")) :=
      .missing (Query.isAllBlank_sql hs) hrefetch response hnames (by simp)
        (by simp [Response.outBind?, hbinds])
    rw [client.exec_run_query transform hs hacquire hran (.cons hexecute (.nil after))]
    refine ⟨?_, fun _ => rfl, fun h => absurd hstrategy h⟩
    simp [Statement.exchange, Exchange.event]

theorem run_matching_nothing_updateReturning :
    (((ScriptedPool.client .oracle).watched.run (.query updateReturning none)).exec
        { backend := {} }).1 = .error (missingOutBind "returnParam") ∧
      (((ScriptedPool.client .postgres).watched.run (.query updateReturning none)).exec
        { backend := {} }).1 = .ok (.values []) := by
  obtain ⟨-, hrowIds, -⟩ := run_matching_nothing (ScriptedPool.client .oracle) updateReturning none
    (w := { backend := {} }) (.inl rfl) rfl (Query.compile_of_draft rfl) rfl rfl rfl rfl rfl
  obtain ⟨-, -, hrows⟩ := run_matching_nothing (ScriptedPool.client .postgres) updateReturning none
    (w := { backend := {} }) (.inl rfl) rfl (Query.compile_of_draft rfl) rfl rfl rfl rfl rfl
  exact ⟨hrowIds rfl, (hrows (by decide) rfl).1 "id" rfl (by decide)⟩

/-- The statement has run when its caller gets the error: the engine has answered it, and the
connection has gone back. -/
theorem not_run_matching_nothing :
    let run := ((ScriptedPool.client .oracle).watched.run (.query updateReturning none)).exec
      { backend := {} }
    run.1 = .error (.execution "driver returned no value for out-bind returnParam") ∧
      run.2.events = [.acquired (),
        .called () (.execute "update \"users\" set \"name\" = :1 returning ROWID into :2"
          [.input (.text "ann"), .output { name := "returnParam", column := "id" }]) true,
        .released ()] :=
  ⟨rfl, rfl⟩

end Client

end PolySql

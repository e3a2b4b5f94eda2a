import PolySql.Proofs.Execution.Sequence

/-!
# Codes and their signs

A reported code counts by its size, which is a code again unless the code is the least one
(`toInt_abs_code_iff`).  So engines that report opposite codes are treated alike
(`Compiled.mirrors_run`).  The codes that a dialect lists are not taken by their sizes: a negative
one among them stands for no size, and a list of negative codes for no failure at all
(`Compiled.run_tolerates`).
-/

namespace PolySql

variable {σ κ α β : Type}

/-! ### The size of a code -/

/-- The size of every code but the least one is a code. -/
theorem toInt_abs_code_iff {code : Int32} :
    code.abs.toInt = code.toInt.natAbs ↔ code ≠ Int32.minValue := by
  constructor
  · rintro h rfl
    exact absurd h (by decide)
  · intro h
    have hbits : code.toBitVec ≠ BitVec.intMin 32 :=
      fun hbits => h (Int32.toBitVec_inj.mp hbits)
    rw [← Int32.toInt_toBitVec, Int32.toBitVec_abs,
      BitVec.toInt_abs_eq_natAbs_of_ne_intMin hbits, ← Int32.toInt_toBitVec]

theorem toInt_neg_code {code : Int32} (h : code ≠ Int32.minValue) :
    (-code).toInt = -code.toInt := by
  have hlow := code.le_toInt
  have hhigh := code.toInt_lt
  have hleast : code.toInt ≠ Int32.minValue.toInt := fun heq => h (Int32.toInt_inj.mp heq)
  rw [Int32.toInt_minValue] at hleast
  rw [Int32.toInt_neg, Int.bmod_eq_of_le] <;> omega

/-- Opposite codes have one size. -/
theorem abs_neg_code (code : Int32) : (-code).abs = code.abs := by
  by_cases h : code = Int32.minValue
  · rw [h]
    decide
  · have hneg := toInt_neg_code h
    have hne : -code ≠ Int32.minValue := by
      rintro hleast
      have hhigh := code.toInt_lt
      rw [hleast, Int32.toInt_minValue] at hneg
      omega
    rw [← Int32.toInt_inj, toInt_abs_code_iff.mpr h, toInt_abs_code_iff.mpr hne, hneg,
      Int.natAbs_neg]

/-! ### Opposite reports -/

/-- The report with the opposite code. -/
def DriverError.opposite (report : DriverError) : DriverError :=
  { report with code := report.code.map (- ·) }

/-- The error with the opposite code in the report of a statement. -/
def Error.opposite : Error → Error
  | .statement sql report => .statement sql report.opposite
  | e => e

/-- The backend that reports the failures of statements by the opposite codes. -/
def Backend.opposite (b : Backend σ κ) : Backend σ κ :=
  { b with
    execute := fun c sql params => do
      return (← b.execute c sql params).mapError DriverError.opposite }

theorem Dialect.reports_opposite (d : Dialect) (conflict : SchemaConflict)
    (report : DriverError) : d.reports conflict report.opposite = d.reports conflict report := by
  unfold reports DriverError.opposite
  cases report.code with
  | none => rfl
  | some code => simp only [Option.map_some, abs_neg_code]

theorem Statement.toleratesError_opposite (d : Dialect) (s : Statement) (e : Error) :
    s.toleratesError d e.opposite = s.toleratesError d e := by
  cases e with
  | statement sql report => simp only [Error.opposite, toleratesError, d.reports_opposite]
  | _ => rfl

/-! ### Actions that mirror each other -/

namespace Action

/-- An action does what another one does, and fails with the opposite errors. -/
def Mirrors (act' act : Action σ α) : Prop :=
  ∀ s, act'.exec s = ((act.exec s).1.mapError Error.opposite, (act.exec s).2)

theorem mirrors_pure (a : α) : Mirrors (pure a : Action σ α) (pure a) := fun _ => rfl

theorem mirrors_throw (e : Error) : Mirrors (throw e.opposite : Action σ α) (throw e) :=
  fun _ => rfl

theorem mirrors_ofExcept {outcome : Except Error α}
    (h : outcome.mapError Error.opposite = outcome) :
    Mirrors (ofExcept outcome : Action σ α) (ofExcept outcome) := by
  intro s
  rw [exec_ofExcept, h]

theorem Mirrors.bind {act' act : Action σ α} {next' next : α → Action σ β}
    (h : Mirrors act' act) (hnext : ∀ a, Mirrors (next' a) (next a)) :
    Mirrors (act' >>= next') (act >>= next) := by
  intro s
  rw [exec_bind, exec_bind, h s]
  rcases act.exec s with ⟨e | a, after⟩
  · rfl
  · exact hnext a after

theorem Mirrors.tryCatch {act' act : Action σ α} {handle' handle : Error → Action σ α}
    (h : Mirrors act' act) (hhandle : ∀ e, Mirrors (handle' e.opposite) (handle e)) :
    Mirrors (tryCatch act' handle') (tryCatch act handle) := by
  intro s
  rw [exec_tryCatch, exec_tryCatch, h s]
  rcases act.exec s with ⟨e | a, after⟩
  · exact hhandle e after
  · rfl

end Action

section Mirrors

variable (b : Backend σ κ) (c : κ) (d : Dialect)

theorem Backend.mirrors_dispatch (sql : String) (params : List Param) :
    Action.Mirrors (b.opposite.dispatch c sql params) (b.dispatch c sql params) := by
  intro s
  have hrun : (b.opposite.execute c sql params).run s =
      (((b.execute c sql params).run s).1.mapError DriverError.opposite,
        ((b.execute c sql params).run s).2) := rfl
  rw [exec_dispatch, exec_dispatch, hrun]
  rcases (b.execute c sql params).run s with ⟨report | response, after⟩ <;> rfl

/-- The error of a row id that did not come back has no code. -/
theorem mapError_rowIdParams (response : Response) (names : List String) :
    (rowIdParams response names).mapError Error.opposite = rowIdParams response names := by
  rcases rowIdParams_spec response names with ⟨values, -, hparams⟩ | ⟨_, name, _, -, -, -, herror⟩
  · rw [hparams]
    rfl
  · rw [herror]
    rfl

theorem Statement.mirrors_runRefetch (refetch : Refetch) (response : Response) :
    Action.Mirrors (runRefetch b.opposite c refetch response)
      (runRefetch b c refetch response) := by
  refine (Action.mirrors_ofExcept (mapError_rowIdParams _ _)).bind fun params => ?_
  exact (b.mirrors_dispatch c _ _).bind fun _ => Action.mirrors_pure _

theorem Statement.mirrors_run (s : Statement) :
    Action.Mirrors (s.run b.opposite c d) (s.run b c d) := by
  by_cases hblank : Text.isAllBlank s.sql = true
  · simp only [run, hblank, if_true]
    exact Action.mirrors_throw emptyQueryError
  · simp only [run, hblank]
    refine (b.mirrors_dispatch c _ _).bind fun response => ?_
    cases s.refetch with
    | none => exact Action.mirrors_pure _
    | some refetch => exact mirrors_runRefetch b c refetch response

/-- A failure is tolerated under the opposite code too. -/
theorem Statement.mirrors_runTolerant (s : Statement) :
    Action.Mirrors (s.runTolerant b.opposite c d) (s.runTolerant b c d) := by
  refine (s.mirrors_run b c d).tryCatch fun e => ?_
  rw [s.toleratesError_opposite d e]
  split
  · exact Action.mirrors_pure _
  · exact Action.mirrors_throw e

theorem Compiled.mirrors_runFrom (last : Response) (ss : List Statement) :
    Action.Mirrors (runFrom b.opposite c d last ss) (runFrom b c d last ss) := by
  induction ss generalizing last with
  | nil => exact Action.mirrors_pure _
  | cons s ss ih => exact (s.mirrors_runTolerant b c d).bind fun response => ih response

/-- Engines that report opposite codes run a request alike. -/
theorem Compiled.mirrors_run (compiled : Compiled) :
    Action.Mirrors (compiled.run b.opposite c d) (compiled.run b c d) :=
  mirrors_runFrom b c d _ _

end Mirrors

/-! ### Listed codes -/

namespace Statement

variable {d : Dialect} {s : Statement} {conflict : SchemaConflict} {sql : String}
  {report : DriverError} {code : Int32}

theorem toleratesError_iff_mem (htolerates : s.tolerates = some conflict)
    (hcode : report.code = some code) :
    s.toleratesError d (.statement sql report) = true ↔ code.abs ∈ d.conflictCodes conflict := by
  simp [toleratesError, Dialect.reports, htolerates, hcode]

/-- A failure is tolerated if the size of its code is listed. -/
theorem toleratesError_iff_size (htolerates : s.tolerates = some conflict)
    (hcode : report.code = some code) (hleast : code ≠ Int32.minValue) :
    s.toleratesError d (.statement sql report) = true ↔
      ∃ listed ∈ d.conflictCodes conflict, listed.toInt = code.toInt.natAbs := by
  rw [toleratesError_iff_mem htolerates hcode, ← toInt_abs_code_iff.mpr hleast]
  simp only [Int32.toInt_inj, exists_eq_right]

end Statement

/-- **Sizes of codes decide what is tolerated, as far as the listed ones are their own sizes.**  The
size of every code but the least is a code.  A failure with such a code is tolerated if and only if
the size is listed: where no negative code is listed this means that a code of the same size is, and
where only negative ones are, nothing is tolerated.  A failure without a code is not tolerated.  An
engine that reports opposite codes is sent the same and has the same effect, and the outcome differs
at most in the sign of the code of a failure that is not tolerated. -/
theorem Compiled.run_tolerates (b : Backend σ κ) (c : κ) (d : Dialect) (compiled : Compiled)
    (start : σ) :
    (∀ code : Int32, code.abs.toInt = code.toInt.natAbs ↔ code ≠ Int32.minValue) ∧
    (∀ (s : Statement) (conflict : SchemaConflict) (sql : String) (report : DriverError)
        (code : Int32), s.tolerates = some conflict → report.code = some code →
        code ≠ Int32.minValue →
      let codes := d.conflictCodes conflict
      let tolerated := s.toleratesError d (.statement sql report)
      (tolerated = true ↔ ∃ listed ∈ codes, listed.toInt = code.toInt.natAbs) ∧
      ((∀ listed ∈ codes, 0 ≤ listed.toInt) →
        (tolerated = true ↔ ∃ listed ∈ codes, listed.toInt.natAbs = code.toInt.natAbs)) ∧
      ((∀ listed ∈ codes, listed.toInt < 0) → tolerated = false)) ∧
    (∀ (s : Statement) (e : Error), s.toleratesError d e = true →
      ∃ sql report conflict code, e = .statement sql report ∧ s.tolerates = some conflict ∧
        report.code = some code) ∧
    (compiled.run b.opposite c d).exec start =
      (((compiled.run b c d).exec start).1.mapError Error.opposite,
        ((compiled.run b c d).exec start).2) := by
  refine ⟨fun code => toInt_abs_code_iff, ?_, fun s e htolerated => ?_,
    compiled.mirrors_run b c d start⟩
  · intro s conflict sql report code htolerates hcode hleast codes tolerated
    have hsize : tolerated = true ↔ ∃ listed ∈ codes, listed.toInt = code.toInt.natAbs :=
      Statement.toleratesError_iff_size htolerates hcode hleast
    refine ⟨hsize, fun hpositive => ?_, fun hnegative => ?_⟩
    · refine hsize.trans (exists_congr fun listed => and_congr_right fun hlisted => ?_)
      have hlow := hpositive listed hlisted
      omega
    · refine Bool.eq_false_iff.mpr fun htolerated => ?_
      obtain ⟨listed, hlisted, heq⟩ := hsize.mp htolerated
      have hhigh := hnegative listed hlisted
      omega
  · obtain ⟨sql, report, conflict, code, he, hconflict, hcode, -⟩ :=
      Statement.toleratesError_iff_expects.mp htolerated
    exact ⟨sql, report, conflict, code, he, hconflict, hcode⟩

/-- A statement that drops a sequence, if there is one. -/
def dropSequence : Statement :=
  { sql := "drop sequence s", tolerates := some .alreadyAbsent }

/-- The report, under the given code, that there is no sequence. -/
def noSequence (code : Int32) : DriverError :=
  { code := some code, message := "sequence does not exist" }

theorem Compiled.run_tolerates_noSequence :
    let pool := ScriptedPool.ofRules [.fail "drop" (noSequence 2289)]
    dropSequence.toleratesError .oracle (.statement "drop sequence s" (noSequence (-2289))) = true ∧
      (((single dropSequence).run ScriptedPool.backend.opposite () .oracle).exec pool).1 =
        .ok Response.empty := by
  intro pool
  obtain ⟨-, htest, -, hrun⟩ :=
    run_tolerates ScriptedPool.backend () .oracle (single dropSequence) pool
  obtain ⟨hsize, -⟩ := htest dropSequence .alreadyAbsent "drop sequence s" (noSequence (-2289))
    (-2289) rfl rfl (by decide)
  refine ⟨hsize.mpr ⟨2289, by decide, by decide⟩, ?_⟩
  rw [hrun]
  rfl

/-- A code of the same size being listed is not enough: where it is listed negated, the failure is
not tolerated.  And the least code has a size that is no code. -/
theorem Compiled.not_tolerates_listedSize :
    let negated := { Dialect.oracle with alreadyAbsentCodes := [-2289] }
    let pool := ScriptedPool.ofRules [.fail "drop" (noSequence 2289)]
    (∃ listed ∈ negated.conflictCodes .alreadyAbsent,
        listed.toInt.natAbs = (2289 : Int32).toInt.natAbs) ∧
      dropSequence.toleratesError negated (.statement "drop sequence s" (noSequence 2289)) = false ∧
      (((single dropSequence).run ScriptedPool.backend () negated).exec pool).1 =
        .error (.statement "drop sequence s" (noSequence 2289)) ∧
      ∀ size : Int32, size.toInt ≠ Int32.minValue.toInt.natAbs := by
  refine ⟨⟨-2289, by decide, by decide⟩, by decide, rfl, fun size hsize => ?_⟩
  have hhigh := size.toInt_lt
  rw [Int32.toInt_minValue] at hsize
  omega

end PolySql

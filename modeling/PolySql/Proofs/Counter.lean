import PolySql.Proofs.Refusal

/-!
# Adding amounts to columns

A counter adds a signed amount to a column.  Its statement has the sign of the amount in its text
and the size of the amount as its first bound value.  The least amount has no size among the
integers: for it there is no statement, and none for its opposite, which is the same amount again.
For any other amount sign and size make up the very amount, and a decrement adds its exact opposite
(`Profile.compile_counter`).

Whatever its amount, a counter is refused for a blank table and for a window in its conditions that
does not fit.
-/

namespace PolySql

/-! ### Sizes and opposites -/

section Amount

variable {amount : Int64}

theorem toInt_abs_of_ne_minValue (h : amount ≠ Int64.minValue) :
    amount.abs.toInt = amount.toInt.natAbs := by
  have hbits : amount.toBitVec ≠ BitVec.intMin 64 :=
    fun hbits => h (Int64.toBitVec_inj.mp hbits)
  rw [← Int64.toInt_toBitVec, Int64.toBitVec_abs,
    BitVec.toInt_abs_eq_natAbs_of_ne_intMin hbits, ← Int64.toInt_toBitVec]

theorem toInt_neg_of_ne_minValue (h : amount ≠ Int64.minValue) :
    (-amount).toInt = -amount.toInt := by
  have hlow := amount.le_toInt
  have hhigh := amount.toInt_lt
  have hleast : amount.toInt ≠ Int64.minValue.toInt := fun heq => h (Int64.toInt_inj.mp heq)
  rw [Int64.toInt_minValue] at hleast
  rw [Int64.toInt_neg, Int.bmod_eq_of_le] <;> omega

/-- The least amount is the only one whose opposite is the least. -/
theorem neg_eq_minValue_iff : -amount = Int64.minValue ↔ amount = Int64.minValue := by
  have hleast : -Int64.minValue = Int64.minValue := by decide
  rw [← Int64.neg_inj, Int64.neg_neg, hleast]

/-- A sign and a size that make up a number. -/
structure MakesUp (sign : String) (size : Int64) (n : Int) : Prop where
  size_nonneg : 0 ≤ size.toInt
  signed : (sign = " + " ∧ size.toInt = n) ∨ (sign = " - " ∧ -size.toInt = n)

theorem makesUp_abs (h : amount ≠ Int64.minValue) :
    MakesUp (Query.counterSign amount) amount.abs amount.toInt := by
  have hsize := toInt_abs_of_ne_minValue h
  have hnegative : amount < 0 ↔ amount.toInt < 0 := Int64.lt_iff_toInt_lt
  refine ⟨by omega, ?_⟩
  unfold Query.counterSign
  split
  · rename_i hlt
    have hsign := hnegative.mp hlt
    exact .inr ⟨rfl, by omega⟩
  · rename_i hnlt
    have hsign := mt hnegative.mpr hnlt
    exact .inl ⟨rfl, by omega⟩

end Amount

/-! ### Statements of counters -/

/-- A statement adds a number to a column of a table, and goes on with the given rest. -/
def Statement.Adds (w : Writer) (table column : String) (n : Int) (rest : Fragment)
    (s : Statement) : Prop :=
  ∃ sign size, MakesUp sign size n ∧
    s.sql = Placeholder.position w.dialect.placeholderStyle
      ("update " ++ w.identifier table ++ " set " ++ w.identifier column ++ " = " ++
        w.identifier column ++ sign ++ "?" ++ rest.neutral w) ∧
    s.bindings = .value (.int size) :: rest.bindings

namespace Query

/-- What follows the assignments of an update. -/
def updateRest (d : Dialect) (q : Query) (conditions : List Fragment) : Fragment :=
  Fragment.output d "inserted" q.returningColumns? ++ Fragment.whereClause conditions ++
    (Draft.trailingReturning d q.table q.returningColumns?).fragment

variable {d : Dialect} {q : Query} {column : String} {amount : Int64}

/-- A counter with a column has no statement for three reasons. -/
theorem unbuildable_counter_iff (hmethod : q.method = .counter)
    (hcounter : q.counter = some { column, amount }) :
    q.Unbuildable d ↔ Text.isAllBlank q.table = true ∨
      (∃ sub ∈ conditionSelects q.conditions, ¬ sub.Fits d) ∨ amount = Int64.minValue := by
  have hwritten : q.writtenSelects = conditionSelects q.conditions := by
    rw [writtenSelects, hmethod]
  constructor
  · intro h
    cases h with
    | blankTable hblank => exact .inl hblank
    | leastAmount _ hsome hamount =>
      obtain rfl := Option.some.inj (hsome.symm.trans hcounter)
      exact .inr (.inr hamount)
    | window hsub hfits => exact .inr (.inl ⟨_, hwritten ▸ hsub, hfits⟩)
    | counterWithoutColumn _ hnone => simp [hcounter] at hnone
    | schemaMethod h | insertWithoutRows h | insertWithoutColumns h | updateWithoutValues h
    | refetchAfterDelete h => simp [hmethod] at h
  · rintro (hblank | ⟨sub, hsub, hfits⟩ | rfl)
    · exact .blankTable hblank
    · exact .window (hwritten ▸ hsub) hfits
    · exact .leastAmount hmethod hcounter rfl

/-- The statement of a counter adds its amount. -/
theorem adds_statementOf {w : Writer} {draft : Draft} {conditions : List Fragment}
    (hmethod : q.method = .counter) (hcounter : q.counter = some { column, amount })
    (hconditions : conditionFragments w.dialect q.conditions = .ok conditions)
    (hdraft : q.draft w.dialect = .ok draft) :
    (q.statementOf w draft).Adds w q.table column amount.toInt
      (q.updateRest w.dialect conditions) := by
  obtain ⟨-, hupdate⟩ := draft_eq_ok.mp hdraft
  rw [hmethod] at hupdate
  obtain ⟨assignments, fs, hassignments, hfs, rfl⟩ := updateDraft_eq_ok.mp hupdate
  obtain rfl : fs = conditions := Except.ok.inj (hfs.symm.trans hconditions)
  rw [changeFragment, if_pos hmethod] at hassignments
  obtain ⟨_, _, hsome, hleast, rfl⟩ := counterFragment_eq_ok.mp hassignments
  obtain ⟨rfl, rfl⟩ := Counter.mk.inj (Option.some.inj (hsome.symm.trans hcounter))
  refine ⟨_, _, makesUp_abs hleast, ?_, ?_⟩
  · rw [statementOf]
    simp [updateRest, Fragment.neutral_append, Fragment.neutral_ident_cons, String.append_assoc]
  · simp [statementOf, updateRest]

end Query

namespace Profile

variable {p : Profile} {q : Query} {column : String} {amount : Int64} {transform : Option Transform}

/-- A counter is refused for one of its three reasons, with a compilation error. -/
theorem refuses_counter_iff (hmethod : q.method = .counter)
    (hcounter : q.counter = some { column, amount }) :
    (∃ detail, p.compile (.query q transform) = .error (.compilation detail)) ↔
      Text.isAllBlank q.table = true ∨
        (∃ sub ∈ conditionSelects q.conditions, ¬ sub.Fits p.dialect) ∨
        amount = Int64.minValue := by
  rw [← Query.unbuildable_counter_iff hmethod hcounter, ← not_iff_not, ← Query.exists_draft_iff,
    compile_query_eq]
  cases q.draft p.dialect with
  | error cause => simp
  | ok draft => simp

/-- What is not refused has a statement that adds the amount. -/
theorem adds_of_counter {conditions : List Fragment} (hmethod : q.method = .counter)
    (hcounter : q.counter = some { column, amount })
    (htable : Text.isAllBlank q.table = false)
    (hfits : ∀ sub ∈ conditionSelects q.conditions, sub.Fits p.dialect)
    (hconditions : conditionFragments p.dialect q.conditions = .ok conditions)
    (hamount : amount ≠ Int64.minValue) :
    ∃ s, p.compile (.query q transform) = .ok (.single s) ∧
      s.Adds (q.writer p.dialect p.quoting) q.table column amount.toInt
        (q.updateRest p.dialect conditions) := by
  have hbuilt : ¬ q.Unbuildable p.dialect := by
    rw [Query.unbuildable_counter_iff hmethod hcounter]
    rintro (hblank | ⟨sub, hsub, hnot⟩ | hleast)
    · exact absurd (htable.symm.trans hblank) (by decide)
    · exact hnot (hfits sub hsub)
    · exact hamount hleast
  obtain ⟨draft, hdraft⟩ := Query.exists_draft_iff.mpr hbuilt
  refine ⟨q.statementOf (q.writer p.dialect p.quoting) draft, ?_,
    Query.adds_statementOf hmethod hcounter hconditions hdraft⟩
  rw [compile_query_eq, hdraft]

/-- **A counter adds its very amount.**  An increment and a decrement are refused, both with a
compilation error, for a blank table, for a window in the conditions that does not fit, and for the
least amount; there is no other reason.  Any other increment has a statement whose sign and first
bound value make up its amount.  The rest of the statement does not depend on the amount.  A
decrement is the increment by the opposite amount, so that it adds the exact opposite. -/
theorem compile_counter (p : Profile) (table column : String) (conditions : List Predicate)
    (returning : Option (List String)) (quoting : Option Bool) (transform : Option Transform) :
    let w : Writer := { dialect := p.dialect, quoting := quoting.getD p.quoting }
    let increment (amount : Int64) : Request :=
      .query { Query.increment table column amount with conditions, returning, quoting } transform
    let decrement (amount : Int64) : Request :=
      .query { Query.decrement table column amount with conditions, returning, quoting } transform
    let impossible : Prop := Text.isAllBlank table = true ∨
      ∃ sub ∈ conditionSelects conditions, ¬ sub.Fits p.dialect
    (∀ amount,
      ((∃ detail, p.compile (increment amount) = .error (.compilation detail)) ↔
        impossible ∨ amount = Int64.minValue) ∧
      ((∃ detail, p.compile (decrement amount) = .error (.compilation detail)) ↔
        impossible ∨ amount = Int64.minValue)) ∧
    (¬ impossible → ∃ rest : Fragment, ∀ amount, amount ≠ Int64.minValue →
      (∃ s, p.compile (increment amount) = .ok (.single s) ∧
        s.Adds w table column amount.toInt rest) ∧
      p.compile (decrement amount) = p.compile (increment (-amount)) ∧
      (∃ s, p.compile (decrement amount) = .ok (.single s) ∧
        s.Adds w table column (-amount.toInt) rest)) := by
  intro w increment decrement impossible
  refine ⟨fun amount => ⟨?_, ?_⟩, fun hpossible => ?_⟩
  · rw [or_assoc]
    exact refuses_counter_iff rfl rfl
  · rw [or_assoc, ← neg_eq_minValue_iff]
    exact refuses_counter_iff rfl rfl
  · obtain ⟨hblank, hwindows⟩ := not_or.mp hpossible
    have htable : Text.isAllBlank table = false := Bool.eq_false_iff.mpr hblank
    have hfits : ∀ sub ∈ conditionSelects conditions, sub.Fits p.dialect := fun sub hsub =>
      by_contra fun hnot => hwindows ⟨sub, hsub, hnot⟩
    let counter : Query :=
      { Query.increment table column 0 with conditions, returning, quoting }
    obtain ⟨fragments, hfragments⟩ := counter.exists_conditions hfits
    have hadds (amount : Int64) (hamount : amount ≠ Int64.minValue) :
        ∃ s, p.compile (increment amount) = .ok (.single s) ∧
          s.Adds w table column amount.toInt (counter.updateRest p.dialect fragments) :=
      adds_of_counter
        (q := { Query.increment table column amount with conditions, returning, quoting })
        rfl rfl htable hfits hfragments hamount
    refine ⟨counter.updateRest p.dialect fragments,
      fun amount hamount => ⟨hadds amount hamount, rfl, ?_⟩⟩
    rw [← toInt_neg_of_ne_minValue hamount]
    exact hadds (-amount) (mt neg_eq_minValue_iff.mp hamount)

/-- Conditions that ask for the first `n` rows of another table. -/
def amongFirstOwners (n : UInt64) : List Predicate :=
  [.inQuery "id" { Query.select "owners" with columns := ["account"], limit := some n }]

/-- The greatest amount is taken away from the accounts of five owners. -/
theorem compile_counter_debit :
    let p : Profile := { dialect := .oracle }
    let conditions := amongFirstOwners 5
    ¬ (Text.isAllBlank "accounts" = true ∨
        ∃ sub ∈ conditionSelects conditions, ¬ sub.Fits p.dialect) ∧
      Int64.maxValue ≠ Int64.minValue ∧
      ∃ rest s, p.compile (.query
          { Query.decrement "accounts" "balance" Int64.maxValue with conditions } none) =
            .ok (.single s) ∧
        s.Adds { dialect := .oracle, quoting := true } "accounts" "balance"
          (-9223372036854775807) rest := by
  intro p conditions
  have hpossible : ¬ (Text.isAllBlank "accounts" = true ∨
      ∃ sub ∈ conditionSelects conditions, ¬ sub.Fits p.dialect) := by
    rintro (hblank | ⟨sub, hsub, hnot⟩)
    · exact absurd hblank (by decide)
    · obtain rfl := List.mem_singleton.mp hsub
      exact hnot fun n hn => Option.some.inj hn ▸ (by decide)
  have hamount : Int64.maxValue ≠ Int64.minValue := by decide
  obtain ⟨-, hbuilt⟩ := compile_counter p "accounts" "balance" conditions none none none
  obtain ⟨rest, hrest⟩ := hbuilt hpossible
  obtain ⟨-, -, s, hs, hadds⟩ := hrest Int64.maxValue hamount
  exact ⟨hpossible, hamount, rest, s, hs, hadds⟩

/-- The least amount is not the only one that is refused. -/
theorem not_refused_iff_minValue :
    let p : Profile := { dialect := .postgres }
    p.compile (.query (Query.increment "" "balance" 1) none) =
        .error (.compilation "query has no target table") ∧
      p.compile (.query { Query.increment "accounts" "balance" 1 with
          conditions := amongFirstOwners 0x8000_0000_0000_0000 } none) =
        .error (.compilation "limit 9223372036854775808 is out of range") ∧
      ¬ ∀ (table column : String) (conditions : List Predicate) (amount : Int64),
        (∃ detail, p.compile (.query { Query.increment table column amount with conditions } none) =
          .error (.compilation detail)) ↔ amount = Int64.minValue := by
  intro p
  have hblank : p.compile (.query (Query.increment "" "balance" 1) none) =
      .error (.compilation "query has no target table") := rfl
  refine ⟨hblank, rfl, fun h => ?_⟩
  have hleast := (h "" "balance" [] 1).mp ⟨_, hblank⟩
  exact absurd hleast (by decide)

end Profile

end PolySql

import PolySql.Dialect.Builtin
import PolySql.Proofs.Fragment.Compiled
import PolySql.Proofs.Fragment.Enclosed
import PolySql.Proofs.Fragment.Texts

/-!
# Which setting quotes the names of a query in a condition

A query may say for itself whether its names are quoted.  `Query.subquerySettings` resolves this for
the queries in the conditions of a statement, at any depth: each goes by its own setting, or by that
of the query around it where it has none.

The statement does not go by it.  All of it is written under the setting of the outermost query, so
that the select of a query in a condition is the one under its own setting only where the two
settings are the same, or where quotes make no difference to its names
(`Query.compile_subquery_quoting`).
-/

namespace PolySql

/-! ### The setting of every query -/

mutual

/-- The queries in a condition, at any depth, each with the setting that it goes by when the query
around it goes by `quoting`. -/
def Predicate.settings (quoting : Bool) : Predicate → List (Query × Bool)
  | .inQuery _ query => query.settings quoting
  | .and children => conditionSettings quoting children
  | .or children => conditionSettings quoting children
  | .not child => child.settings quoting
  | _ => []

/-- The queries in conditions, at any depth, with their settings. -/
def conditionSettings (quoting : Bool) : List Predicate → List (Query × Bool)
  | [] => []
  | p :: ps => p.settings quoting ++ conditionSettings quoting ps

/-- A query and those in its conditions, at any depth, with their settings. -/
def Query.settings (around : Bool) : Query → List (Query × Bool)
  | q@{ conditions, quoting, .. } =>
    (q, quoting.getD around) :: conditionSettings (quoting.getD around) conditions

end

/-- The queries in the conditions that are written into the statement of a query, at any depth, with
their settings. -/
def Query.subquerySettings (default : Bool) (q : Query) : List (Query × Bool) :=
  match q.method with
  | .insert | .schema => []
  | _ => conditionSettings (q.quoting.getD default) q.conditions

theorem map_fst_conditionSettings {quoting : Bool} {ps : List Predicate}
    (h : ∀ p ∈ ps, (p.settings quoting).map Prod.fst = p.selects) :
    (conditionSettings quoting ps).map Prod.fst = conditionSelects ps := by
  induction ps with
  | nil => rfl
  | cons p ps ih =>
    obtain ⟨hp, hps⟩ := List.forall_mem_cons.mp h
    rw [conditionSettings, conditionSelects, List.map_append, hp, ih hps]

/-- What a condition and a query have when each query in them has a setting. -/
theorem inherits_settings :
    Inherits (fun p => ∀ quoting, (p.settings quoting).map Prod.fst = p.selects)
      (fun q => ∀ quoting, (q.settings quoting).map Prod.fst = q.selects) where
  compare _ _ _ _ := rfl
  inList _ _ _ := rfl
  isNull _ _ := rfl
  notNull _ _ := rfl
  raw _ _ _ := rfl
  inQuery _ _ ih quoting := ih quoting
  and _ ih quoting := map_fst_conditionSettings fun p hp => ih p hp quoting
  or _ ih quoting := map_fst_conditionSettings fun p hp => ih p hp quoting
  not _ ih quoting := ih quoting
  query q ih quoting := by
    cases q
    rw [Query.settings, Query.selects, List.map_cons]
    exact congrArg _ (map_fst_conditionSettings fun p hp => ih p hp _)

theorem Query.map_fst_subquerySettings (default : Bool) (q : Query) :
    (q.subquerySettings default).map Prod.fst = q.subqueries := by
  have hconditions : (conditionSettings (q.quoting.getD default) q.conditions).map Prod.fst =
      conditionSelects q.conditions :=
    map_fst_conditionSettings fun p _ => Predicate.of_inherits inherits_settings p _
  unfold subquerySettings subqueries
  cases q.method
  case insert => rfl
  case schema => rfl
  all_goals exact hconditions

/-! ### Without the settings inside -/

mutual

/-- A condition without the settings of the queries in it, at any depth. -/
def Predicate.withoutSettings : Predicate → Predicate
  | .inQuery column query => .inQuery column query.withoutSettings
  | .and children => .and (conditionsWithoutSettings children)
  | .or children => .or (conditionsWithoutSettings children)
  | .not child => .not child.withoutSettings
  | p => p

/-- Conditions without the settings of the queries in them, at any depth. -/
def conditionsWithoutSettings : List Predicate → List Predicate
  | [] => []
  | p :: ps => p.withoutSettings :: conditionsWithoutSettings ps

/-- A query without a setting, and without those of the queries in its conditions, at any depth. -/
def Query.withoutSettings : Query → Query
  | q@{ conditions, .. } =>
    { q with conditions := conditionsWithoutSettings conditions, quoting := none }

end

theorem isEmpty_conditionsWithoutSettings (ps : List Predicate) :
    (conditionsWithoutSettings ps).isEmpty = ps.isEmpty := by
  cases ps <;> rfl

theorem conditionFragments_withoutSettings {d : Dialect} {ps : List Predicate}
    (h : ∀ p ∈ ps, p.withoutSettings.fragment d = p.fragment d) :
    conditionFragments d (conditionsWithoutSettings ps) = conditionFragments d ps := by
  induction ps with
  | nil => rfl
  | cons p ps ih =>
    obtain ⟨hp, hps⟩ := List.forall_mem_cons.mp h
    rw [conditionsWithoutSettings, conditionFragments, conditionFragments, hp, ih hps]

/-- What a condition and a query have when settings in them do not count. -/
theorem inherits_withoutSettings (d : Dialect) :
    Inherits (fun p => p.withoutSettings.fragment d = p.fragment d)
      (fun q => q.withoutSettings.selectFragment d = q.selectFragment d) where
  compare _ _ _ := rfl
  inList _ _ := rfl
  isNull _ := rfl
  notNull _ := rfl
  raw _ _ := rfl
  inQuery column query ih := by
    rw [Predicate.withoutSettings, Predicate.fragment, Predicate.fragment, ih]
  and children ih := by
    rw [Predicate.withoutSettings, Predicate.fragment, Predicate.fragment,
      conditionFragments_withoutSettings ih, isEmpty_conditionsWithoutSettings]
  or children ih := by
    rw [Predicate.withoutSettings, Predicate.fragment, Predicate.fragment,
      conditionFragments_withoutSettings ih, isEmpty_conditionsWithoutSettings]
  not child ih := by
    rw [Predicate.withoutSettings, Predicate.fragment, Predicate.fragment, ih]
  query q ih := by
    cases q
    rw [Query.withoutSettings, Query.selectFragment, Query.selectFragment,
      conditionFragments_withoutSettings ih]
    rfl

namespace Query

/-- A query whose own setting is the only one. -/
def withoutInnerSettings (q : Query) : Query :=
  { q with conditions := conditionsWithoutSettings q.conditions }

/-- **The settings of the queries in conditions do not count.** -/
theorem compile_withoutInnerSettings (d : Dialect) (quoting : Bool) (q : Query) :
    q.withoutInnerSettings.compile d quoting = q.compile d quoting := by
  have hconditions : conditionFragments d (conditionsWithoutSettings q.conditions) =
      conditionFragments d q.conditions :=
    conditionFragments_withoutSettings fun p _ =>
      Predicate.of_inherits (inherits_withoutSettings d) p
  have hselect : q.withoutInnerSettings.selectFragment d = q.selectFragment d := by
    cases q
    rw [withoutInnerSettings, selectFragment, selectFragment, hconditions]
    rfl
  have hupdate : q.withoutInnerSettings.updateDraft d = q.updateDraft d := by
    rw [updateDraft, updateDraft, withoutInnerSettings, hconditions]
    rfl
  have hdelete : q.withoutInnerSettings.deleteDraft d = q.deleteDraft d := by
    rw [deleteDraft, deleteDraft, withoutInnerSettings, hconditions]
    rfl
  have hdraft : q.withoutInnerSettings.draft d = q.draft d := by
    rw [draft, draft, hselect, hupdate, hdelete]
    rfl
  rw [compile_eq, compile_eq, hdraft]
  rfl

/-! ### What is written -/

/-- Between parentheses in a fragment `f` stands `g`, the select of a query that goes by `setting`,
as `w` writes it.  The two settings make the same text of it only if they are the same or quotes
make no difference to its names, which are then made of the segment `*` alone. -/
structure Splices (w : Writer) (f : Fragment) (sub : Query) (setting : Bool) (g : Fragment) :
    Prop where
  select : sub.selectFragment w.dialect = .ok g
  spliced : ∃ left right, f.neutral w = left ++ "(" ++ g.neutral w ++ ")" ++ right
  same_iff : g.neutral w = g.neutral { w with quoting := setting } ↔
    w.quoting = setting ∨
      ∀ name, .ident name ∈ g → ∀ segment ∈ Dialect.segments name, segment = ['*']

theorem splices_of_infix {w : Writer} {f g : Fragment} {sub : Query}
    (hselect : sub.selectFragment w.dialect = .ok g) (h : Fragment.wrapped "(" ")" g <:+: f)
    (setting : Bool) : Splices w f sub setting g where
  select := hselect
  spliced := by
    obtain ⟨left, right, rfl⟩ := h
    refine ⟨Fragment.neutral w left, Fragment.neutral w right, ?_⟩
    rw [← String.toList_inj]
    simp [Fragment.wrapped, Fragment.neutral, Piece.neutral]
  same_iff := by
    refine (Fragment.neutral_eq_iff w.dialect g w.quoting setting).trans (or_congr Iff.rfl ?_)
    exact forall₂_congr fun _ _ => w.dialect.quote_eq_self_iff

/-- **A query in a condition is written under the setting of the statement.**  Whatever setting it
goes by, its select stands between its parentheses as it is written under the setting of the
outermost query, which may make another text of it.  The settings of the queries in conditions
change nothing. -/
theorem compile_subquery_quoting (d : Dialect) (quoting : Bool) (q : Query) :
    (∀ s, q.compile d quoting = .ok s → ∃ f, q.fragment d = .ok f ∧
      s.sql = Placeholder.position d.placeholderStyle (f.neutral (q.writer d quoting)) ∧
      ∀ sub setting, (sub, setting) ∈ q.subquerySettings quoting →
        ∃ g, Splices (q.writer d quoting) f sub setting g) ∧
    q.withoutInnerSettings.compile d quoting = q.compile d quoting := by
  refine ⟨fun s hs => ?_, compile_withoutInnerSettings d quoting q⟩
  obtain ⟨draft, hdraft, rfl⟩ := compile_eq_ok.mp hs
  have hf := fragment_of_draft hdraft
  refine ⟨draft.fragment, hf, rfl, fun sub setting hentry => ?_⟩
  have hsub : sub ∈ q.subqueries := by
    rw [← map_fst_subquerySettings quoting]
    exact List.mem_map_of_mem hentry
  obtain ⟨g, hg, hinfix⟩ := encloses_subqueries hf sub hsub
  exact ⟨g, splices_of_infix hg hinfix setting⟩

/-- The ids of the users with orders, without quotes. -/
def unquotedOrders : Query :=
  { select "Orders" with columns := ["UserId"], quoting := some false }

/-- The users with orders. -/
def usersWithOrders : Query :=
  { select "users" with conditions := [.inQuery "id" unquotedOrders] }

theorem compile_subquery_quoting_usersWithOrders :
    ∃ s, usersWithOrders.compile .postgres true = .ok s ∧
      (unquotedOrders, false) ∈ usersWithOrders.subquerySettings true ∧
      (∃ f, usersWithOrders.fragment .postgres = .ok f ∧
        s.sql = Placeholder.position .dollar (f.neutral (usersWithOrders.writer .postgres true)) ∧
        ∃ g, Splices (usersWithOrders.writer .postgres true) f unquotedOrders false g) ∧
      usersWithOrders.withoutInnerSettings.compile .postgres true =
        usersWithOrders.compile .postgres true := by
  obtain ⟨hwritten, hinner⟩ := compile_subquery_quoting .postgres true usersWithOrders
  have hcompile : usersWithOrders.compile .postgres true = .ok _ := compile_of_draft rfl
  obtain ⟨f, hf, hsql, hsplices⟩ := hwritten _ hcompile
  have hentry : (unquotedOrders, false) ∈ usersWithOrders.subquerySettings true :=
    List.mem_cons_self
  exact ⟨_, hcompile, hentry, ⟨f, hf, hsql, hsplices _ _ hentry⟩, hinner⟩

/-- The names of the query in the condition are quoted, though it says that they are not. -/
theorem not_subquery_quoting :
    ∃ s g, usersWithOrders.compile .postgres true = .ok s ∧
      (unquotedOrders, false) ∈ usersWithOrders.subquerySettings true ∧
      unquotedOrders.selectFragment .postgres = .ok g ∧
      g.neutral { dialect := .postgres, quoting := false } = "select UserId from Orders" ∧
      s.sql = "select * from \"users\" where \"id\" in (select \"UserId\" from \"Orders\")" :=
  ⟨_, _, compile_of_draft rfl, List.mem_cons_self, rfl, rfl, rfl⟩

end Query

end PolySql

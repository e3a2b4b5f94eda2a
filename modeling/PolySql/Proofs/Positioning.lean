import PolySql.Proofs.Fragment.Placed

/-!
# Numbering as a rewriting of parts

The marks of a text cut it into parts, one more than there are marks (`Placeholder.Cut`).  Numbering
puts the parts together again, with the token of `k` in place of the `k`-th mark, so that the tokens
of a text behind another one go on with the next numbers (`Placeholder.position_rewrites`).  No
token of a numbered style has a mark, so a numbered text is finished.
-/

namespace PolySql.Placeholder

/-! ### Texts cut at their marks -/

/-- A text is made of parts without marks, with a mark between neighbours. -/
structure Cut (sql first : String) (rest : List String) : Prop where
  text : sql = String.intercalate "?" (first :: rest)
  unmarked : ∀ part ∈ first :: rest, mark ∉ part.toList

/-- Parts one after the other, each of them behind the token of its number. -/
def afterTokens (style : PlaceholderStyle) (index : Nat) (parts : List String) : String :=
  String.join ((parts.zipIdx index).map fun (part, k) => style.token k ++ part)

theorem toList_afterTokens_cons (style : PlaceholderStyle) (index : Nat) (part : String)
    (parts : List String) :
    (afterTokens style index (part :: parts)).toList =
      (style.token index).toList ++ part.toList ++
        (afterTokens style (index + 1) parts).toList := by
  simp [afterTokens]

/-- Every text can be cut. -/
theorem exists_cut (sql : String) : ∃ first rest, Cut sql first rest := by
  have hparts := Text.intercalate_fields mark sql.toList
  have hunmarked : ∀ part ∈ Text.fields (· == mark) sql.toList, mark ∉ part :=
    fun _ => Text.separator_notMem_of_mem_fields
  cases hfields : Text.fields (· == mark) sql.toList with
  | nil => exact absurd hfields (Text.fields_ne_nil _ _)
  | cons first rest =>
    rw [hfields] at hparts hunmarked
    refine ⟨String.ofList first, rest.map String.ofList, ?_, fun part hpart => ?_⟩
    · rw [← String.toList_inj, String.toList_intercalate, ← hparts]
      simp [mark, Function.comp_def]
    · rw [← List.map_cons, List.mem_map] at hpart
      obtain ⟨cs, hcs, rfl⟩ := hpart
      rw [String.toList_ofList]
      exact hunmarked cs hcs

section Cut

variable {sql first : String} {rest : List String}

theorem Cut.toList_of_nil (h : Cut sql first []) : sql = first := by
  rw [h.text, String.intercalate_singleton]

/-- Behind the first part there is a mark, and behind it a text that is cut into the other parts. -/
theorem Cut.exists_tail {next : String} (h : Cut sql first (next :: rest)) :
    ∃ tail, sql.toList = first.toList ++ mark :: tail.toList ∧ Cut tail next rest := by
  refine ⟨String.intercalate "?" (next :: rest), ?_, rfl,
    fun part hpart => h.unmarked part (List.mem_cons_of_mem first hpart)⟩
  rw [h.text, String.intercalate_cons_cons]
  simp [mark]

theorem Cut.mark_notMem_first (h : Cut sql first rest) : mark ∉ first.toList :=
  h.unmarked first List.mem_cons_self

/-- There is a mark for each part but the first. -/
theorem Cut.count_eq (h : Cut sql first rest) : count sql = rest.length := by
  induction rest generalizing sql first with
  | nil => rw [h.toList_of_nil, count, List.count_eq_zero.mpr h.mark_notMem_first, List.length_nil]
  | cons next rest ih =>
    obtain ⟨tail, htext, htail⟩ := h.exists_tail
    have hcount := ih htail
    rw [count] at hcount ⊢
    rw [htext, List.count_append, List.count_eq_zero.mpr h.mark_notMem_first, List.count_cons_self,
      hcount, List.length_cons, Nat.zero_add]

/-- Numbering writes the parts with tokens between them, the first one that of the given number. -/
theorem Cut.positionFrom_eq (h : Cut sql first rest) (style : PlaceholderStyle) (index : Nat) :
    positionFrom style index sql.toList =
      first.toList ++ (afterTokens style index rest).toList := by
  induction rest generalizing sql first index with
  | nil =>
    rw [h.toList_of_nil, positionFrom_of_not_mem style index h.mark_notMem_first]
    simp [afterTokens]
  | cons next rest ih =>
    obtain ⟨tail, htext, htail⟩ := h.exists_tail
    have hcount : first.toList.count mark = 0 := List.count_eq_zero.mpr h.mark_notMem_first
    rw [htext, positionFrom_append, positionFrom_of_not_mem style index h.mark_notMem_first, hcount,
      Nat.add_zero, positionFrom_mark, ih htail, toList_afterTokens_cons, List.append_assoc]

end Cut

/-! ### Finished texts -/

/-- A number is written without marks. -/
theorem mark_notMem_token {style : PlaceholderStyle} (h : style ≠ .question) (index : Nat) :
    mark ∉ (style.token index).toList := by
  have hdigits : mark ∉ (toString index).toList := fun hmark => by
    rw [Nat.toString_eq_repr, Nat.toList_repr] at hmark
    exact absurd (Nat.isDigit_of_mem_toDigits (by decide) (by decide) hmark) (by decide)
  have hsigned (sign : String) (hsign : mark ∉ sign.toList) :
      mark ∉ (sign ++ toString index).toList := by
    rw [String.toList_append, List.mem_append]
    exact not_or.mpr ⟨hsign, hdigits⟩
  cases style with
  | question => exact absurd rfl h
  | dollar => exact hsigned "$" (by decide)
  | colon => exact hsigned ":" (by decide)
  | atP => exact hsigned "@p" (by decide)

theorem mark_notMem_positionFrom {style : PlaceholderStyle} (h : style ≠ .question) (index : Nat)
    (cs : List Char) : mark ∉ positionFrom style index cs := by
  induction cs generalizing index with
  | nil => exact List.not_mem_nil
  | cons c cs ih =>
    by_cases hc : c = mark
    · rw [hc, positionFrom_mark, List.mem_append]
      exact not_or.mpr ⟨mark_notMem_token h index, ih (index + 1)⟩
    · rw [positionFrom_of_ne_mark style index hc, List.mem_cons]
      exact not_or.mpr ⟨Ne.symm hc, ih index⟩

/-- What numbering makes of a text is finished. -/
theorem isFinished_position (style : PlaceholderStyle) (sql : String) :
    isFinished style (position style sql) = true := by
  rw [isFinished_iff, position_eq, String.toList_ofList]
  by_cases hstyle : style = .question
  · exact .inl hstyle
  · exact .inr (mark_notMem_positionFrom hstyle 1 sql.toList)

theorem position_of_isFinished {style : PlaceholderStyle} {sql : String}
    (h : isFinished style sql = true) : position style sql = sql := by
  rw [position, if_pos h]

/-- Numbering leaves exactly the finished texts as they are. -/
theorem position_eq_self_iff {style : PlaceholderStyle} {sql : String} :
    position style sql = sql ↔ isFinished style sql = true := by
  have hfrom : positionFrom style 1 sql.toList = sql.toList ↔
      style = .question ∨ mark ∉ sql.toList := positionFrom_eq_self_iff
  rw [isFinished_iff, ← hfrom, position_eq, ← String.toList_inj, String.toList_ofList]

/-! ### The rewriting -/

/-- **Numbering is a rewriting from left to right.**  A text of parts without marks, with a mark
between neighbours, becomes the same parts with the tokens of 1, 2, … in place of the marks, and
there are as many marks as parts but one.  A text is handed back without a pass over it exactly if
the pass would leave it as it is.  Numbering a numbered text changes nothing, and behind another text
the tokens go on from the number of its marks. -/
theorem position_rewrites (style : PlaceholderStyle) :
    (∀ sql, ∃ first rest, Cut sql first rest) ∧
    (∀ sql first rest, Cut sql first rest →
      count sql = rest.length ∧ position style sql = first ++ afterTokens style 1 rest) ∧
    (∀ sql, position style sql = String.ofList (positionFrom style 1 sql.toList) ∧
      (isFinished style sql = true ↔ position style sql = sql)) ∧
    (∀ sql, position style (position style sql) = position style sql) ∧
    (∀ before sql first rest, Cut sql first rest →
      position style (before ++ sql) =
        position style before ++ (first ++ afterTokens style (1 + count before) rest)) := by
  refine ⟨exists_cut, fun sql first rest h => ⟨h.count_eq, ?_⟩,
    fun sql => ⟨position_eq style sql, position_eq_self_iff.symm⟩,
    fun sql => position_of_isFinished (isFinished_position style sql),
    fun before sql first rest h => ?_⟩
  · rw [position_eq, h.positionFrom_eq, String.ofList_append, String.ofList_toList,
      String.ofList_toList]
  · rw [position_eq, position_eq, String.toList_append, positionFrom_append, h.positionFrom_eq,
      String.ofList_append, String.ofList_append, String.ofList_toList, String.ofList_toList]
    rfl

/-- A mark in a literal is numbered like any other, here behind nine of them. -/
theorem position_rewrites_literal :
    let sql := "note = 'why?' and ü = ?"
    Cut sql "note = 'why" ["' and ü = ", ""] ∧ count sql = 2 ∧
      position .atP sql = "note = 'why@p1' and ü = @p2" ∧
      position .atP (position .atP sql) = position .atP sql ∧
      position .atP ("?????????" ++ sql) =
        "@p1@p2@p3@p4@p5@p6@p7@p8@p9note = 'why@p10' and ü = @p11" := by
  intro sql
  have hcut : Cut sql "note = 'why" ["' and ü = ", ""] := ⟨by decide +kernel, by decide +kernel⟩
  obtain ⟨-, hparts, -, hagain, hbehind⟩ := position_rewrites .atP
  obtain ⟨hcount, hposition⟩ := hparts sql _ _ hcut
  have hbefore : count "?????????" = 9 := by decide
  have hnine : position .atP "?????????" = "@p1@p2@p3@p4@p5@p6@p7@p8@p9" := by decide +kernel
  refine ⟨hcut, hcount, ?_, hagain sql, ?_⟩
  · rw [hposition]
    decide +kernel
  · rw [hbehind "?????????" sql _ _ hcut, hnine, hbefore]
    decide +kernel

end PolySql.Placeholder

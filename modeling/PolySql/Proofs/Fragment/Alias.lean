import PolySql.Dialect.Builtin
import PolySql.Fragment.SelectList
import PolySql.Proofs.Text.Pattern
import PolySql.Proofs.Text.Words

/-!
# Items with an alias

An item of a select list has an alias if its words are an expression, `as` in some spelling and a
name (`HasAlias`).  The pattern for such items could cut a text in several ways, since it has blanks
around its words and takes any number of them.  But a run that is not blank between two that are, or
at an end, is a whole word, so every cut gives the same words (`matches_aliasPattern_iff`), and the
search cannot but find them (`aliasParts?_eq_some_iff`).
-/

namespace PolySql

namespace Text

/-! ### Letter case -/

theorem toNat_toLower (c : Char) :
    c.toLower.toNat = if 65 ≤ c.toNat ∧ c.toNat ≤ 90 then c.toNat + 32 else c.toNat := by
  have hval : (c.val ≥ 'A'.val ∧ c.val ≤ 'Z'.val) ↔ 65 ≤ c.toNat ∧ c.toNat ≤ 90 := by
    simp [UInt32.le_iff_toNat_le]
  unfold Char.toLower
  split
  · rename_i h
    obtain ⟨hA, hZ⟩ := hval.mp h
    rw [if_pos ⟨hA, hZ⟩]
    have hsum : (c.val + 32).toNat = c.val.toNat + 32 := by
      rw [UInt32.toNat_add]
      have hnat : c.val.toNat = c.toNat := rfl
      have h32 : (32 : UInt32).toNat = 32 := rfl
      omega
    exact hsum
  · rename_i h
    rw [if_neg (mt hval.mpr h)]

theorem foldCase_eq_a_iff {c : Char} : foldCase c = 'a' ↔ c = 'a' ∨ c = 'A' := by
  unfold foldCase
  split
  · subst c
    decide
  split
  · subst c
    decide
  · simp only [← Char.toNat_inj, toNat_toLower, Char.reduceToNat]
    split <;> omega

theorem foldCase_eq_s_iff {c : Char} : foldCase c = 's' ↔ c = 's' ∨ c = 'S' ∨ c = '\u017F' := by
  unfold foldCase
  split
  · rename_i hlong
    simp [hlong]
  split
  · subst c
    decide
  · rename_i hlong _
    rw [or_iff_left_of_imp (b := c = '\u017F') (fun h => absurd h hlong)]
    simp only [← Char.toNat_inj, toNat_toLower, Char.reduceToNat]
    split <;> omega

/-! ### The runs of the steps -/

namespace PatternStep

variable {run : List Char} {captured : Bool}

theorem takes_blanks : Takes ⟨.blank, .any, captured⟩ run ↔ IsBlanks run :=
  ⟨fun h => h.holds, fun h => ⟨h, trivial⟩⟩

theorem takes_gap : Takes ⟨.blank, .oneOrMore, captured⟩ run ↔ IsGap run :=
  ⟨fun h => ⟨List.length_pos_iff.mp h.admits, h.holds⟩,
    fun h => ⟨h.blanks, List.length_pos_iff.mpr h.ne_nil⟩⟩

theorem takes_word : Takes ⟨.nonblank, .oneOrMore, captured⟩ run ↔ IsWord run := by
  have hholds : (∀ c ∈ run, CharClass.nonblank.holds c = true) ↔ ∀ c ∈ run, isBlank c = false := by
    simp [CharClass.holds]
  exact ⟨fun h => ⟨List.length_pos_iff.mp h.admits, hholds.mp h.holds⟩,
    fun h => ⟨hholds.mpr h.nonblank, List.length_pos_iff.mpr h.ne_nil⟩⟩

theorem takes_letter {a : Char} :
    Takes ⟨.letter a, .once, captured⟩ run ↔ ∃ c, run = [c] ∧ foldCase c = foldCase a := by
  constructor
  · intro h
    obtain ⟨c, rfl⟩ := List.length_eq_one_iff.mp h.admits
    exact ⟨c, rfl, by simpa [CharClass.holds] using h.holds c List.mem_cons_self⟩
  · rintro ⟨c, rfl, hc⟩
    exact ⟨by simpa [CharClass.holds] using hc, rfl⟩

end PatternStep

end Text

open Text

/-! ### The pattern -/

/-- The spellings of `as`. -/
def aliasMarkers : List String :=
  ["as", "aS", "a\u017F", "As", "AS", "A\u017F"]

theorem mem_aliasMarkers_iff {marker : List Char} :
    String.ofList marker ∈ aliasMarkers ↔
      ∃ a s, marker = [a, s] ∧ foldCase a = 'a' ∧ foldCase s = 's' := by
  simp only [foldCase_eq_a_iff, foldCase_eq_s_iff]
  simp only [aliasMarkers, List.mem_cons, List.not_mem_nil, or_false, ← String.toList_inj,
    String.toList_ofList]
  constructor
  · rintro (rfl | rfl | rfl | rfl | rfl | rfl) <;> exact ⟨_, _, rfl, by decide, by decide⟩
  · rintro ⟨a, s, rfl, rfl | rfl, rfl | rfl | rfl⟩ <;> simp

/-- Every spelling of `as` is a word. -/
theorem isWord_of_mem_aliasMarkers {marker : List Char}
    (h : String.ofList marker ∈ aliasMarkers) : IsWord marker := by
  obtain ⟨a, s, rfl, ha, hs⟩ := mem_aliasMarkers_iff.mp h
  have hblank : isBlank a = false ∧ isBlank s = false := by
    constructor
    · rcases foldCase_eq_a_iff.mp ha with rfl | rfl <;> rfl
    · rcases foldCase_eq_s_iff.mp hs with rfl | rfl | rfl <;> rfl
  exact ⟨List.cons_ne_nil _ _, by simpa using hblank⟩

/-- A text matches the pattern exactly if it is three words, the second of which is `as`.  It
captures the other two. -/
theorem matches_aliasPattern_iff {cs : List Char} {groups : List (List Char)} :
    aliasPattern.Matches cs groups ↔ ∃ expr marker name, IsThreeWords cs expr marker name ∧
      String.ofList marker ∈ aliasMarkers ∧ groups = [expr, name] := by
  constructor
  · intro h
    obtain ⟨before, _, _, hbefore, h₁, rfl, rfl⟩ := Pattern.matches_cons_iff.mp h
    obtain ⟨expr, _, _, hexpr, h₂, rfl, rfl⟩ := Pattern.matches_cons_iff.mp h₁
    obtain ⟨gap, _, _, hgap, h₃, rfl, rfl⟩ := Pattern.matches_cons_iff.mp h₂
    obtain ⟨_, _, _, hfirst, h₄, rfl, rfl⟩ := Pattern.matches_cons_iff.mp h₃
    obtain ⟨_, _, _, hsecond, h₅, rfl, rfl⟩ := Pattern.matches_cons_iff.mp h₄
    obtain ⟨gap', _, _, hgap', h₆, rfl, rfl⟩ := Pattern.matches_cons_iff.mp h₅
    obtain ⟨name, _, _, hname, h₇, rfl, rfl⟩ := Pattern.matches_cons_iff.mp h₆
    obtain ⟨after, _, _, hafter, h₈, rfl, rfl⟩ := Pattern.matches_cons_iff.mp h₇
    obtain ⟨rfl, rfl⟩ := Pattern.matches_nil_iff.mp h₈
    obtain ⟨a, rfl, ha⟩ := PatternStep.takes_letter.mp hfirst
    obtain ⟨s, rfl, hs⟩ := PatternStep.takes_letter.mp hsecond
    have hmarker : String.ofList [a, s] ∈ aliasMarkers :=
      mem_aliasMarkers_iff.mpr ⟨a, s, rfl, ha, hs⟩
    refine ⟨expr, [a, s], name, ⟨⟨before, gap, gap', after, by simp, ?_, ?_, ?_, ?_⟩, ?_,
      isWord_of_mem_aliasMarkers hmarker, ?_⟩, hmarker, rfl⟩
    · exact PatternStep.takes_blanks.mp hbefore
    · exact PatternStep.takes_gap.mp hgap
    · exact PatternStep.takes_gap.mp hgap'
    · exact PatternStep.takes_blanks.mp hafter
    · exact PatternStep.takes_word.mp hexpr
    · exact PatternStep.takes_word.mp hname
  · rintro ⟨expr, marker, name, ⟨⟨before, gap, gap', after, rfl, hbefore, hgap, hgap', hafter⟩,
      hexpr, -, hname⟩, hmarker, rfl⟩
    obtain ⟨a, s, rfl, ha, hs⟩ := mem_aliasMarkers_iff.mp hmarker
    refine Pattern.matches_cons_iff.mpr
      ⟨before, _, _, PatternStep.takes_blanks.mpr hbefore, ?_, rfl, rfl⟩
    refine Pattern.matches_cons_iff.mpr ⟨expr, _, _, PatternStep.takes_word.mpr hexpr, ?_, rfl, rfl⟩
    refine Pattern.matches_cons_iff.mpr ⟨gap, _, _, PatternStep.takes_gap.mpr hgap, ?_, rfl, rfl⟩
    refine Pattern.matches_cons_iff.mpr
      ⟨[a], _, _, PatternStep.takes_letter.mpr ⟨a, rfl, ha⟩, ?_, rfl, rfl⟩
    refine Pattern.matches_cons_iff.mpr
      ⟨[s], _, _, PatternStep.takes_letter.mpr ⟨s, rfl, hs⟩, ?_, rfl, rfl⟩
    refine Pattern.matches_cons_iff.mpr ⟨gap', _, _, PatternStep.takes_gap.mpr hgap', ?_, rfl, rfl⟩
    refine Pattern.matches_cons_iff.mpr ⟨name, _, _, PatternStep.takes_word.mpr hname, ?_, rfl, rfl⟩
    exact Pattern.matches_cons_iff.mpr ⟨after, [], [], PatternStep.takes_blanks.mpr hafter, .nil,
      (List.append_nil after).symm, rfl⟩

/-! ### The parts of an item -/

/-- An item whose words are an expression, `as` in some spelling and a name. -/
def HasAlias (item expr name : String) : Prop :=
  ∃ marker ∈ aliasMarkers, words item = [expr, marker, name]

theorem words_eq_three_iff {item expr marker name : String} :
    words item = [expr, marker, name] ↔
      IsThreeWords item.toList expr.toList marker.toList name.toList := by
  rw [← wordRuns_eq_three_iff, words_eq]
  constructor
  · intro h
    have hruns := congrArg (List.map String.toList) h
    simpa [Function.comp_def] using hruns
  · intro h
    rw [h]
    simp

theorem HasAlias.unique {item expr name expr' name' : String} (h : HasAlias item expr name)
    (h' : HasAlias item expr' name') : expr = expr' ∧ name = name' := by
  obtain ⟨marker, -, hwords⟩ := h
  obtain ⟨marker', -, hwords'⟩ := h'
  rw [hwords] at hwords'
  simp only [List.cons.injEq] at hwords'
  exact ⟨hwords'.1, hwords'.2.2.1⟩

/-- Every way to match an item captures the two parts of it that have an alias between them. -/
theorem matches_aliasPattern_toList_iff {item : String} {groups : List (List Char)} :
    aliasPattern.Matches item.toList groups ↔
      ∃ expr name, HasAlias item expr name ∧ groups = [expr.toList, name.toList] := by
  rw [matches_aliasPattern_iff]
  constructor
  · rintro ⟨expr, marker, name, hwords, hmarker, rfl⟩
    refine ⟨String.ofList expr, String.ofList name, ⟨String.ofList marker, hmarker, ?_⟩, by simp⟩
    rw [words_eq_three_iff]
    simpa using hwords
  · rintro ⟨expr, name, ⟨marker, hmarker, hwords⟩, rfl⟩
    exact ⟨_, marker.toList, _, words_eq_three_iff.mp hwords, by simpa using hmarker, rfl⟩

theorem captures?_aliasPattern_eq_some_iff {item : String} {groups : List (List Char)} :
    aliasPattern.captures? item.toList = some groups ↔
      ∃ expr name, HasAlias item expr name ∧ groups = [expr.toList, name.toList] := by
  rw [← matches_aliasPattern_toList_iff]
  refine Pattern.captures?_eq_some_iff fun groups groups' h h' => ?_
  obtain ⟨expr, name, halias, rfl⟩ := matches_aliasPattern_toList_iff.mp h
  obtain ⟨expr', name', halias', rfl⟩ := matches_aliasPattern_toList_iff.mp h'
  obtain ⟨rfl, rfl⟩ := halias.unique halias'
  rfl

/-- The parts of an item are those of its only alias. -/
theorem aliasParts?_eq_some_iff {item expr name : String} :
    aliasParts? item = some (expr, name) ↔ HasAlias item expr name := by
  constructor
  · intro h
    unfold aliasParts? at h
    split at h
    · rename_i e n hcaptures
      obtain ⟨expr', name', halias, hgroups⟩ := captures?_aliasPattern_eq_some_iff.mp hcaptures
      obtain ⟨rfl, rfl⟩ : e = expr'.toList ∧ n = name'.toList := by simpa using hgroups
      obtain ⟨rfl, rfl⟩ : expr' = expr ∧ name' = name := by simpa using h
      exact halias
    · cases h
  · intro h
    have hcaptures := captures?_aliasPattern_eq_some_iff.mpr ⟨expr, name, h, rfl⟩
    rw [aliasParts?, hcaptures]
    simp

theorem aliasParts?_eq_none_iff {item : String} :
    aliasParts? item = none ↔ ∀ expr name, ¬ HasAlias item expr name := by
  simp only [← aliasParts?_eq_some_iff, Option.eq_none_iff_forall_ne_some, Prod.forall, ne_eq]

theorem mem_words_of_aliasParts {item expr name : String}
    (h : aliasParts? item = some (expr, name)) : expr ∈ words item ∧ name ∈ words item := by
  obtain ⟨marker, -, hwords⟩ := aliasParts?_eq_some_iff.mp h
  simp [hwords]

/-- A text without blanks has no alias. -/
theorem aliasParts?_of_forall_not {item : String} (h : ∀ c ∈ item.toList, isBlank c = false) :
    aliasParts? item = none := by
  rw [aliasParts?_eq_none_iff]
  rintro expr name ⟨marker, -, hwords⟩
  have hlength := congrArg List.length hwords
  rw [words, fields_of_forall_not h] at hlength
  have hle := List.length_filter_le (! ·.isEmpty) [item.toList]
  simp only [List.length_map, List.length_cons, List.length_nil] at hlength hle
  omega

/-! ### Items in a statement -/

namespace Writer

variable {w : Writer}

theorem neutral_ident (w : Writer) (name : String) :
    Fragment.neutral w [.ident name] = w.identifier name := by
  rw [Fragment.neutral_ident_cons, Fragment.neutral_nil, String.append_empty]

theorem selectItem_of_alias {column expr name : String}
    (h : aliasParts? column = some (expr, name)) :
    w.selectItem column = w.withAlias (w.identifier expr) (w.identifier name) := by
  rw [selectItem, Fragment.selectItem, h]
  dsimp only
  rw [Fragment.neutral_ident_cons, Fragment.neutral_text_cons, neutral_ident, withAlias,
    String.append_assoc]

theorem selectItem_of_no_alias {column : String} (h : aliasParts? column = none) :
    w.selectItem column = w.identifier (Text.trim column) := by
  rw [selectItem, Fragment.selectItem, h]
  exact w.neutral_ident _

end Writer

theorem Fragment.selectItem_eq_iff {style : AliasStyle} {item expr name : String} :
    selectItem style item = [.ident expr, .text style.separator, .ident name] ↔
      HasAlias item expr name := by
  rw [← aliasParts?_eq_some_iff, selectItem]
  split
  · rename_i expr' name' hparts
    rw [hparts]
    simp
  · rename_i hparts
    rw [hparts]
    simp

/-- **An item of a select list is written with an alias exactly if its words are three and the
second one is `as`.**  The pattern has no other match, whichever way it is cut, and captures the
first word and the third.  Then the item is written as these two with the separator of the dialect
between them, so that the blanks around the words and the spelling of `as` leave no trace.  Any
other item is written as one name, without the blanks around it. -/
theorem Writer.selectItem_words (w : Writer) (item : String) :
    (∀ expr name, HasAlias item expr name ↔ ∃ marker ∈ aliasMarkers,
      IsThreeWords item.toList expr.toList marker.toList name.toList) ∧
    (∀ groups, aliasPattern.Matches item.toList groups ↔
      ∃ expr name, HasAlias item expr name ∧ groups = [expr.toList, name.toList]) ∧
    (∀ expr name, Fragment.selectItem w.dialect.aliasStyle item =
        [.ident expr, .text w.dialect.aliasStyle.separator, .ident name] ↔
      HasAlias item expr name) ∧
    (∀ expr name, HasAlias item expr name →
      w.selectItem item =
        w.identifier expr ++ w.dialect.aliasStyle.separator ++ w.identifier name ∧
      ∀ other, HasAlias other expr name → w.selectItem other = w.selectItem item) ∧
    ((¬ ∃ expr name, HasAlias item expr name) →
      w.selectItem item = w.identifier (trim item)) := by
  refine ⟨fun expr name => ?_, fun groups => matches_aliasPattern_toList_iff,
    fun expr name => Fragment.selectItem_eq_iff, fun expr name h => ?_, fun hnone => ?_⟩
  · simp only [HasAlias, words_eq_three_iff]
  · have hitem (other : String) (hother : HasAlias other expr name) :
        w.selectItem other = w.withAlias (w.identifier expr) (w.identifier name) :=
      selectItem_of_alias (aliasParts?_eq_some_iff.mpr hother)
    rw [hitem item h]
    exact ⟨rfl, hitem⟩
  · refine selectItem_of_no_alias (aliasParts?_eq_none_iff.mpr fun expr name h => ?_)
    exact hnone ⟨expr, name, h⟩

/-- The word `as` is also an expression and a name, and a fourth word is one too many. -/
theorem Writer.selectItem_words_as :
    Writer.selectItem ⟨.oracle, true⟩ " as\u3000a\u017F  as" = "\"as\" \"as\"" ∧
    Writer.selectItem ⟨.oracle, true⟩ " a as b c " = "\"a as b c\"" := by
  obtain ⟨-, -, -, halias, -⟩ := Writer.selectItem_words ⟨.oracle, true⟩ " as\u3000a\u017F  as"
  obtain ⟨-, -, -, -, hname⟩ := Writer.selectItem_words ⟨.oracle, true⟩ " a as b c "
  have has : HasAlias " as\u3000a\u017F  as" "as" "as" :=
    ⟨"a\u017F", by decide, by decide +kernel⟩
  have hwords : words " a as b c " = ["a", "as", "b", "c"] := by decide +kernel
  have hnone : ¬ ∃ expr name, HasAlias " a as b c " expr name := by
    simp [HasAlias, hwords]
  rw [(halias "as" "as" has).1, hname hnone]
  decide +kernel

end PolySql

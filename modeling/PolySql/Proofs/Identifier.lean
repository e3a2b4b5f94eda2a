import PolySql.Identifier

/-!
# The characters of names

Words, trimmed texts and quoted names have no characters but those of the text that they come from,
and, where a name is quoted, the quotes and dots of the dialect.  A segment can be read back from
its quoted form, so that names without a dot are written alike only if they are the same, and so are
all names where the quotes are not dots themselves.  A name gets longer by its quotes, unless it
stands for all columns (`Dialect.quote_eq_self_iff`).
-/

namespace PolySql

theorem mem_of_mem_intercalate {α : Type} {separator : List α} {parts : List (List α)} {a : α}
    (h : a ∈ separator.intercalate parts) : a ∈ separator ∨ ∃ part ∈ parts, a ∈ part := by
  induction parts with
  | nil => exact absurd h List.not_mem_nil
  | cons part rest ih =>
    cases rest with
    | nil => exact .inr ⟨part, List.mem_cons_self, by simpa using h⟩
    | cons next rest =>
      rw [List.intercalate_cons_cons, List.mem_append, List.mem_append] at h
      rcases h with (h | h) | h
      · exact .inr ⟨part, List.mem_cons_self, h⟩
      · exact .inl h
      · rcases ih h with h | ⟨p, hp, h⟩
        · exact .inl h
        · exact .inr ⟨p, List.mem_cons_of_mem part hp, h⟩

theorem mem_intercalate_of_mem {α : Type} {parts : List (List α)} {part : List α} {a : α}
    (separator : List α) (hpart : part ∈ parts) (ha : a ∈ part) :
    a ∈ separator.intercalate parts := by
  induction parts with
  | nil => exact absurd hpart List.not_mem_nil
  | cons first rest ih =>
    cases rest with
    | nil =>
      obtain rfl := List.mem_singleton.mp hpart
      simpa using ha
    | cons next rest =>
      rw [List.intercalate_cons_cons]
      rcases List.mem_cons.mp hpart with rfl | hpart
      · exact List.mem_append_left _ (List.mem_append_left _ ha)
      · exact List.mem_append_right _ (ih hpart)

namespace Text

theorem mem_of_mem_fields {separator : Char → Bool} {cs field : List Char} {c : Char}
    (hfield : field ∈ fields separator cs) (hc : c ∈ field) : c ∈ cs := by
  induction cs generalizing field with
  | nil =>
    obtain rfl := List.mem_singleton.mp hfield
    exact hc
  | cons d ds ih =>
    rw [fields] at hfield
    split at hfield
    · rcases List.mem_cons.mp hfield with rfl | hfield
      · exact absurd hc List.not_mem_nil
      · exact List.mem_cons_of_mem d (ih hfield hc)
    -- no separator: the character belongs to the first field of the rest
    · split at hfield
      · obtain rfl := List.mem_singleton.mp hfield
        rcases List.mem_singleton.mp hc with rfl
        exact List.mem_cons_self
      · rename_i head rest heq
        rcases List.mem_cons.mp hfield with rfl | hfield
        · rcases List.mem_cons.mp hc with rfl | hc
          · exact List.mem_cons_self
          · exact List.mem_cons_of_mem d (ih (heq ▸ List.mem_cons_self) hc)
        · exact List.mem_cons_of_mem d (ih (heq ▸ List.mem_cons_of_mem head hfield) hc)

/-- A text without separators is its only field. -/
theorem fields_of_forall_not {separator : Char → Bool} {cs : List Char}
    (h : ∀ c ∈ cs, separator c = false) : fields separator cs = [cs] := by
  induction cs with
  | nil => rfl
  | cons c cs ih =>
    obtain ⟨hc, hcs⟩ := List.forall_mem_cons.mp h
    rw [fields, if_neg (by simp [hc]), ih hcs]

/-- A text without separators that is put after another one becomes part of its last field. -/
theorem exists_fields_append {separator : Char → Bool} {suffix : List Char}
    (h : ∀ c ∈ suffix, separator c = false) (cs : List Char) :
    ∃ front last, fields separator cs = front ++ [last] ∧
      fields separator (cs ++ suffix) = front ++ [last ++ suffix] := by
  induction cs with
  | nil => exact ⟨[], [], rfl, fields_of_forall_not h⟩
  | cons c cs ih =>
    obtain ⟨front, last, hfields, hsuffix⟩ := ih
    rw [List.cons_append, fields, fields, hfields, hsuffix]
    split
    · exact ⟨[] :: front, last, rfl, rfl⟩
    · cases front with
      | nil => exact ⟨[], c :: last, rfl, rfl⟩
      | cons first front => exact ⟨(c :: first) :: front, last, rfl, rfl⟩

/-- Cutting a text into fields is the library's splitting of a list. -/
theorem fields_eq_splitOnP (separator : Char → Bool) (cs : List Char) :
    fields separator cs = cs.splitOnP separator := by
  induction cs with
  | nil => rfl
  | cons c cs ih =>
    rw [fields, List.splitOnP_cons_eq_if_modifyHead, ← ih]
    split
    · rfl
    · cases hfields : fields separator cs with
      | nil => exact absurd hfields (fields_ne_nil separator cs)
      | cons field rest => rfl

/-- A text is its fields with the separator between them. -/
theorem intercalate_fields (separator : Char) (cs : List Char) :
    [separator].intercalate (fields (· == separator) cs) = cs := by
  rw [fields_eq_splitOnP]
  exact List.intercalate_splitOn separator

theorem separator_notMem_of_mem_fields {separator : Char} {cs field : List Char}
    (h : field ∈ fields (· == separator) cs) : separator ∉ field := by
  induction cs generalizing field with
  | nil =>
    obtain rfl := List.mem_singleton.mp h
    exact List.not_mem_nil
  | cons c cs ih =>
    rw [fields] at h
    split at h
    · rcases List.mem_cons.mp h with rfl | h
      · exact List.not_mem_nil
      · exact ih h
    · rename_i hc
      have hne : separator ≠ c := fun heq => hc (by simp [heq])
      split at h
      · obtain rfl := List.mem_singleton.mp h
        simpa using hne
      · rename_i first rest heq
        rcases List.mem_cons.mp h with rfl | h
        · have hfirst : separator ∉ first := ih (heq ▸ List.mem_cons_self)
          simp [hne, hfirst]
        · exact ih (heq ▸ List.mem_cons_of_mem first h)

theorem mem_of_mem_words {s w : String} {c : Char} (hw : w ∈ words s) (hc : c ∈ w.toList) :
    c ∈ s.toList := by
  obtain ⟨field, hfield, rfl⟩ := List.mem_map.mp hw
  rw [String.toList_ofList] at hc
  exact mem_of_mem_fields (List.mem_filter.mp hfield).1 hc

theorem mem_of_mem_trim {s : String} {c : Char} (hc : c ∈ (trim s).toList) : c ∈ s.toList := by
  rw [trim, String.toList_ofList, trimEnd, List.mem_reverse] at hc
  have hstart : c ∈ trimStart s.toList :=
    List.mem_reverse.mp ((List.dropWhile_sublist isBlank).mem hc)
  exact (List.dropWhile_sublist isBlank).mem hstart

end Text

namespace Dialect

theorem mem_quoteSegment {d : Dialect} {segment : List Char} {c : Char}
    (hc : c ∈ d.quoteSegment segment) : c = d.openQuote ∨ c = d.closeQuote ∨ c ∈ segment := by
  unfold quoteSegment at hc
  split at hc
  · exact .inr (.inr hc)
  · rw [List.cons_append, List.mem_cons, List.mem_append, List.mem_singleton] at hc
    rcases hc with hc | hc | hc
    · exact .inl hc
    · obtain ⟨e, he, hc⟩ := List.mem_flatMap.mp hc
      split at hc
      · exact .inr (.inr (by simp_all))
      · obtain rfl := List.mem_singleton.mp hc
        exact .inr (.inr he)
    · exact .inr (.inl hc)

theorem mem_quote {d : Dialect} {name : String} {c : Char} (hc : c ∈ (d.quote name).toList) :
    c = '.' ∨ c = d.openQuote ∨ c = d.closeQuote ∨ c ∈ name.toList := by
  rw [quote, String.toList_ofList] at hc
  rcases mem_of_mem_intercalate hc with hc | ⟨part, hpart, hc⟩
  · exact .inl (List.mem_singleton.mp hc)
  · obtain ⟨segment, hsegment, rfl⟩ := List.mem_map.mp hpart
    rcases mem_quoteSegment hc with hc | hc | hc
    · exact .inr (.inl hc)
    · exact .inr (.inr (.inl hc))
    · exact .inr (.inr (.inr (Text.mem_of_mem_fields hsegment hc)))

/-! ### Reading names back -/

theorem doubled_cons (d : Dialect) (c : Char) (cs : List Char) :
    d.doubled (c :: cs) = (if c = d.closeQuote then [c, c] else [c]) ++ d.doubled cs := rfl

theorem doubled_injective (d : Dialect) : Function.Injective d.doubled := by
  intro segment other h
  induction segment generalizing other with
  | nil =>
    cases other with
    | nil => rfl
    | cons c cs => rw [doubled_cons] at h; split at h <;> cases h
  | cons c cs ih =>
    cases other with
    | nil => rw [doubled_cons] at h; split at h <;> cases h
    | cons e es =>
      -- the first characters agree, and with them what is written for them
      have hce : c = e := by
        rw [doubled_cons, doubled_cons] at h
        have hhead := congrArg List.head? h
        split at hhead <;> split at hhead <;> simpa using hhead
      subst hce
      rw [doubled_cons, doubled_cons, List.append_cancel_left_eq] at h
      rw [ih h]

/-- Different segments are written differently: the segment `*`, which gets no quotes, is shorter
than any text in quotes. -/
theorem quoteSegment_injective (d : Dialect) : Function.Injective d.quoteSegment := by
  intro segment other h
  unfold quoteSegment at h
  split at h
  · rename_i hsegment
    split at h
    · exact h
    · have hlength := congrArg List.length h
      simp [hsegment] at hlength
  · split at h
    · rename_i hother
      have hlength := congrArg List.length h
      simp [hother] at hlength
    · exact d.doubled_injective (by simpa using h)

/-- A name without a dot is its only segment. -/
theorem segments_of_dotFree {name : String} (h : '.' ∉ name.toList) :
    segments name = [name.toList] :=
  Text.fields_of_forall_not fun c hc => by
    simpa using fun hdot : c = '.' => h (hdot ▸ hc)

theorem intercalate_segments (name : String) : ['.'].intercalate (segments name) = name.toList :=
  Text.intercalate_fields '.' name.toList

/-- Different names are written differently, in quotes that are not dots. -/
theorem quote_injective {d : Dialect} (hopen : d.openQuote ≠ '.') (hclose : d.closeQuote ≠ '.') :
    Function.Injective d.quote := by
  -- no quoted segment has a dot, so the segments are what stands between the dots of a quoted name
  have hsegments : ∀ name, (d.quote name).toList.splitOn '.' =
      (segments name).map d.quoteSegment := by
    intro name
    have hne : (segments name).map d.quoteSegment ≠ [] := by
      rw [ne_eq, List.map_eq_nil_iff]
      exact Text.fields_ne_nil _ name.toList
    rw [quote, String.toList_ofList]
    refine List.splitOn_intercalate '.' (fun part hpart hdot => ?_) hne
    obtain ⟨segment, hsegment, rfl⟩ := List.mem_map.mp hpart
    rcases mem_quoteSegment hdot with hdot | hdot | hdot
    · exact hopen hdot.symm
    · exact hclose hdot.symm
    · exact Text.separator_notMem_of_mem_fields hsegment hdot
  intro name other h
  have hquoted : (segments name).map d.quoteSegment = (segments other).map d.quoteSegment := by
    rw [← hsegments, ← hsegments, h]
  have hsame : segments name = segments other :=
    (List.map_inj_right d.quoteSegment_injective).mp hquoted
  rw [← String.toList_inj, ← intercalate_segments, ← intercalate_segments, hsame]

/-! ### Lengths -/

section Length

variable (d : Dialect)

theorem length_le_length_doubled (segment : List Char) :
    segment.length ≤ (d.doubled segment).length := by
  induction segment with
  | nil => exact Nat.zero_le _
  | cons c cs ih =>
    rw [doubled_cons, List.length_append, List.length_cons]
    have hc : 1 ≤ (if c = d.closeQuote then [c, c] else [c]).length := by split <;> simp
    omega

/-- A segment gets longer by its quotes, unless it is the one that stands for all columns. -/
theorem length_add_two_le_length_quoteSegment {segment : List Char} (h : segment ≠ ['*']) :
    segment.length + 2 ≤ (d.quoteSegment segment).length := by
  have hdoubled := d.length_le_length_doubled segment
  rw [quoteSegment, if_neg h, List.length_append, List.length_cons, List.length_singleton]
  omega

theorem length_le_length_quoteSegment (segment : List Char) :
    segment.length ≤ (d.quoteSegment segment).length := by
  by_cases h : segment = ['*']
  · exact Nat.le_of_eq (by rw [quoteSegment, if_pos h])
  · have hlonger := d.length_add_two_le_length_quoteSegment h
    omega

theorem length_intercalate_le (segments : List (List Char)) :
    (['.'].intercalate segments).length ≤
      (['.'].intercalate (segments.map d.quoteSegment)).length := by
  induction segments with
  | nil => exact Nat.le_refl _
  | cons segment rest ih =>
    have hsegment := d.length_le_length_quoteSegment segment
    cases rest with
    | nil => simpa using hsegment
    | cons next rest =>
      rw [List.map_cons, List.map_cons, List.intercalate_cons_cons, List.intercalate_cons_cons]
      rw [List.map_cons] at ih
      simp only [List.length_append]
      omega

theorem length_le_length_quote (name : String) :
    name.toList.length ≤ (d.quote name).toList.length := by
  rw [quote, String.toList_ofList, ← intercalate_segments name]
  exact d.length_intercalate_le (segments name)

/-- Segments that quoting leaves as they are stand for all columns. -/
theorem eq_star_of_intercalate_eq {segments : List (List Char)}
    (h : ['.'].intercalate (segments.map d.quoteSegment) = ['.'].intercalate segments) :
    ∀ segment ∈ segments, segment = ['*'] := by
  induction segments with
  | nil => simp
  | cons segment rest ih =>
    have hstar (hlength : (d.quoteSegment segment).length = segment.length) :
        segment = ['*'] := by
      refine Decidable.byContradiction fun hne => ?_
      have hlonger := d.length_add_two_le_length_quoteSegment hne
      omega
    cases rest with
    | nil =>
      rw [List.map_singleton, List.intercalate_singleton, List.intercalate_singleton] at h
      simpa using hstar (congrArg List.length h)
    | cons next rest =>
      rw [List.map_cons, List.map_cons, List.intercalate_cons_cons, List.intercalate_cons_cons,
        ← List.map_cons, List.append_assoc, List.append_assoc] at h
      -- neither the first segment nor the rest gets shorter, so that both keep their length
      have hsegment := d.length_le_length_quoteSegment segment
      have hrest := d.length_intercalate_le (next :: rest)
      have hlength := congrArg List.length h
      simp only [List.length_append] at hlength
      obtain ⟨hhead, htail⟩ := List.append_inj h (by omega)
      refine List.forall_mem_cons.mpr ⟨hstar (congrArg List.length hhead), ih ?_⟩
      exact List.append_cancel_left htail

/-- Quoting leaves no name as it is but those that stand for all columns. -/
theorem quote_eq_self_iff {name : String} :
    d.quote name = name ↔ ∀ segment ∈ segments name, segment = ['*'] := by
  rw [← String.toList_inj, quote, String.toList_ofList]
  constructor
  · intro h
    exact d.eq_star_of_intercalate_eq (h.trans (intercalate_segments name).symm)
  · intro h
    have hmap : (segments name).map d.quoteSegment = segments name := by
      refine (List.map_congr_left fun segment hsegment => ?_).trans (List.map_id _)
      rw [quoteSegment, if_pos (h segment hsegment), id]
    rw [hmap, intercalate_segments]

/-- A name that is quoted shows the quote. -/
theorem quote_eq_self_of_notMem {name : String} (h : d.openQuote ∉ (d.quote name).toList) :
    d.quote name = name := by
  refine d.quote_eq_self_iff.mpr fun segment hsegment => ?_
  by_cases hstar : segment = ['*']
  · exact hstar
  · have hopen : d.openQuote ∈ d.quoteSegment segment := by
      rw [quoteSegment, if_neg hstar]
      exact List.mem_cons_self
    rw [quote, String.toList_ofList] at h
    exact absurd (mem_intercalate_of_mem _ (List.mem_map_of_mem hsegment) hopen) h

end Length

end Dialect

/-- Names without a dot are written alike only if they are the same name. -/
theorem Writer.identifier_inj_of_dotFree (w : Writer) {name other : String}
    (hname : '.' ∉ name.toList) (hother : '.' ∉ other.toList) :
    w.identifier name = w.identifier other ↔ name = other := by
  refine ⟨fun h => ?_, fun h => h ▸ rfl⟩
  unfold identifier at h
  split at h
  · rw [Dialect.quote, Dialect.quote, Dialect.segments_of_dotFree hname,
      Dialect.segments_of_dotFree hother, String.ofList_inj] at h
    exact String.toList_inj.mp (w.dialect.quoteSegment_injective (by simpa using h))
  · exact h

end PolySql

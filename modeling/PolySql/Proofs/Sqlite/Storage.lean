import PolySql.Proofs.Timestamp.RoundTrip
import PolySql.Sqlite.Stored

/-!
# Values that come back from storage

SQLite has no class of its own for booleans, timestamps and JSON, so these come back as values of
another kind.  The accessors make up for it: the one for the kind of a value before it was stored
gives its payload of what comes back (`Sqlite.Stored.survives_storage`).  Only a not-a-number is
lost, and a timestamp in a leap second that is not at the end of a minute comes back as one of the
next second.
-/

namespace PolySql

/-- The second value gives the payload of the first one to the accessor for its kind, and is null
only if the first one is. -/
structure Value.Survives (v w : Value) : Prop where
  isNull : w.isNull = true ↔ v = .null
  int : ∀ n, v = .int n → w.asInt? = some n
  float : ∀ x, v = .float x → w.asFloat? = some x
  text : ∀ s, v = .text s → w.asText? = some s
  bool : ∀ b, v = .bool b → w.asBool? = some b
  timestamp : ∀ t, v = .timestamp t → w.asTimestamp? = some t
  blob : ∀ bytes, v = .blob bytes → w.asBlob? = some bytes

namespace Value

theorem isNull_iff {v : Value} : v.isNull = true ↔ v = .null := by
  cases v <;> simp [isNull]

theorem Survives.refl (v : Value) : v.Survives v where
  isNull := isNull_iff
  int _ h := h ▸ rfl
  float _ h := h ▸ rfl
  text _ h := h ▸ rfl
  bool _ h := h ▸ rfl
  timestamp _ h := h ▸ rfl
  blob _ h := h ▸ rfl

/-- The integers 1 and 0 stand for the booleans. -/
theorem survives_bool (b : Bool) : (Value.bool b).Survives (.int (if b then 1 else 0)) where
  isNull := by simp [isNull]
  int := nofun
  float := nofun
  text := nofun
  bool := by
    rintro b ⟨⟩
    cases b <;> rfl
  timestamp _ h := Value.noConfusion h
  blob := nofun

/-- The text of a regular timestamp stands for it. -/
theorem survives_timestamp {t : Timestamp} (h : t.IsRegular) :
    (Value.timestamp t).Survives (.text t.text) where
  isNull := by simp [isNull]
  int := nofun
  float := nofun
  text := nofun
  bool := nofun
  timestamp := by
    rintro t ⟨⟩
    rw [asTimestamp?, Timestamp.ofText?_text, Timestamp.regular_eq_self_iff.mpr h]
  blob := nofun

/-- No accessor takes JSON, so there is nothing to keep but that it is not null. -/
theorem survives_json (j : Json) (s : String) : (Value.json j).Survives (.text s) where
  isNull := by simp [isNull]
  int := nofun
  float := nofun
  text := nofun
  bool := nofun
  timestamp _ h := Value.noConfusion h
  blob := nofun

end Value

namespace Sqlite.Stored

/-- Whatever is not a timestamp survives, unless it is a not-a-number. -/
theorem survives_of_ne_timestamp {v : Value} (h : ∀ x, v = .float x → x.isNaN = false)
    (hne : ∀ t, v ≠ .timestamp t) : v.Survives (ofValue v).toValue := by
  cases v with
  | null | int _ | text _ | blob _ => exact .refl _
  | float x =>
    rw [ofValue, h x rfl]
    exact .refl _
  | bool b => exact Value.survives_bool b
  | timestamp t => exact absurd rfl (hne t)
  | json j => exact Value.survives_json j _

theorem survives_timestamp_iff {t : Timestamp} :
    (Value.timestamp t).Survives (ofValue (.timestamp t)).toValue ↔ t.IsRegular := by
  refine ⟨fun h => ?_, Value.survives_timestamp⟩
  have hread : some t.regular = some t := (Timestamp.ofText?_text t).symm.trans (h.timestamp t rfl)
  exact Timestamp.regular_eq_self_iff.mp (Option.some.inj hread)

/-- **Values survive storage, but for leap seconds in the middle of a minute.**  The accessor for the
kind of a value that is not a not-a-number gives its payload of what SQLite hands back: a boolean of
an integer, and a timestamp of a text, whatever its year and its fraction, exactly if it is regular.
What comes back of any timestamp is the regular one that is written alike. -/
theorem survives_storage (v : Value) (h : ∀ x, v = .float x → x.isNaN = false) :
    (v.Survives (ofValue v).toValue ↔ ∀ t, v = .timestamp t → t.IsRegular) ∧
      ∀ t, v = .timestamp t → (ofValue v).toValue.asTimestamp? = some t.regular := by
  by_cases htimestamp : ∃ t, v = .timestamp t
  · obtain ⟨t, rfl⟩ := htimestamp
    refine ⟨?_, fun u hu => ?_⟩
    · simp only [survives_timestamp_iff, Value.timestamp.injEq, forall_eq']
    · rw [← Value.timestamp.inj hu]
      exact Timestamp.ofText?_text t
  · have hne : ∀ t, v ≠ .timestamp t := not_exists.mp htimestamp
    exact ⟨iff_of_true (survives_of_ne_timestamp h hne) fun t ht => absurd ht (hne t),
      fun t ht => absurd ht (hne t)⟩

/-- A moment in a leap second before year 0 is written as second 60 and read back. -/
theorem survives_storage_leapSecond :
    let t : Timestamp :=
      { year := -1, month := 12, day := 31, hour := 23, minute := 59, second := 59,
        nanosecond := 1_500_000_000 }
    ofValue (.timestamp t) = .text "-0001-12-31 23:59:60.500" ∧
      (Value.timestamp t).Survives (.text "-0001-12-31 23:59:60.500") := by
  intro t
  have htext : ofValue (.timestamp t) = .text "-0001-12-31 23:59:60.500" := by decide +kernel
  obtain ⟨hsurvives, -⟩ := survives_storage (.timestamp t) (by nofun)
  rw [htext] at hsurvives
  refine ⟨htext, hsurvives.mpr fun u hu => ?_⟩
  rw [← Value.timestamp.inj hu]
  exact .inr rfl

/-- In a leap second behind second 30 of a minute, a timestamp comes back as one of second 31. -/
theorem not_survives_storage :
    let t : Timestamp :=
      { year := 2024, month := 1, day := 1, hour := 0, minute := 0, second := 30,
        nanosecond := 1_500_000_000 }
    let next : Timestamp :=
      { year := 2024, month := 1, day := 1, hour := 0, minute := 0, second := 31,
        nanosecond := 500_000_000 }
    ofValue (.timestamp t) = .text "2024-01-01 00:00:31.500" ∧
      (Value.text "2024-01-01 00:00:31.500").asTimestamp? = some next ∧ next ≠ t ∧
      ¬ (Value.timestamp t).Survives (ofValue (.timestamp t)).toValue :=
  ⟨by decide +kernel, by decide +kernel, by decide,
    fun h => absurd (survives_timestamp_iff.mp h) (by decide)⟩

end Sqlite.Stored

end PolySql

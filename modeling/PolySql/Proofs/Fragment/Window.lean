import PolySql.Proofs.Fragment.Inversion

/-!
# Windows as text around a select

A select that is cut to a window stands between `windowOpening` and `windowClosing`, and there is
one if and only if its bounds fit into signed integers (`windowed_eq_ok_iff`).  So the bounds are
exact, and they are the last values that the select binds (`windowValues`).
-/

namespace PolySql

/-! ### The parts of a window -/

/-- A bound of a window as a value. -/
def boundValue (n : Nat) : Value :=
  .int (Int64.ofNat n)

/-- The number of rows up to the end of a window by row numbers. -/
def windowEnd (limit : Option UInt64) (skipped : Nat) : Nat :=
  skipped + (limit.map UInt64.toNat).getD rowNumberCap

/-- Whether the bounds of a window fit into signed integers. -/
def WindowFits : LimitStrategy → Option UInt64 → Option UInt64 → Prop
  | .rowNum, limit, none => ∀ n ∈ limit, n.toNat < 0x8000_0000_0000_0000
  | .rowNum, limit, some m => windowEnd limit m.toNat < 0x8000_0000_0000_0000
  | _, limit, offset =>
    (∀ n ∈ limit, n.toNat < 0x8000_0000_0000_0000) ∧
      ∀ m ∈ offset, m.toNat < 0x8000_0000_0000_0000

/-- The bounds of a window, in the order in which they are bound. -/
def windowValues : LimitStrategy → Option UInt64 → Option UInt64 → List Value
  | _, none, none => []
  | .limitOffset _, some n, offset =>
    boundValue n.toNat :: (offset.map fun m => boundValue m.toNat).toList
  | .limitOffset requiresLimit, none, some m =>
    (if requiresLimit then [.int (-1)] else []) ++ [boundValue m.toNat]
  | .offsetFetch, limit, offset =>
    boundValue (offset.map UInt64.toNat |>.getD 0) ::
      (limit.map fun n => boundValue n.toNat).toList
  | .rowNum, limit, none => [boundValue (windowEnd limit 0)]
  | .rowNum, limit, some m => [boundValue (windowEnd limit m.toNat), boundValue m.toNat]

namespace Fragment

/-- What stands before a select that is cut to a window. -/
def windowOpening (strategy : LimitStrategy) (limit offset : Option UInt64) : Fragment :=
  match strategy with
  | .limitOffset _ => []
  | .offsetFetch => []
  | .rowNum =>
    match offset with
    | some _ => [.text "select * from (", .text "select row_.*, ROWNUM rownum_ from ("]
    | none => if limit.isSome then [.text "select * from ("] else []

/-- What stands after a select that is cut to a window. -/
def windowClosing : LimitStrategy → Bool → Option UInt64 → Option UInt64 → Fragment
  | _, _, none, none => []
  | .limitOffset _, _, some n, none => [.text " limit ", .value (boundValue n.toNat)]
  | .limitOffset _, _, some n, some m =>
    [.text " limit ", .value (boundValue n.toNat),
      .text " offset ", .value (boundValue m.toNat)]
  | .limitOffset true, _, none, some m =>
    [.text " limit ", .value (.int (-1)), .text " offset ", .value (boundValue m.toNat)]
  | .limitOffset false, _, none, some m => [.text " offset ", .value (boundValue m.toNat)]
  | .offsetFetch, ordered, limit, offset =>
    (if ordered then [] else [.text " order by (select 0)"]) ++
      [.text " offset ", .value (boundValue (offset.map UInt64.toNat |>.getD 0)), .text " rows"] ++
      (match limit with
        | some n =>
          [.text " fetch next ", .value (boundValue n.toNat), .text " rows only"]
        | none => [])
  | .rowNum, _, limit, none =>
    [.text ") where rownum <= ", .value (boundValue (windowEnd limit 0))]
  | .rowNum, _, limit, some m =>
    [.text ") row_ where rownum <= ", .value (boundValue (windowEnd limit m.toNat)),
      .text ") where rownum_ > ", .value (boundValue m.toNat)]

/-! ### What a window is -/

theorem pure_eq_ok {f g : Fragment} : (pure f : Except CompileError Fragment) = .ok g ↔ g = f := by
  change Except.ok f = .ok g ↔ g = f
  rw [Except.ok.injEq, eq_comm]

theorem windowPiece_eq_ok {bound : WindowBound} {n : Nat} {p : Piece} :
    windowPiece bound n = .ok p ↔ n < 0x8000_0000_0000_0000 ∧ p = .value (boundValue n) := by
  unfold windowPiece
  split
  · rename_i h
    simp [h, boundValue, eq_comm]
  · rename_i h
    simp [h]

theorem map_windowPiece_eq_ok {bound : WindowBound} {n : Nat} {make : Piece → Fragment}
    {g : Fragment} :
    make <$> windowPiece bound n = .ok g ↔
      n < 0x8000_0000_0000_0000 ∧ g = make (.value (boundValue n)) := by
  rw [map_eq_pure_bind, bind_pure_eq_ok]
  simp [windowPiece_eq_ok, and_assoc]

section Parts

variable {requiresLimit ordered : Bool} {f g : Fragment} {limit offset : Option UInt64}

theorem limitOffset_eq_ok :
    limitOffset requiresLimit f limit offset = .ok g ↔
      WindowFits (.limitOffset requiresLimit) limit offset ∧
        g = f ++ windowClosing (.limitOffset requiresLimit) ordered limit offset := by
  -- the bounds that are there are bound one after the other
  cases limit <;> cases offset <;> cases requiresLimit <;>
    simp [limitOffset, bind_eq_ok, windowPiece_eq_ok, map_windowPiece_eq_ok, pure_eq_ok,
      windowClosing, WindowFits, and_assoc]

theorem offsetFetch_eq_ok (hbounds : ¬ (limit = none ∧ offset = none)) :
    offsetFetch ordered f limit offset = .ok g ↔
      WindowFits .offsetFetch limit offset ∧
        g = f ++ windowClosing .offsetFetch ordered limit offset := by
  -- the offset is always written, 0 where there is none
  cases limit <;> cases offset <;> cases ordered <;>
    simp_all [offsetFetch, bind_eq_ok, windowPiece_eq_ok, map_windowPiece_eq_ok,
      windowClosing, WindowFits, and_assoc, and_comm]

theorem rowNum_eq_ok (hbounds : ¬ (limit = none ∧ offset = none)) :
    rowNum f limit offset = .ok g ↔
      WindowFits .rowNum limit offset ∧
        g = windowOpening .rowNum limit offset ++ f ++
          windowClosing .rowNum ordered limit offset := by
  cases offset with
  | none =>
    cases limit with
    | none => exact absurd ⟨rfl, rfl⟩ hbounds
    | some n =>
      simp [rowNum, map_windowPiece_eq_ok, windowClosing, windowOpening, windowEnd, wrapped,
        WindowFits]
  | some m =>
    have hsize : UInt64.size = 18446744073709551616 := rfl
    unfold rowNum
    dsimp only
    split
    · -- an end that is too large for 64 bits does not fit
      simp only [throw, throwThe, MonadExceptOf.throw, bind, Except.bind, reduceCtorEq, WindowFits,
        windowEnd, false_iff, not_and]
      omega
    · simp only [bind_eq_ok, pure_eq_ok, windowPiece_eq_ok]
      constructor
      · rintro ⟨_, ⟨hend, rfl⟩, _, ⟨-, rfl⟩, rfl⟩
        exact ⟨hend, by simp [windowClosing, windowOpening, windowEnd, wrapped]⟩
      · rintro ⟨hend, rfl⟩
        have hstart : m.toNat < 0x8000_0000_0000_0000 := by
          simp only [WindowFits, windowEnd] at hend
          omega
        exact ⟨_, ⟨hend, rfl⟩, _, ⟨hstart, rfl⟩, by
          simp [windowClosing, windowOpening, windowEnd, wrapped]⟩

/-- **A window is text around the select.**  There is one if its bounds fit. -/
theorem windowed_eq_ok_iff {strategy : LimitStrategy} :
    windowed strategy ordered f limit offset = .ok g ↔
      WindowFits strategy limit offset ∧
        g = windowOpening strategy limit offset ++ f ++
          windowClosing strategy ordered limit offset := by
  unfold windowed
  split
  · rename_i hnone
    simp only [Bool.and_eq_true, Option.isNone_iff_eq_none] at hnone
    obtain ⟨rfl, rfl⟩ := hnone
    cases strategy <;> simp [windowOpening, windowClosing, WindowFits, eq_comm]
  · rename_i hsome
    have hbounds : ¬ (limit = none ∧ offset = none) := by
      rintro ⟨rfl, rfl⟩
      exact hsome rfl
    cases strategy with
    | limitOffset requiresLimit => exact limitOffset_eq_ok
    | offsetFetch => exact offsetFetch_eq_ok hbounds
    | rowNum => exact rowNum_eq_ok hbounds

theorem windowed_eq_ok {strategy : LimitStrategy}
    (h : windowed strategy ordered f limit offset = .ok g) :
    g = windowOpening strategy limit offset ++ f ++ windowClosing strategy ordered limit offset :=
  (windowed_eq_ok_iff.mp h).2

end Parts

/-- The bounds are all that a window binds. -/
theorem bindings_window (strategy : LimitStrategy) (ordered : Bool) (limit offset : Option UInt64) :
    bindings (windowOpening strategy limit offset) = [] ∧
      bindings (windowClosing strategy ordered limit offset) =
        (windowValues strategy limit offset).map .value := by
  cases strategy with
  | limitOffset requiresLimit =>
    cases requiresLimit <;> cases limit <;> cases offset <;> exact ⟨rfl, rfl⟩
  | offsetFetch => cases ordered <;> cases limit <;> cases offset <;> exact ⟨rfl, rfl⟩
  | rowNum => cases limit <;> cases offset <;> exact ⟨rfl, rfl⟩

end Fragment

end PolySql

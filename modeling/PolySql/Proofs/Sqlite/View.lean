import Mathlib.Data.Set.Lattice
import PolySql.Sqlite.Library

/-!
# What can be found on connections

A `View` says which rows can be found where, and `View.Lawful` what SQLite promises of them: a
connection is opened outside of all transactions; what a transaction writes is found by its
connection alone until the transaction ends; and opening or closing a connection writes nothing, so
that closing discards an open transaction.
-/

namespace PolySql.Sqlite

variable {lib : Library}

/-- Where rows can be found. -/
structure View (lib : Library) where
  Row : Type
  /-- The rows that the file keeps. -/
  holds : lib.File → Set Row
  /-- The rows that a connection keeps for itself, in temporary tables or in memory. -/
  keeps : lib.Handle → Set Row
  /-- The rows that a connection finds. -/
  sees : lib.File → lib.Handle → Set Row
  /-- The rows that a job may write. -/
  writes : Job → Set Row
  /-- The rows in a response. -/
  shows : Response → Set Row

namespace View

variable (view : View lib)

/-- Something happened to the file by which no connection finds anything new. -/
structure Quiet (file file' : lib.File) : Prop where
  holds : view.holds file' ⊆ view.holds file
  sees : ∀ handle, view.sees file' handle ⊆ view.sees file handle ∪ view.holds file

/-- What SQLite promises. -/
structure Lawful : Prop where
  /-- A connection is opened outside of all transactions, and keeps nothing. -/
  connect : ∀ file handle file', lib.connect file = (.ok handle, file') →
    lib.isAutocommit handle ∧ view.keeps handle = ∅
  connect_quiet : ∀ file, view.Quiet file (lib.connect file).2
  /-- Closing a connection discards its transaction. -/
  close_quiet : ∀ handle file, view.Quiet file (lib.close handle file)
  /-- Outside of transactions a connection finds what is kept, and nothing else. -/
  outside : ∀ file handle, lib.isAutocommit handle →
    view.sees file handle ⊆ view.holds file ∪ view.keeps handle
  /-- Nothing comes to be kept by a job that leaves its connection inside a transaction. -/
  inside : ∀ job handle file, ¬ lib.isAutocommit (lib.perform job handle file).handle →
    view.holds (lib.perform job handle file).file ∪
        view.keeps (lib.perform job handle file).handle ⊆
      view.holds file ∪ view.keeps handle
  /-- What comes to be kept was found by the connection, or is written by the job. -/
  commits : ∀ job handle file,
    view.holds (lib.perform job handle file).file ∪
        view.keeps (lib.perform job handle file).handle ⊆
      view.holds file ∪ view.keeps handle ∪ (view.sees file handle ∪ view.writes job)
  /-- A connection finds what it found before, what is kept, and what the job writes. -/
  finds : ∀ job handle file,
    view.sees (lib.perform job handle file).file (lib.perform job handle file).handle ⊆
      view.sees file handle ∪ view.holds (lib.perform job handle file).file ∪
        view.keeps (lib.perform job handle file).handle ∪ view.writes job
  /-- Other connections find what they found before, and what the file keeps. -/
  others : ∀ job handle file other,
    view.sees (lib.perform job handle file).file other ⊆
      view.sees file other ∪ view.holds (lib.perform job handle file).file
  /-- A response has rows that the connection finds, or that the job writes. -/
  shows : ∀ job handle file response,
    (lib.perform job handle file).outcome = .finished (.ok (some response)) →
      view.shows response ⊆
        view.sees file handle ∪ view.holds file ∪ view.keeps handle ∪ view.writes job

variable {view}

theorem Quiet.refl (file : lib.File) : view.Quiet file file :=
  ⟨subset_rfl, fun _ => Set.subset_union_left⟩

theorem Quiet.trans {file file' file'' : lib.File} (h : view.Quiet file file')
    (h' : view.Quiet file' file'') : view.Quiet file file'' where
  holds := h'.holds.trans h.holds
  sees handle := (h'.sees handle).trans <|
    Set.union_subset (h.sees handle) (h.holds.trans Set.subset_union_right)

end View

end PolySql.Sqlite

import Mathlib.Data.List.Induction
import PolySql.Proofs.Sqlite.Away
import PolySql.Proofs.Sqlite.Databases
import PolySql.Proofs.Sqlite.Ledger

/-!
# Transactions do not outlive their callers

A row is uncommitted if it was written under one ticket alone, in a transaction that was not ended
since (`View.Uncommitted`).  It is not shown to other tickets then.  A connection that leaves its
caller inside a transaction is never handed out again, nor is its ticket used again, so that its
uncommitted rows are never shown to anyone (`Pool.run_isolates`).
-/

namespace PolySql.Sqlite

variable {lib : Library} {checkout : Shelf lib → Except String (Member lib) × Shelf lib}
  {view : View lib}

/-- All jobs that may have written a row were done under the given ticket, and its connection was
inside a transaction ever since. -/
def View.Uncommitted (view : View lib) (notes : List (Note lib)) (ticket : Nat) (r : view.Row) :
    Prop :=
  ∀ first t job outcome m later, notes = first ++ .ran t job outcome m :: later →
    r ∈ view.writes job →
      t = ticket ∧ ∀ job' outcome' m', .ran t job' outcome' m' ∈ .ran t job outcome m :: later →
        ¬ lib.isAutocommit m'.handle

section Uncommitted

variable {notes later : List (Note lib)} {ticket : Nat} {r : view.Row}

theorem View.Uncommitted.of_append (h : view.Uncommitted (notes ++ later) ticket r) :
    view.Uncommitted notes ticket r := by
  rintro first t job outcome m rest rfl hr
  have hsplit : first ++ .ran t job outcome m :: rest ++ later =
      first ++ .ran t job outcome m :: (rest ++ later) := by simp
  obtain ⟨ht, hsince⟩ := h first t job outcome m (rest ++ later) hsplit hr
  refine ⟨ht, fun job' outcome' m' hmem => hsince job' outcome' m' ?_⟩
  rw [← List.cons_append]
  exact List.mem_append_left _ hmem

namespace Ledger

theorem ofNotes_append_singleton (note : Note lib) :
    ofNotes view (notes ++ [note]) = (ofNotes view notes).post view note := by
  rw [ofNotes, List.foldl_append]
  rfl

/-- What is pending under a ticket was written under it. -/
theorem exists_ran_of_mem_pending {t : Nat} (h : r ∈ (ofNotes view notes).pending t) :
    ∃ first job outcome m later, notes = first ++ .ran t job outcome m :: later ∧
      r ∈ view.writes job := by
  induction notes using List.reverseRecOn with
  | nil => exact absurd h (Set.notMem_empty r)
  | append_singleton notes note ih =>
    rw [ofNotes_append_singleton] at h
    rcases pending_post h with hpending | ⟨job, outcome, m, rfl, hr⟩
    · obtain ⟨first, job, outcome, m, later, rfl, hr⟩ := ih hpending
      exact ⟨first, job, outcome, m, later ++ [note], by simp, hr⟩
    · exact ⟨notes, job, outcome, m, [], rfl, hr⟩

/-- The rows of an open transaction are not settled. -/
theorem notMem_settled (hstart : r ∉ view.holds lib.file)
    (h : view.Uncommitted notes ticket r) : r ∉ (ofNotes view notes).settled := by
  induction notes using List.reverseRecOn with
  | nil => exact hstart
  | append_singleton notes note ih =>
    rw [ofNotes_append_singleton]
    intro hr
    rcases settled_post hr with hsettled | ⟨t, job, outcome, m, rfl, houtside, hpending | hwritten⟩
    · exact ih h.of_append hsettled
    · -- it was written under this ticket before, and the transaction has ended now
      obtain ⟨first, job', outcome', m', later, rfl, hwritten⟩ :=
        exists_ran_of_mem_pending hpending
      have hsince := (h first t job' outcome' m' (later ++ [.ran t job outcome m])
        (by simp) hwritten).2
      exact hsince job outcome m (by simp) houtside
    · have hsince := (h notes t job outcome m [] rfl hwritten).2
      exact hsince job outcome m (by simp) houtside

end Ledger

end Uncommitted

namespace Pool

/-- What is handed out is outside of all transactions. -/
theorem Course.isAutocommit (hview : view.Lawful) {p p' : Pool lib}
    {notes : List (Note lib)} (h : Course p notes p') {ticket : Nat} {m : Member lib}
    (hmem : .acquired ticket m ∈ notes) : lib.isAutocommit m.handle := by
  induction h with
  | nil => cases hmem
  | @cons p _ _ _ _ hturn _ ih =>
    rcases List.mem_cons.mp hmem with rfl | hmem
    · cases hturn with
      | acquired hgiven => exact hgiven.isAutocommit hview
      | emptied _ hnote => rcases hnote with hnote | hnote <;> cases hnote
    · exact ih hmem

/-- The rows of an open transaction are not shown to other tickets. -/
theorem Course.notMem_shows (hview : view.Lawful) {maxSize : Nat}
    {notes : List (Note lib)} {p' : Pool lib} (h : Course { maxSize } notes p')
    {ticket : Nat} {r : view.Row} (hstart : r ∉ view.holds lib.file)
    (hr : view.Uncommitted notes ticket r) {t : Nat} {job : Job} {response : Response}
    {m : Member lib} (hmem : .ran t job (.finished (.ok (some response))) m ∈ notes)
    (ht : t ≠ ticket) : r ∉ view.shows response := by
  obtain ⟨first, later, rfl⟩ := List.append_of_mem hmem
  intro hshown
  rcases h.shown hview hshown with (hsettled | hpending) | hwritten
  · exact Ledger.notMem_settled hstart hr.of_append hsettled
  · obtain ⟨before, job', outcome', m', after, rfl, hwrites⟩ :=
      Ledger.exists_ran_of_mem_pending hpending
    exact ht (hr.of_append before t job' outcome' m' after rfl hwrites).1
  · exact ht (hr first t job _ m later rfl hwritten).1

/-- **Transactions stay with their callers.**  Every connection that is handed out is outside of all
transactions.  A connection that leaves the hands of its caller inside a transaction is never handed
out again, and the rows that were written in that transaction are never shown to anyone. -/
theorem run_isolates (hcheckout : Recycles checkout) (hview : view.Lawful) (maxSize : Nat)
    (moves : List Move) :
    let notes := (run checkout ({ maxSize } : Pool lib) moves).1
    (∀ ticket m, .acquired ticket m ∈ notes → lib.isAutocommit m.handle) ∧
      ∀ first note later ticket m, notes = first ++ note :: later →
        note.leaves? = some (ticket, m) → ¬ lib.isAutocommit m.handle →
          (∀ t m', .acquired t m' ∈ later → m'.serial ≠ m.serial) ∧
            ∀ r ∉ view.holds lib.file, view.Uncommitted notes ticket r →
              ∀ t job response m', .ran t job (.finished (.ok (some response))) m' ∈ later →
                r ∉ view.shows response := by
  intro notes
  have hsound : Sound ({ maxSize } : Pool lib) := sound_new maxSize
  have hcourse : Course ({ maxSize } : Pool lib) notes
      (run checkout ({ maxSize } : Pool lib) moves).2 := course_run hcheckout hsound moves
  refine ⟨fun ticket m hmem => hcourse.isAutocommit hview hmem, ?_⟩
  intro first note later ticket m hnotes hleaves hopen
  have hsplit := hcourse
  rw [hnotes] at hsplit
  obtain ⟨p, hfirst, hrest⟩ := hsplit.of_append
  cases hrest with
  | @cons _ p' _ _ _ hturn hlater =>
    have haway : Away ticket m.serial p' :=
      hturn.away_of_leaves (hfirst.sound hsound) hleaves hopen
    obtain ⟨hacquired, hran⟩ := hlater.away haway
    refine ⟨hacquired, fun r hstart hr t job response m' hmem => ?_⟩
    have ht : t ≠ ticket := hran t job _ m' hmem
    have hnote : .ran t job (.finished (.ok (some response))) m' ∈ notes := by
      rw [hnotes]
      exact List.mem_append_right _ (List.mem_cons_of_mem _ hmem)
    exact hcourse.notMem_shows hview hstart hr hnote ht

/-- Inserts a row in a transaction, hands the connection back with the transaction open, and looks
at the table on the next connection. -/
def leftOpen : List Move :=
  [.acquire, .call 0 .begin, .call 0 (.execute (insertText 1) [.input (.int 2)]), .release 0,
    .acquire, .call 1 (.execute selectText [])]

/-- A connection that has written a two after the one that was there. -/
def wroteTwo : SharedHandle :=
  { stage := .writing (some [.integer 1, .integer 2]), changes := 1 }

/-- What comes of it on a file with a single one in its table. -/
def leftOpenNotes : List (Note (.shared (some [.integer 1]))) :=
  [.acquired 0 { serial := 0, handle := ({} : SharedHandle) },
    .ran 0 (.batch "BEGIN") (.finished (.ok none))
      { serial := 0, handle := ({ stage := .reading } : SharedHandle) },
    .ran 0 (.statement (insertText 1) [.integer 2]) (.finished (.ok (some (.ofCount 1))))
      { serial := 0, handle := wroteTwo },
    .released 0 (some { serial := 0, handle := wroteTwo }),
    .acquired 1 { serial := 1, handle := ({} : SharedHandle) },
    .ran 1 (.statement selectText [])
      (.finished (.ok (some (.ofRows (.ofRows ["v"] [[.int 1]])))))
      { serial := 1, handle := ({} : SharedHandle) }]

theorem run_leftOpen : (run Shelf.firstCome { maxSize := 2 } leftOpen).1 = leftOpenNotes :=
  rfl

/-- The two was written under the first ticket, whose transaction was never ended. -/
theorem uncommitted_leftOpenNotes :
    (View.shared (some [.integer 1])).Uncommitted leftOpenNotes 0 (.int 2) := by
  intro first t job outcome m later hnotes hwrites
  have hsince : ∀ note ∈ .ran t job outcome m :: later, note ∈ leftOpenNotes := by
    intro note hnote
    rw [hnotes]
    exact List.mem_append_right _ hnote
  have hopen : ∀ job' outcome' m', .ran 0 job' outcome' m' ∈ leftOpenNotes →
      ¬ (Library.shared (some [.integer 1])).isAutocommit m'.handle := by
    intro job' outcome' m' hmem
    simp only [leftOpenNotes, List.mem_cons, reduceCtorEq, Note.ran.injEq, true_and,
      Nat.zero_ne_one, false_and, List.not_mem_nil, or_false, false_or] at hmem
    rcases hmem with ⟨-, -, rfl⟩ | ⟨-, -, rfl⟩
    · decide
    · decide
  have ht : t = 0 := by
    have hmem := hsince _ (List.mem_cons_self ..)
    simp only [leftOpenNotes, List.mem_cons, reduceCtorEq, Note.ran.injEq, List.not_mem_nil,
      or_false, false_or] at hmem
    rcases hmem with ⟨ht, -⟩ | ⟨ht, -⟩ | ⟨-, rfl, -⟩
    · exact ht
    · exact ht
    · obtain ⟨sent, hsent, -⟩ := hwrites
      exact absurd hsent List.not_mem_nil
  subst ht
  exact ⟨rfl, fun job' outcome' m' hmem => hopen job' outcome' m' (hsince _ hmem)⟩

theorem run_isolates_leftOpen :
    Recycles (Shelf.firstCome : Shelf (.shared (some [.integer 1])) → _ × Shelf _) ∧
      (View.shared (some [.integer 1])).Lawful ∧
      ∃ first m later, (run Shelf.firstCome { maxSize := 2 } leftOpen).1 =
          first ++ .released 0 (some m) :: later ∧
        ¬ (Library.shared (some [.integer 1])).isAutocommit m.handle ∧
        (∀ t m', .acquired t m' ∈ later → m'.serial ≠ m.serial) ∧
        ∃ job response m', .ran 1 job (.finished (.ok (some response))) m' ∈ later ∧
          .int 2 ∉ shownValues response := by
  have hview : (View.shared (some [.integer 1])).Lawful := View.lawful_shared _
  have hopen : ¬ (Library.shared (some [.integer 1])).isAutocommit wroteTwo := by decide
  have hstart : (.int 2 : Value) ∉ tableValues (some [.integer 1]) := by
    rintro ⟨row, hrow, heq⟩
    obtain rfl := List.mem_singleton.mp hrow
    exact absurd (Value.int.inj heq) (by decide)
  have hnotes : (run Shelf.firstCome { maxSize := 2 } leftOpen).1 =
      leftOpenNotes.take 3 ++
        .released 0 (some { serial := 0, handle := wroteTwo }) :: leftOpenNotes.drop 4 :=
    run_leftOpen
  have hselect : .ran 1 (.statement selectText [])
      (.finished (.ok (some (.ofRows (.ofRows ["v"] [[.int 1]])))))
      { serial := 1, handle := ({} : SharedHandle) } ∈ leftOpenNotes.drop 4 :=
    List.mem_cons_of_mem _ (List.mem_cons_self ..)
  have huncommitted : (View.shared (some [.integer 1])).Uncommitted
      (run Shelf.firstCome { maxSize := 2 } leftOpen).1 0 (.int 2) := by
    rw [run_leftOpen]
    exact uncommitted_leftOpenNotes
  obtain ⟨-, hisolates⟩ := run_isolates recycles_firstCome hview 2 leftOpen
  obtain ⟨haway, hunseen⟩ := hisolates _ _ _ 0 _ hnotes rfl hopen
  exact ⟨recycles_firstCome, hview, _, _, _, hnotes, hopen, haway, _, _, _, hselect,
    hunseen _ hstart huncommitted _ _ _ _ hselect⟩

end Pool

end PolySql.Sqlite

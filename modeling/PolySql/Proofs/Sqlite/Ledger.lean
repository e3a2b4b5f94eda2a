import PolySql.Proofs.Sqlite.Moves
import PolySql.Proofs.Sqlite.View

/-!
# Accounts of the rows that are written

A `Ledger` keeps account of a run: rows are pending under the ticket that wrote them until its
connection is outside of all transactions again, and settled from then on.  All rows that can be
found are settled, or pending under the ticket of the connection that finds them
(`Pool.Covered`), before and after every turn (`Pool.Turn.covered`).
-/

namespace PolySql.Sqlite

variable {lib : Library} {view : View lib}

/-- Handing out changes nothing of what can be found. -/
theorem Shelf.Checkout.quiet (hview : view.Lawful) {s s' : Shelf lib}
    {r : Except String (Member lib)} (h : Checkout s r s') : view.Quiet s.file s'.file := by
  induction h with
  | drop _ _ _ ih => exact (hview.close_quiet _ _).trans ih
  | reuse => exact .refl _
  | @create s handle file hconnect =>
    have hquiet := hview.connect_quiet s.file
    rwa [hconnect] at hquiet
  | @fail s report file hconnect =>
    have hquiet := hview.connect_quiet s.file
    rwa [hconnect] at hquiet
  | giveUp => exact .refl _

/-- What is handed out is outside of all transactions. -/
theorem Shelf.Checkout.isAutocommit (hview : view.Lawful) {s s' : Shelf lib} {m : Member lib}
    (h : Checkout s (.ok m) s') : lib.isAutocommit m.handle := by
  rcases h.given with ⟨-, hrecycle⟩ | ⟨-, file, file', hconnect⟩
  · exact Member.recycle_eq_ok.mp hrecycle
  · exact (hview.connect _ _ _ hconnect).1

/-! ### Accounts -/

/-- The rows that were written in a run: those of transactions that are over, with those that were
there before, and those that are pending under a ticket. -/
structure Ledger (Row : Type) where
  settled : Set Row
  pending : Nat → Set Row

namespace Ledger

/-- The accounts before anything is written. -/
def start (view : View lib) : Ledger view.Row where
  settled := view.holds lib.file
  pending _ := ∅

/-- The accounts after a job: outside of transactions all rows of the ticket are settled. -/
def postJob (view : View lib) (l : Ledger view.Row) (ticket : Nat) (job : Job)
    (outside : Prop) [Decidable outside] : Ledger view.Row :=
  if outside then
    { settled := l.settled ∪ (l.pending ticket ∪ view.writes job)
      pending := Function.update l.pending ticket ∅ }
  else { l with pending := Function.update l.pending ticket (l.pending ticket ∪ view.writes job) }

/-- The accounts after a move. -/
def post (view : View lib) (l : Ledger view.Row) : Note lib → Ledger view.Row
  | .ran ticket job _ after => l.postJob view ticket job (lib.isAutocommit after.handle)
  | _ => l

/-- The accounts of a run. -/
def ofNotes (view : View lib) (notes : List (Note lib)) : Ledger view.Row :=
  notes.foldl (post view) (start view)

section PostJob

variable {l : Ledger view.Row} {ticket : Nat} {job : Job} {outside : Prop} [Decidable outside]

theorem settled_subset_postJob :
    l.settled ⊆ (l.postJob view ticket job outside).settled := by
  unfold postJob
  split
  · exact Set.subset_union_left
  · exact subset_rfl

theorem pending_postJob_of_ne {t : Nat} (h : t ≠ ticket) :
    (l.postJob view ticket job outside).pending t = l.pending t := by
  unfold postJob
  split
  · exact Function.update_of_ne h _ _
  · exact Function.update_of_ne h _ _

/-- All that was pending or written is settled or pending. -/
theorem pending_union_writes_subset_postJob :
    l.pending ticket ∪ view.writes job ⊆
      (l.postJob view ticket job outside).settled ∪
        (l.postJob view ticket job outside).pending ticket := by
  unfold postJob
  split
  · exact Set.subset_union_right.trans Set.subset_union_left
  · dsimp only
    rw [Function.update_self]
    exact Set.subset_union_right

end PostJob

section Post

variable {l : Ledger view.Row} {note : Note lib} {r : view.Row}

/-- What is pending after a move was pending before it, or is written by its job. -/
theorem pending_post {t : Nat} (h : r ∈ (l.post view note).pending t) :
    r ∈ l.pending t ∨ ∃ job outcome m, note = .ran t job outcome m ∧ r ∈ view.writes job := by
  cases note with
  | ran t' job outcome m =>
    rw [post, postJob] at h
    by_cases ht : t = t'
    · subst ht
      split at h
      · dsimp only at h
        rw [Function.update_self] at h
        exact absurd h (Set.notMem_empty r)
      · dsimp only at h
        rw [Function.update_self] at h
        exact h.imp_right fun hr => ⟨job, outcome, m, rfl, hr⟩
    · split at h
      · dsimp only at h
        rw [Function.update_of_ne ht] at h
        exact .inl h
      · dsimp only at h
        rw [Function.update_of_ne ht] at h
        exact .inl h
  | acquired => exact .inl h
  | unavailable => exact .inl h
  | turnedAway => exact .inl h
  | released => exact .inl h
  | destroyed => exact .inl h
  | nothing => exact .inl h

/-- What is settled after a move was settled before it, or was pending or is written and its
connection is outside of all transactions now. -/
theorem settled_post (h : r ∈ (l.post view note).settled) :
    r ∈ l.settled ∨ ∃ t job outcome m, note = .ran t job outcome m ∧
      lib.isAutocommit m.handle ∧ (r ∈ l.pending t ∨ r ∈ view.writes job) := by
  cases note with
  | ran t job outcome m =>
    rw [post, postJob] at h
    split at h
    next houtside => exact h.imp_right fun hr => ⟨t, job, outcome, m, rfl, houtside, hr⟩
    next => exact .inl h
  | acquired => exact .inl h
  | unavailable => exact .inl h
  | turnedAway => exact .inl h
  | released => exact .inl h
  | destroyed => exact .inl h
  | nothing => exact .inl h

end Post

end Ledger

namespace Pool

/-- All rows that can be found are settled, or pending under the ticket of the connection that finds
them. -/
structure Covered (l : Ledger view.Row) (p : Pool lib) : Prop where
  holds : view.holds p.shelf.file ⊆ l.settled
  waiting : ∀ m ∈ p.shelf.idle, view.keeps m.handle ⊆ l.settled
  keeps : ∀ t m, (t, some m) ∈ p.held → view.keeps m.handle ⊆ l.settled
  sees : ∀ t m, (t, some m) ∈ p.held →
    view.sees p.shelf.file m.handle ⊆ l.settled ∪ l.pending t

theorem covered_new (maxSize : Nat) :
    Covered (Ledger.start view) ({ maxSize } : Pool lib) where
  holds := subset_rfl
  waiting := by simp
  keeps := by simp
  sees := by simp

variable {l : Ledger view.Row} {p p' : Pool lib} {note : Note lib}

/-- Where nothing new is found and nobody gets a connection, the accounts stay right. -/
theorem Covered.quiet (h : Covered l p) (hfile : view.Quiet p.shelf.file p'.shelf.file)
    (hidle : ∀ m ∈ p'.shelf.idle, m ∈ p.shelf.idle ∨ ∃ t, (t, some m) ∈ p.held)
    (hheld : ∀ t m, (t, some m) ∈ p'.held → (t, some m) ∈ p.held) : Covered l p' where
  holds := hfile.holds.trans h.holds
  waiting m hm := by
    rcases hidle m hm with hm | ⟨t, hm⟩
    · exact h.waiting m hm
    · exact h.keeps t m hm
  keeps t m hm := h.keeps t m (hheld t m hm)
  sees t m hm := (hfile.sees m.handle).trans <|
    Set.union_subset (h.sees t m (hheld t m hm)) (h.holds.trans Set.subset_union_left)

/-- A job is posted: what its connection finds and what the file keeps is in the accounts. -/
theorem Covered.job (hview : view.Lawful) (h : Covered l p)
    {before after : List (Nat × Option (Member lib))} {ticket : Nat} {m : Member lib}
    (hheld : p.held = before ++ (ticket, some m) :: after) (job : Job) :
    let l' := l.postJob view ticket job (lib.isAutocommit (m.afterJob job p.shelf.file).handle)
    view.holds (p.shelf.afterJob job m).file ∪ view.keeps (m.afterJob job p.shelf.file).handle ⊆
        l'.settled ∧
      view.sees (p.shelf.afterJob job m).file (m.afterJob job p.shelf.file).handle ⊆
        l'.settled ∪ l'.pending ticket := by
  intro l'
  have hmem : (ticket, some m) ∈ p.held := mem_of_split hheld
  have hkept : view.holds p.shelf.file ∪ view.keeps m.handle ⊆ l.settled :=
    Set.union_subset h.holds (h.keeps ticket m hmem)
  have hsettled : l.settled ⊆ l'.settled := Ledger.settled_subset_postJob
  have hpending : l.pending ticket ∪ view.writes job ⊆ l'.settled ∪ l'.pending ticket :=
    Ledger.pending_union_writes_subset_postJob
  have hsees : view.sees p.shelf.file m.handle ⊆ l'.settled ∪ l'.pending ticket := by
    refine (h.sees ticket m hmem).trans (Set.union_subset ?_ ?_)
    · exact hsettled.trans Set.subset_union_left
    · exact Set.subset_union_left.trans hpending
  have hholds : view.holds (p.shelf.afterJob job m).file ∪
      view.keeps (m.afterJob job p.shelf.file).handle ⊆ l'.settled := by
    by_cases houtside : lib.isAutocommit (m.afterJob job p.shelf.file).handle
    · refine (hview.commits job m.handle p.shelf.file).trans (Set.union_subset ?_ ?_)
      · exact hkept.trans hsettled
      · -- the transaction is over, and nothing is pending any more
        have hnone : l'.pending ticket = ∅ := by
          simp only [l', Ledger.postJob, if_pos houtside]
          exact Function.update_self _ _ _
        rw [hnone, Set.union_empty] at hsees hpending
        exact Set.union_subset hsees (Set.subset_union_right.trans hpending)
    · exact (hview.inside job m.handle p.shelf.file houtside).trans (hkept.trans hsettled)
  refine ⟨hholds, (hview.finds job m.handle p.shelf.file).trans ?_⟩
  refine Set.union_subset (Set.union_subset (Set.union_subset hsees ?_) ?_) ?_
  · exact (Set.subset_union_left.trans hholds).trans Set.subset_union_left
  · exact (Set.subset_union_right.trans hholds).trans Set.subset_union_left
  · exact Set.subset_union_right.trans hpending

/-- A job is posted: the other tickets find nothing new, apart from what the file keeps by then. -/
theorem Covered.others (hview : view.Lawful) (hp : Sound p) (h : Covered l p)
    {before after : List (Nat × Option (Member lib))} {ticket : Nat} {m : Member lib}
    (hheld : p.held = before ++ (ticket, some m) :: after) (job : Job) {t : Nat}
    {other : Member lib} (hother : (t, some other) ∈ before ++ after) :
    let l' := l.postJob view ticket job (lib.isAutocommit (m.afterJob job p.shelf.file).handle)
    view.keeps other.handle ⊆ l'.settled ∧
      view.sees (p.shelf.afterJob job m).file other.handle ⊆ l'.settled ∪ l'.pending t := by
  intro l'
  have hotherHeld : (t, some other) ∈ p.held := subset_of_split hheld hother
  have ht : t ≠ ticket := ((hp.alone hheld).1 t other hother).1
  have hsettled : l.settled ⊆ l'.settled := Ledger.settled_subset_postJob
  have hholds : view.holds (p.shelf.afterJob job m).file ⊆ l'.settled :=
    Set.subset_union_left.trans (h.job hview hheld job).1
  refine ⟨(h.keeps t other hotherHeld).trans hsettled, ?_⟩
  refine (hview.others job m.handle p.shelf.file other.handle).trans (Set.union_subset ?_ ?_)
  · rw [Ledger.pending_postJob_of_ne ht]
    exact (h.sees t other hotherHeld).trans (Set.union_subset_union_left _ hsettled)
  · exact hholds.trans Set.subset_union_left

/-- The accounts stay right when a connection is handed out: outside of transactions its holder
finds only what is kept. -/
theorem Covered.acquired (hview : view.Lawful) (h : Covered l p) {m : Member lib}
    {shelf : Shelf lib} (hgiven : p.shelf.Checkout (.ok m) shelf) (ticket nextTicket : Nat) :
    Covered l { p with shelf, held := (ticket, some m) :: p.held, nextTicket } := by
  have hquiet : view.Quiet p.shelf.file shelf.file := hgiven.quiet hview
  have hholds : view.holds shelf.file ⊆ l.settled := hquiet.holds.trans h.holds
  have hkeeps : view.keeps m.handle ⊆ l.settled := by
    rcases hgiven.given with ⟨hwaits, -⟩ | ⟨-, file, file', hconnect⟩
    · exact h.waiting m hwaits
    · rw [(hview.connect _ _ _ hconnect).2]
      exact Set.empty_subset _
  have hsees : view.sees shelf.file m.handle ⊆ l.settled :=
    (hview.outside _ _ (hgiven.isAutocommit hview)).trans (Set.union_subset hholds hkeeps)
  refine ⟨hholds, fun m' hm' => h.waiting m' (hgiven.idle_subset hm'), fun t m' hm' => ?_,
    fun t m' hm' => ?_⟩
  · rcases mem_held_cons.mp hm' with ⟨-, rfl⟩ | hm'
    · exact hkeeps
    · exact h.keeps t m' hm'
  · rcases mem_held_cons.mp hm' with ⟨-, rfl⟩ | hm'
    · exact hsees.trans Set.subset_union_left
    · refine (hquiet.sees m'.handle).trans (Set.union_subset (h.sees t m' hm') ?_)
      exact h.holds.trans Set.subset_union_left

/-- **The accounts are right after every move.** -/
theorem Turn.covered (hview : view.Lawful) (hp : Sound p) (h : Turn p note p') (hl : Covered l p) :
    Covered (l.post view note) p' := by
  cases h with
  | acquired hgiven => exact hl.acquired hview hgiven _ _
  | unavailable hgiven e =>
    exact hl.quiet (hgiven.quiet hview) (fun m hm => .inl (hgiven.idle_subset hm))
      fun _ _ hm => hm
  | finished hheld job houtcome =>
    have hjob := hl.job hview hheld job
    refine ⟨Set.subset_union_left.trans hjob.1, fun m' hm' => ?_, fun t m' hm' => ?_,
      fun t m' hm' => ?_⟩
    · exact (hl.waiting m' hm').trans Ledger.settled_subset_postJob
    · rcases mem_held_some.mp hm' with ⟨-, rfl⟩ | hm'
      · exact Set.subset_union_right.trans hjob.1
      · exact (hl.others hview hp hheld job hm').1
    · rcases mem_held_some.mp hm' with ⟨rfl, rfl⟩ | hm'
      · exact hjob.2
      · exact (hl.others hview hp hheld job hm').2
  | panicked hheld job report =>
    have hjob := hl.job hview hheld job
    refine ⟨Set.subset_union_left.trans hjob.1, fun m' hm' => ?_, fun t m' hm' => ?_,
      fun t m' hm' => ?_⟩
    · rcases Shelf.mem_takeBack.mp hm' with hm' | rfl
      · exact (hl.waiting m' hm').trans Ledger.settled_subset_postJob
      · exact Set.subset_union_right.trans hjob.1
    · exact (hl.others hview hp hheld job (mem_held_none.mp hm')).1
    · exact (hl.others hview hp hheld job (mem_held_none.mp hm')).2
  | turnedAway => exact hl
  | @released _ _ t m hheld =>
    refine hl.quiet (.refl _) (fun m' hm' => ?_) fun t m' hm' => subset_of_split hheld hm'
    rcases Shelf.mem_takeBack.mp hm' with hm' | rfl
    · exact .inl hm'
    · exact .inr ⟨t, mem_of_split hheld⟩
  | destroyed hheld =>
    exact hl.quiet (hview.close_quiet _ _) (fun _ hm' => .inl hm')
      fun t m' hm' => subset_of_split hheld hm'
  | emptied hheld hnote =>
    have hpost : l.post view note = l := by rcases hnote with rfl | rfl <;> rfl
    rw [hpost]
    exact hl.quiet (.refl _) (fun _ hm' => .inl hm') fun t m' hm' => subset_of_split hheld hm'
  | nothing => exact hl

/-- A response has rows that are settled, pending under its ticket, or just written. -/
theorem Turn.shows (hview : view.Lawful) (hl : Covered l p) {ticket : Nat} {job : Job}
    {response : Response} {m : Member lib}
    (h : Turn p (.ran ticket job (.finished (.ok (some response))) m) p') :
    view.shows response ⊆ l.settled ∪ l.pending ticket ∪ view.writes job := by
  cases h with
  | @finished before after _ m hheld _ _ houtcome =>
    have hmem : (ticket, some m) ∈ p.held := mem_of_split hheld
    refine (hview.shows job m.handle p.shelf.file response houtcome).trans ?_
    refine Set.union_subset_union_left _ (Set.union_subset (Set.union_subset ?_ ?_) ?_)
    · exact hl.sees ticket m hmem
    · exact hl.holds.trans Set.subset_union_left
    · exact (hl.keeps ticket m hmem).trans Set.subset_union_left
  | emptied _ hnote => rcases hnote with hnote | hnote <;> cases hnote

section Course

variable {notes : List (Note lib)}

theorem Course.covered (hview : view.Lawful) (h : Course p notes p') (hp : Sound p)
    (hl : Covered l p) : Covered (notes.foldl (Ledger.post view) l) p' := by
  induction h generalizing l with
  | nil => exact hl
  | cons hturn _ ih => exact ih (hturn.sound hp) (hturn.covered hview hp hl)

/-- What is shown in a run is settled, pending under the ticket that it is shown to, or just
written. -/
theorem Course.shown (hview : view.Lawful) {maxSize : Nat}
    {first later : List (Note lib)} {t : Nat} {job : Job} {response : Response} {m : Member lib}
    {p' : Pool lib}
    (h : Course { maxSize }
      (first ++ .ran t job (.finished (.ok (some response))) m :: later) p') :
    view.shows response ⊆ (Ledger.ofNotes view first).settled ∪
      (Ledger.ofNotes view first).pending t ∪ view.writes job := by
  obtain ⟨p, hfirst, hrest⟩ := h.of_append
  have hcovered : Covered (Ledger.ofNotes view first) p :=
    hfirst.covered hview (sound_new maxSize) (covered_new maxSize)
  cases hrest with
  | cons hturn _ => exact hturn.shows hview hcovered

end Course

end Pool

end PolySql.Sqlite

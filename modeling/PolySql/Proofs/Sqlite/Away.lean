import PolySql.Proofs.Sqlite.Moves

/-!
# Connections that do not come back

A connection that leaves the hands of its caller inside a transaction either is closed or comes to
wait.  If it waits, it does not stand the look at it before it would be handed out again.  It is
therefore away for good, and so is the ticket under which it was out (`Pool.Away`), through
every turn and every course of turns (`Pool.Turn.away`, `Pool.Course.away`).
-/

namespace PolySql.Sqlite

variable {lib : Library}

/-- The ticket that is over after a move, and its connection, if it had one left. -/
def Note.leaves? : Note lib → Option (Nat × Member lib)
  | .released ticket (some m) => some (ticket, m)
  | .destroyed ticket (some m) => some (ticket, m)
  | .ran ticket _ (.panicked _) after => some (ticket, after)
  | _ => none

namespace Pool

variable {p p' : Pool lib} {note : Note lib} {ticket serial : Nat} {m : Member lib}

/-- A ticket that is over and a connection that no caller has.  If the connection waits, it was left
inside a transaction. -/
structure Away (ticket serial : Nat) (p : Pool lib) : Prop where
  ticket_lt : ticket < p.nextTicket
  ticket_over : ∀ m, (ticket, some m) ∉ p.held
  serial_lt : serial < p.shelf.opened
  not_held : ∀ t m, (t, some m) ∈ p.held → m.serial ≠ serial
  open_of_waits : ∀ m ∈ p.shelf.idle, m.serial = serial → ¬ lib.isAutocommit m.handle

/-- The ticket and the connection that were just given back are over, if no caller got anything. -/
theorem Sound.away {before after : List (Nat × Option (Member lib))} {ticket : Nat}
    {m m' : Member lib} (hp : Sound p) (hheld : p.held = before ++ (ticket, some m) :: after)
    (hserial : m'.serial = m.serial) (hopen : ¬ lib.isAutocommit m'.handle)
    (hnext : p'.nextTicket = p.nextTicket) (hopened : p'.shelf.opened = p.shelf.opened)
    (hheld' : ∀ t other, (t, some other) ∈ p'.held → (t, some other) ∈ before ++ after)
    (hidle : ∀ other ∈ p'.shelf.idle, other ∈ p.shelf.idle ∨ other = m') :
    Away ticket m'.serial p' := by
  obtain ⟨hothers, hwaiting⟩ := hp.alone hheld
  have hmem : (ticket, some m) ∈ p.held := mem_of_split hheld
  refine ⟨?_, ?_, ?_, ?_, ?_⟩
  · rw [hnext]
    exact hp.tickets.2 ticket (List.mem_map_of_mem hmem)
  · intro other hother
    exact (hothers _ _ (hheld' _ _ hother)).1 rfl
  · rw [hopened, hserial]
    exact hp.serials.2 _ (List.mem_append_right _ (serial_mem_heldSerials hmem))
  · intro t other hother
    rw [hserial]
    exact (hothers _ _ (hheld' _ _ hother)).2
  · intro other hother heq
    rcases hidle other hother with hother | rfl
    · exact absurd (heq.trans hserial) (hwaiting other hother)
    · exact hopen

/-- A connection that leaves the hands of its caller inside a transaction is away. -/
theorem Turn.away_of_leaves (hp : Sound p) (h : Turn p note p')
    (hleaves : note.leaves? = some (ticket, m)) (hopen : ¬ lib.isAutocommit m.handle) :
    Away ticket m.serial p' := by
  cases h with
  | panicked hheld job report =>
    obtain ⟨rfl, rfl⟩ := Prod.mk.inj (Option.some.inj hleaves)
    exact hp.away hheld rfl hopen rfl rfl (fun _ _ => mem_held_none.mp)
      fun _ => Shelf.mem_takeBack.mp
  | released hheld =>
    obtain ⟨rfl, rfl⟩ := Prod.mk.inj (Option.some.inj hleaves)
    exact hp.away hheld rfl hopen rfl rfl (fun _ _ hother => hother) fun _ => Shelf.mem_takeBack.mp
  | destroyed hheld =>
    obtain ⟨rfl, rfl⟩ := Prod.mk.inj (Option.some.inj hleaves)
    exact hp.away hheld rfl hopen rfl rfl (fun _ _ hother => hother) fun _ hother => .inl hother
  | emptied hheld hnote => rcases hnote with rfl | rfl <;> cases hleaves
  | acquired => cases hleaves
  | unavailable => cases hleaves
  | finished => cases hleaves
  | turnedAway => cases hleaves
  | nothing => cases hleaves

/-- What is away stays away through a move, if no connection comes into the hands of callers. -/
theorem Away.mono (h : Away ticket serial p) (hnext : p'.nextTicket = p.nextTicket)
    (hopened : p.shelf.opened ≤ p'.shelf.opened)
    (hheld : ∀ t m, (t, some m) ∈ p'.held → ∃ m', (t, some m') ∈ p.held ∧ m'.serial = m.serial)
    (hidle : ∀ m ∈ p'.shelf.idle, m ∈ p.shelf.idle ∨
      ∃ t m', (t, some m') ∈ p.held ∧ m'.serial = m.serial) : Away ticket serial p' := by
  refine ⟨hnext ▸ h.ticket_lt, ?_, Nat.lt_of_lt_of_le h.serial_lt hopened, ?_, ?_⟩
  · intro m hm
    obtain ⟨m', hm', -⟩ := hheld ticket m hm
    exact h.ticket_over m' hm'
  · intro t m hm
    obtain ⟨m', hm', hserial⟩ := hheld t m hm
    exact hserial ▸ h.not_held t m' hm'
  · intro m hm hserial
    rcases hidle m hm with hm | ⟨t, m', hm', hsame⟩
    · exact h.open_of_waits m hm hserial
    · exact absurd (hsame.trans hserial) (h.not_held t m' hm')

/-- What is away is not handed out. -/
theorem Away.serial_ne (h : Away ticket serial p) {shelf : Shelf lib}
    (hgiven : p.shelf.Checkout (.ok m) shelf) : m.serial ≠ serial := by
  rcases hgiven.given with ⟨hwaits, hrecycle⟩ | ⟨hopened, -⟩
  · intro heq
    exact h.open_of_waits m hwaits heq (Member.recycle_eq_ok.mp hrecycle)
  · have hlt := h.serial_lt
    omega

theorem Turn.serial_ne {t : Nat} (h : Turn p (.acquired t m) p') (haway : Away ticket serial p) :
    m.serial ≠ serial := by
  cases h with
  | acquired hgiven => exact haway.serial_ne hgiven
  | emptied _ hnote => rcases hnote with hnote | hnote <;> cases hnote

/-- No job is done on a ticket that is over. -/
theorem Turn.ticket_ne {t : Nat} {job : Job} {outcome : Outcome}
    (h : Turn p (.ran t job outcome m) p') (haway : Away ticket serial p) : t ≠ ticket := by
  rintro rfl
  cases h with
  | finished hheld => exact haway.ticket_over _ (mem_of_split hheld)
  | panicked hheld => exact haway.ticket_over _ (mem_of_split hheld)
  | emptied _ hnote => rcases hnote with hnote | hnote <;> cases hnote

/-- **What is away stays away.** -/
theorem Turn.away (h : Turn p note p') (haway : Away ticket serial p) : Away ticket serial p' := by
  cases h with
  | acquired hgiven =>
    refine ⟨Nat.lt_succ_of_lt haway.ticket_lt, fun m hm => ?_,
      Nat.lt_of_lt_of_le haway.serial_lt hgiven.opened_le, fun t m hm => ?_,
      fun m hm => haway.open_of_waits m (hgiven.idle_subset hm)⟩
    · rcases mem_held_cons.mp hm with ⟨heq, -⟩ | hm
      · have hlt := haway.ticket_lt
        omega
      · exact haway.ticket_over m hm
    · rcases mem_held_cons.mp hm with ⟨-, rfl⟩ | hm
      · exact haway.serial_ne hgiven
      · exact haway.not_held t m hm
  | unavailable hgiven e =>
    exact haway.mono rfl hgiven.opened_le (fun t m hm => ⟨m, hm, rfl⟩)
      fun m hm => .inl (hgiven.idle_subset hm)
  | @finished _ _ _ m hheld =>
    refine haway.mono rfl (Nat.le_refl _) (fun t' m' hm' => ?_) fun _ hm => .inl hm
    rcases mem_held_some.mp hm' with ⟨rfl, rfl⟩ | hm'
    · exact ⟨m, mem_of_split hheld, rfl⟩
    · exact ⟨m', subset_of_split hheld hm', rfl⟩
  | @panicked _ _ t m hheld =>
    refine haway.mono rfl (Nat.le_refl _) (fun t' m' hm' => ?_) fun m' hm' => ?_
    · exact ⟨m', subset_of_split hheld (mem_held_none.mp hm'), rfl⟩
    · rcases Shelf.mem_takeBack.mp hm' with hm' | rfl
      · exact .inl hm'
      · exact .inr ⟨t, m, mem_of_split hheld, rfl⟩
  | turnedAway => exact haway
  | @released _ _ t m hheld =>
    refine haway.mono rfl (Nat.le_refl _) (fun t' m' hm' => ?_) fun m' hm' => ?_
    · exact ⟨m', subset_of_split hheld hm', rfl⟩
    · rcases Shelf.mem_takeBack.mp hm' with hm' | rfl
      · exact .inl hm'
      · exact .inr ⟨t, m', mem_of_split hheld, rfl⟩
  | destroyed hheld =>
    refine haway.mono rfl (Nat.le_refl _) (fun t' m' hm' => ?_) fun _ hm' => .inl hm'
    exact ⟨m', subset_of_split hheld hm', rfl⟩
  | emptied hheld hnote =>
    refine haway.mono rfl (Nat.le_refl _) (fun t' m' hm' => ?_) fun _ hm' => .inl hm'
    exact ⟨m', subset_of_split hheld hm', rfl⟩
  | nothing => exact haway

/-- In a course of turns, what is away is not handed out again, and no job is done on its ticket. -/
theorem Course.away {notes : List (Note lib)} (h : Course p notes p')
    (haway : Away ticket serial p) :
    (∀ t m, .acquired t m ∈ notes → m.serial ≠ serial) ∧
      ∀ t job outcome m, .ran t job outcome m ∈ notes → t ≠ ticket := by
  induction h with
  | nil => exact ⟨by simp, by simp⟩
  | cons hturn _ ih =>
    obtain ⟨hacquired, hran⟩ := ih (hturn.away haway)
    refine ⟨fun t m hmem => ?_, fun t job outcome m hmem => ?_⟩
    · rcases List.mem_cons.mp hmem with rfl | hmem
      · exact hturn.serial_ne haway
      · exact hacquired t m hmem
    · rcases List.mem_cons.mp hmem with rfl | hmem
      · exact hturn.ticket_ne haway
      · exact hran t job outcome m hmem

end Pool

end PolySql.Sqlite

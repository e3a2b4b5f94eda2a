import Mathlib.Data.List.Nodup
import PolySql.Sqlite.Pool

/-!
# What the moves of a pool do

`Shelf.Checkout` is all that is asked of the library that keeps waiting connections: it looks at one
of them before it hands it out again, drops those that do not stand the look, opens connections, and
may give up at any time.  `Pool.Turn` says for every move what it does to the pool, with the ticket
that it is about singled out, so that each invariant needs one case for each kind of move.

Numbers of connections and tickets are never used twice (`Pool.Sound`), and a run is a course of
turns (`Pool.Course`).
-/

namespace PolySql.Sqlite

variable {lib : Library} {checkout : Shelf lib → Except String (Member lib) × Shelf lib}

/-! ### Checking out -/

theorem Member.recycle_eq_ok {m : Member lib} :
    m.recycle = .ok () ↔ lib.isAutocommit m.handle := by
  unfold recycle
  by_cases h : lib.isAutocommit m.handle
  · rw [if_pos h]
    exact ⟨fun _ => h, fun _ => rfl⟩
  · rw [if_neg h]
    constructor
    · intro heq
      cases heq
    · intro houtside
      exact absurd houtside h

namespace Shelf

/-- What the library that keeps waiting connections may do when one is asked for. -/
inductive Checkout : Shelf lib → Except String (Member lib) → Shelf lib → Prop
  /-- A waiting connection does not stand the look at it, and is dropped. -/
  | drop {s s' : Shelf lib} {before after : List (Member lib)} {m : Member lib}
    {r : Except String (Member lib)} (hidle : s.idle = before ++ m :: after)
    (hrecycle : m.recycle ≠ .ok ())
    (hrest : Checkout (Shelf.close { s with idle := before ++ after } m) r s') : Checkout s r s'
  /-- A waiting connection is handed out again. -/
  | reuse {s : Shelf lib} {before after : List (Member lib)} {m : Member lib}
    (hidle : s.idle = before ++ m :: after) (hrecycle : m.recycle = .ok ()) :
    Checkout s (.ok m) { s with idle := before ++ after }
  /-- A connection is opened. -/
  | create {s : Shelf lib} {handle : lib.Handle} {file : lib.File}
    (hconnect : lib.connect s.file = (.ok handle, file)) :
    Checkout s (.ok { serial := s.opened, handle }) { s with file, opened := s.opened + 1 }
  /-- No connection can be opened. -/
  | fail {s : Shelf lib} {report : String} {file : lib.File}
    (hconnect : lib.connect s.file = (.error report, file)) (text : String) :
    Checkout s (.error text) { s with file }
  /-- There is none in time. -/
  | giveUp (s : Shelf lib) (text : String) : Checkout s (.error text) s

variable {s s' : Shelf lib} {r : Except String (Member lib)} {m : Member lib}

theorem checkout_handOut {waiting : List (Member lib)} (h : s.idle = waiting) :
    Checkout s (s.handOut waiting).1 (s.handOut waiting).2 := by
  induction waiting generalizing s with
  | nil =>
    have hs : ({ s with idle := [] } : Shelf lib) = s := by rw [← h]
    rw [handOut, hs, create]
    cases hconnect : lib.connect s.file with
    | mk opened file =>
      cases opened with
      | ok handle => exact .create hconnect
      | error report => exact .fail hconnect report
  | cons m rest ih =>
    have hidle : s.idle = [] ++ m :: rest := h
    rw [handOut]
    cases hrecycle : m.recycle with
    | ok _ => exact .reuse hidle hrecycle
    | error report => exact .drop hidle (by simp [hrecycle]) (ih rfl)

/-- What is handed out has stood the look, or was opened for it. -/
theorem Checkout.given (h : Checkout s (.ok m) s') :
    (m ∈ s.idle ∧ m.recycle = .ok ()) ∨
      (s.opened ≤ m.serial ∧ ∃ file file', lib.connect file = (.ok m.handle, file')) := by
  generalize hr : (.ok m : Except String (Member lib)) = r at h
  induction h with
  | drop hidle _ _ ih =>
    rcases ih hr with ⟨hm, hrecycle⟩ | hopened
    · refine .inl ⟨?_, hrecycle⟩
      rw [hidle]
      exact ((List.Sublist.refl _).middle _).mem hm
    · exact .inr hopened
  | reuse hidle hrecycle =>
    obtain rfl := Except.ok.inj hr
    exact .inl ⟨by simp [hidle], hrecycle⟩
  | create hconnect =>
    obtain rfl := Except.ok.inj hr
    exact .inr ⟨Nat.le_refl _, _, _, hconnect⟩
  | fail => cases hr
  | giveUp => cases hr

/-- Nothing comes to wait when a connection is asked for. -/
theorem Checkout.idle_subset (h : Checkout s r s') : s'.idle ⊆ s.idle := by
  induction h with
  | drop hidle _ _ ih =>
    rw [hidle]
    exact List.Subset.trans ih ((List.Sublist.refl _).middle _).subset
  | reuse hidle _ =>
    rw [hidle]
    exact ((List.Sublist.refl _).middle _).subset
  | create => exact List.Subset.refl _
  | fail => exact List.Subset.refl _
  | giveUp => exact List.Subset.refl _

theorem Checkout.opened_le (h : Checkout s r s') : s.opened ≤ s'.opened := by
  induction h with
  | drop _ _ _ ih => exact ih
  | reuse => exact Nat.le_refl _
  | create => exact Nat.le_succ _
  | fail => exact Nat.le_refl _
  | giveUp => exact Nat.le_refl _

theorem mem_takeBack {m' : Member lib} : m' ∈ (s.takeBack m).idle ↔ m' ∈ s.idle ∨ m' = m := by
  rw [takeBack, List.mem_append, List.mem_singleton]

end Shelf

/-- A way of handing out connections that looks at each before it is handed out again, and drops
those that do not stand the look. -/
def Recycles (checkout : Shelf lib → Except String (Member lib) × Shelf lib) : Prop :=
  ∀ s, Shelf.Checkout s (checkout s).1 (checkout s).2

theorem recycles_firstCome : Recycles (Shelf.firstCome : Shelf lib → _ × Shelf lib) :=
  fun _ => Shelf.checkout_handOut rfl

/-! ### Numbers that are used once -/

/-- Numbers of connections, of which so many have been opened. -/
def Numbered (opened : Nat) (serials : List Nat) : Prop :=
  serials.Nodup ∧ ∀ n ∈ serials, n < opened

section Numbered

variable {opened : Nat} {serials serials' : List Nat}

theorem Numbered.sublist (h : Numbered opened serials) (hsub : serials'.Sublist serials) :
    Numbered opened serials' :=
  ⟨h.1.sublist hsub, fun n hn => h.2 n (hsub.mem hn)⟩

theorem Numbered.perm (h : Numbered opened serials) (hperm : serials.Perm serials') :
    Numbered opened serials' :=
  ⟨hperm.nodup_iff.mp h.1, fun n hn => h.2 n (hperm.mem_iff.mpr hn)⟩

theorem Numbered.cons (h : Numbered opened serials) :
    Numbered (opened + 1) (opened :: serials) := by
  refine ⟨List.nodup_cons.mpr ⟨fun hmem => ?_, h.1⟩, List.forall_mem_cons.mpr ⟨?_, fun n hn => ?_⟩⟩
  · exact Nat.lt_irrefl _ (h.2 opened hmem)
  · exact Nat.lt_succ_self _
  · exact Nat.lt_succ_of_lt (h.2 n hn)

end Numbered

/-- The number of a connection that was handed out, if one was. -/
def givenSerial : Except String (Member lib) → List Nat
  | .ok m => [m.serial]
  | .error _ => []

/-- Handing out uses no number twice, neither among the waiting connections nor among others. -/
theorem Shelf.Checkout.numbered {s s' : Shelf lib} {r : Except String (Member lib)}
    (h : Checkout s r s') {others : List Nat}
    (hs : Numbered s.opened (s.idle.map Member.serial ++ others)) :
    Numbered s'.opened (s'.idle.map Member.serial ++ (givenSerial r ++ others)) := by
  induction h with
  | drop hidle _ _ ih =>
    refine ih (hs.sublist ?_)
    rw [hidle]
    exact (((List.Sublist.refl _).middle _).map _).append_right _
  | reuse hidle _ =>
    refine hs.perm ?_
    rw [hidle, List.map_append, List.map_append, List.map_cons, List.append_assoc,
      List.append_assoc]
    exact List.Perm.append_left _ List.perm_middle.symm
  | create =>
    refine hs.cons.perm ?_
    exact List.perm_middle.symm
  | fail => exact hs
  | giveUp => exact hs

/-! ### Moves -/

/-- A connection after a job on it. -/
def Member.afterJob (m : Member lib) (job : Job) (file : lib.File) : Member lib :=
  { m with handle := (lib.perform job m.handle file).handle }

/-- Waiting connections after a job on another one. -/
def Shelf.afterJob (s : Shelf lib) (job : Job) (m : Member lib) : Shelf lib :=
  { s with file := (lib.perform job m.handle s.file).file }

namespace Pool

/-- What a move does to a pool. -/
inductive Turn (p : Pool lib) : Note lib → Pool lib → Prop
  | acquired {m : Member lib} {shelf : Shelf lib} (hgiven : p.shelf.Checkout (.ok m) shelf) :
    Turn p (.acquired p.nextTicket m)
      { p with shelf, held := (p.nextTicket, some m) :: p.held, nextTicket := p.nextTicket + 1 }
  | unavailable {report : String} {shelf : Shelf lib}
    (hgiven : p.shelf.Checkout (.error report) shelf) (e : Error) :
    Turn p (.unavailable e) { p with shelf }
  | finished {before after : List (Nat × Option (Member lib))} {ticket : Nat} {m : Member lib}
    (hheld : p.held = before ++ (ticket, some m) :: after) (job : Job)
    {result : Except DriverError (Option Response)}
    (houtcome : (lib.perform job m.handle p.shelf.file).outcome = .finished result) :
    Turn p (.ran ticket job (.finished result) (m.afterJob job p.shelf.file))
      { p with
        shelf := p.shelf.afterJob job m
        held := before ++ (ticket, some (m.afterJob job p.shelf.file)) :: after }
  | panicked {before after : List (Nat × Option (Member lib))} {ticket : Nat} {m : Member lib}
    (hheld : p.held = before ++ (ticket, some m) :: after) (job : Job) (report : String) :
    Turn p (.ran ticket job (.panicked report) (m.afterJob job p.shelf.file))
      { p with
        shelf := (p.shelf.afterJob job m).takeBack (m.afterJob job p.shelf.file)
        held := before ++ (ticket, none) :: after }
  | turnedAway (ticket : Nat) (report : DriverError) :
    Turn p (.turnedAway ticket report) p
  | released {before after : List (Nat × Option (Member lib))} {ticket : Nat} {m : Member lib}
    (hheld : p.held = before ++ (ticket, some m) :: after) :
    Turn p (.released ticket (some m))
      { p with shelf := p.shelf.takeBack m, held := before ++ after }
  | destroyed {before after : List (Nat × Option (Member lib))} {ticket : Nat} {m : Member lib}
    (hheld : p.held = before ++ (ticket, some m) :: after) :
    Turn p (.destroyed ticket (some m))
      { p with shelf := p.shelf.close m, held := before ++ after }
  | emptied {before after : List (Nat × Option (Member lib))} {ticket : Nat} {note : Note lib}
    (hheld : p.held = before ++ (ticket, none) :: after)
    (hnote : note = .released ticket none ∨ note = .destroyed ticket none) :
    Turn p note { p with held := before ++ after }
  | nothing : Turn p .nothing p

/-- A ticket that is out stands in one place, which is the one that is changed. -/
theorem exists_split_of_lookup {α : Type} {held : List (Nat × α)} {ticket : Nat} {x : α}
    (hnodup : (held.map Prod.fst).Nodup) (h : held.lookup ticket = some x) :
    ∃ before after, held = before ++ (ticket, x) :: after ∧
      (∀ y, held.map (fun entry => if entry.1 == ticket then (ticket, y) else entry) =
        before ++ (ticket, y) :: after) ∧
      held.filter (fun entry => entry.1 != ticket) = before ++ after := by
  induction held with
  | nil => simp at h
  | cons entry held ih =>
    obtain ⟨t, y⟩ := entry
    rw [List.map_cons, List.nodup_cons] at hnodup
    obtain ⟨hfirst, hnodup⟩ := hnodup
    by_cases ht : ticket = t
    · subst ht
      obtain rfl : y = x := by simpa using h
      -- the ticket does not stand in the rest, so that nothing else is changed
      have hrest : ∀ entry ∈ held, (entry.1 == ticket) = false := by
        intro entry hentry
        have hmem : entry.1 ∈ held.map Prod.fst := List.mem_map_of_mem hentry
        exact beq_eq_false_iff_ne.mpr fun heq => hfirst (heq ▸ hmem)
      refine ⟨[], held, rfl, fun y => ?_, ?_⟩
      · rw [List.map_cons, if_pos (by simp), List.nil_append]
        refine congrArg _ ((List.map_congr_left fun entry hentry => ?_).trans (List.map_id _))
        rw [hrest entry hentry, id]
        rfl
      · rw [List.filter_cons_of_neg (by simp), List.nil_append, List.filter_eq_self]
        intro entry hentry
        rw [bne, hrest entry hentry]
        rfl
    · have hlookup : held.lookup ticket = some x := by
        rwa [List.lookup_cons, beq_eq_false_iff_ne.mpr ht] at h
      obtain ⟨before, after, rfl, hmap, hfilter⟩ := ih hnodup hlookup
      refine ⟨(t, y) :: before, after, rfl, fun z => ?_, ?_⟩
      · rw [List.map_cons, if_neg (by simpa using Ne.symm ht), hmap, List.cons_append]
      · rw [List.filter_cons_of_pos (by simpa using Ne.symm ht), hfilter, List.cons_append]

/-- Every move is a turn. -/
theorem turn_move (hcheckout : Recycles checkout) {p : Pool lib}
    (hnodup : (p.held.map Prod.fst).Nodup) (move : Move) :
    Turn p (p.move checkout move).1 (p.move checkout move).2 := by
  cases move with
  | acquire =>
    rw [Pool.move, acquire]
    split
    · have hgiven := hcheckout p.shelf
      cases hresult : checkout p.shelf with
      | mk r shelf =>
        rw [hresult] at hgiven
        cases r with
        | ok m => exact .acquired hgiven
        | error report => exact .unavailable hgiven _
    · exact .nothing
  | call ticket call =>
    rw [Pool.move]
    cases hlookup : p.held.lookup ticket with
    | none => exact .nothing
    | some connection =>
      obtain ⟨before, after, hheld, hmap, -⟩ := exists_split_of_lookup hnodup hlookup
      cases hjob : call.job with
      | error report => exact .turnedAway ticket report
      | ok job =>
        cases connection with
        | none => exact .turnedAway ticket _
        | some m =>
          dsimp only
          rw [runBlocking]
          cases houtcome : (lib.perform job m.handle p.shelf.file).outcome with
          | finished result =>
            dsimp only
            rw [update, hmap]
            exact .finished hheld job houtcome
          | panicked report =>
            dsimp only
            rw [update, hmap]
            exact .panicked hheld job report
  | release ticket =>
    rw [Pool.move]
    cases hlookup : p.held.lookup ticket with
    | none => exact .nothing
    | some connection =>
      obtain ⟨before, after, hheld, -, hfilter⟩ := exists_split_of_lookup hnodup hlookup
      cases connection with
      | none =>
        dsimp only
        rw [forget, hfilter]
        exact .emptied hheld (.inl rfl)
      | some m =>
        dsimp only
        rw [forget, hfilter]
        exact .released hheld
  | destroy ticket =>
    rw [Pool.move]
    cases hlookup : p.held.lookup ticket with
    | none => exact .nothing
    | some connection =>
      obtain ⟨before, after, hheld, -, hfilter⟩ := exists_split_of_lookup hnodup hlookup
      cases connection with
      | none =>
        dsimp only
        rw [forget, hfilter]
        exact .emptied hheld (.inr rfl)
      | some m =>
        dsimp only
        rw [forget, hfilter]
        exact .destroyed hheld

/-! ### Tickets and connections are used once -/

/-- The numbers of connections that are out. -/
def heldSerials (held : List (Nat × Option (Member lib))) : List Nat :=
  held.filterMap fun entry => entry.2.map Member.serial

theorem heldSerials_some (before after : List (Nat × Option (Member lib))) (ticket : Nat)
    (m : Member lib) :
    heldSerials (before ++ (ticket, some m) :: after) =
      heldSerials before ++ m.serial :: heldSerials after := by
  simp [heldSerials]

theorem heldSerials_none (before after : List (Nat × Option (Member lib))) (ticket : Nat) :
    heldSerials (before ++ (ticket, none) :: after) = heldSerials (before ++ after) := by
  simp [heldSerials]

theorem heldSerials_append (before after : List (Nat × Option (Member lib))) :
    heldSerials (before ++ after) = heldSerials before ++ heldSerials after := by
  simp [heldSerials]

section Membership

variable {held before after : List (Nat × Option (Member lib))} {t ticket : Nat} {m m' : Member lib}

theorem mem_of_split {entry : Nat × Option (Member lib)} (h : held = before ++ entry :: after) :
    entry ∈ held := by
  rw [h]
  exact List.mem_append_right _ (List.mem_cons_self ..)

theorem subset_of_split {entry : Nat × Option (Member lib)} (h : held = before ++ entry :: after) :
    before ++ after ⊆ held := by
  rw [h]
  exact ((List.Sublist.refl _).middle entry).subset

theorem mem_held_cons :
    (t, some m') ∈ (ticket, some m) :: held ↔ t = ticket ∧ m' = m ∨ (t, some m') ∈ held := by
  rw [List.mem_cons, Prod.mk.injEq, Option.some.injEq]

theorem mem_held_some :
    (t, some m') ∈ before ++ (ticket, some m) :: after ↔
      t = ticket ∧ m' = m ∨ (t, some m') ∈ before ++ after := by
  rw [List.perm_middle.mem_iff, mem_held_cons]

theorem mem_held_none :
    (t, some m') ∈ before ++ (ticket, none) :: after ↔ (t, some m') ∈ before ++ after := by
  simp

end Membership

theorem serial_mem_heldSerials {held : List (Nat × Option (Member lib))} {ticket : Nat}
    {m : Member lib} (h : (ticket, some m) ∈ held) : m.serial ∈ heldSerials held :=
  List.mem_filterMap.mpr ⟨(ticket, some m), h, rfl⟩

/-- No ticket is out twice, and no connection is in two places. -/
structure Sound (p : Pool lib) : Prop where
  tickets : Numbered p.nextTicket (p.held.map Prod.fst)
  serials : Numbered p.shelf.opened (p.shelf.idle.map Member.serial ++ heldSerials p.held)

theorem sound_new (maxSize : Nat) : Sound ({ maxSize } : Pool lib) where
  tickets := ⟨List.nodup_nil, by simp⟩
  serials := ⟨List.nodup_nil, by simp [heldSerials]⟩

/-- A connection among those that are out and one at the end of those that wait. -/
theorem perm_takeBack (idle before after : List Nat) (serial : Nat) :
    (idle ++ (before ++ serial :: after)).Perm (idle ++ [serial] ++ (before ++ after)) := by
  rw [List.append_assoc]
  exact List.perm_middle.append_left _

section Turns

variable {p p' : Pool lib} {note : Note lib}

theorem Turn.sound (hp : Sound p) (h : Turn p note p') :
    Sound p' := by
  obtain ⟨htickets, hserials⟩ := hp
  cases h with
  | acquired hgiven =>
    exact ⟨htickets.cons, hgiven.numbered hserials⟩
  | unavailable hgiven e =>
    exact ⟨htickets, hgiven.numbered hserials⟩
  | finished hheld job houtcome =>
    rw [hheld, heldSerials_some] at hserials
    rw [hheld] at htickets
    refine ⟨by simpa using htickets, ?_⟩
    rw [heldSerials_some]
    exact hserials
  | panicked hheld job report =>
    rw [hheld, heldSerials_some] at hserials
    rw [hheld] at htickets
    refine ⟨by simpa using htickets, ?_⟩
    rw [heldSerials_none, heldSerials_append, Shelf.takeBack, List.map_append]
    exact hserials.perm (perm_takeBack ..)
  | turnedAway => exact ⟨htickets, hserials⟩
  | released hheld =>
    rw [hheld, heldSerials_some] at hserials
    rw [hheld] at htickets
    refine ⟨htickets.sublist (((List.Sublist.refl _).middle _).map _), ?_⟩
    rw [heldSerials_append, Shelf.takeBack, List.map_append]
    exact hserials.perm (perm_takeBack ..)
  | destroyed hheld =>
    rw [hheld, heldSerials_some] at hserials
    rw [hheld] at htickets
    refine ⟨htickets.sublist (((List.Sublist.refl _).middle _).map _), ?_⟩
    rw [heldSerials_append]
    exact hserials.sublist (((List.Sublist.refl _).middle _).append_left _)
  | emptied hheld _ =>
    rw [hheld, heldSerials_none] at hserials
    rw [hheld] at htickets
    exact ⟨htickets.sublist (((List.Sublist.refl _).middle _).map _), hserials⟩
  | nothing => exact ⟨htickets, hserials⟩

/-- A connection that is out is in one place, and its ticket too. -/
theorem Sound.alone {before after : List (Nat × Option (Member lib))} {ticket : Nat}
    {m : Member lib} (hp : Sound p) (hheld : p.held = before ++ (ticket, some m) :: after) :
    (∀ t other, (t, some other) ∈ before ++ after → t ≠ ticket ∧ other.serial ≠ m.serial) ∧
      ∀ other ∈ p.shelf.idle, other.serial ≠ m.serial := by
  have htickets := hp.tickets.1
  have hserials := hp.serials.1
  rw [hheld, List.map_append, List.map_cons, List.nodup_middle, ← List.map_append,
    List.nodup_cons] at htickets
  rw [hheld, heldSerials_some, ← List.append_assoc, List.nodup_middle, List.append_assoc,
    ← heldSerials_append, List.nodup_cons, List.mem_append, not_or] at hserials
  obtain ⟨⟨hidle, hothers⟩, -⟩ := hserials
  refine ⟨fun t other hother => ⟨fun heq => htickets.1 ?_, fun heq => hothers ?_⟩,
    fun other hother heq => hidle ?_⟩
  · have hmem : t ∈ (before ++ after).map Prod.fst := List.mem_map_of_mem hother
    rwa [heq] at hmem
  · rw [← heq]
    exact serial_mem_heldSerials hother
  · rw [← heq]
    exact List.mem_map_of_mem hother

end Turns

/-! ### Runs -/

/-- The turns of a run. -/
inductive Course : Pool lib → List (Note lib) → Pool lib → Prop
  | nil (p : Pool lib) : Course p [] p
  | cons {p p' p'' : Pool lib} {note : Note lib} {notes : List (Note lib)}
    (hturn : Turn p note p') (hrest : Course p' notes p'') :
    Course p (note :: notes) p''

section Course

variable {p p' : Pool lib} {notes first later : List (Note lib)}

theorem course_run (hcheckout : Recycles checkout) {p : Pool lib} (hp : Sound p)
    (moves : List Move) : Course p (p.run checkout moves).1 (p.run checkout moves).2 := by
  induction moves generalizing p with
  | nil => exact .nil p
  | cons move moves ih =>
    have hturn : Turn p (p.move checkout move).1 (p.move checkout move).2 :=
      turn_move hcheckout hp.tickets.1 move
    exact .cons hturn (ih (hturn.sound hp))

theorem Course.of_append (h : Course p (first ++ later) p') :
    ∃ q, Course p first q ∧ Course q later p' := by
  induction first generalizing p with
  | nil => exact ⟨p, .nil p, h⟩
  | cons note first ih =>
    cases h with
    | cons hturn hrest =>
      obtain ⟨q, hfirst, hlater⟩ := ih hrest
      exact ⟨q, .cons hturn hfirst, hlater⟩

theorem Course.sound (h : Course p notes p')
    (hp : Sound p) : Sound p' := by
  induction h with
  | nil => exact hp
  | cons hturn _ ih => exact ih (hturn.sound hp)

end Course

end Pool

end PolySql.Sqlite

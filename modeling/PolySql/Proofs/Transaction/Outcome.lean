import PolySql.Proofs.Transaction.Events

/-!
# The outcome of a transaction

What `Client.transaction` gives back, for every outcome of its acquire, begin, commit and rollback,
and whatever is done in between (`Client.outcome_transaction`).  The closure's result alone decides
between commit and rollback: a request that fails is told to the closure, which goes on in the same
transaction (`Body.exec_play_request`).
-/

namespace PolySql

variable {σ κ α : Type}

namespace Client

/-- A transaction is a begin, a closure, and a commit or rollback by the closure's result. -/
theorem exec_transaction_eq (client : Client σ κ) (f : Transaction κ → Session σ κ α)
    (w : World σ κ) :
    (client.transaction f).exec w =
      match (Transaction.begin client.backend).exec w with
      | (.error e, opened) => (.error e, opened)
      | (.ok tx, opened) =>
        match (f tx).exec opened with
        | (.ok a, played) => (tx.commit client.backend a).exec played
        | (.error e, played) => (tx.rollback client.backend e).exec played := by
  rw [transaction, Action.exec_bind]
  rcases (Transaction.begin client.backend).exec w with ⟨e | tx, opened⟩
  · rfl
  · simp only [Action.exec_bind, Action.exec_attempt]
    rcases (f tx).exec opened with ⟨e | a, played⟩ <;> rfl

section Begun

variable {client : Client σ κ} {f : Transaction κ → Session (Watched σ κ) κ α}
variable {w : World (Watched σ κ) κ} {c : κ} {s₁ s₂ : σ}

theorem exec_transaction_of_refused {cause : Error}
    (hacquire : client.backend.acquire.run w.backend.backend = (.error cause, s₁)) :
    (client.watched.transaction f).exec w = (.error cause, w.opening s₁ [.refused]) := by
  have hbegin := Transaction.exec_begin client.backend w
  simp only [hacquire] at hbegin
  rw [exec_transaction_eq, watched, hbegin]

theorem exec_transaction_of_failed {report : DriverError}
    (hacquire : client.backend.acquire.run w.backend.backend = (.ok c, s₁))
    (hbegun : (client.backend.begin c).run s₁ = (.error report, s₂)) :
    (client.watched.transaction f).exec w =
      (.error (.statement "BEGIN" report),
        w.opening ((client.backend.destroy c).run s₂).2
          [.acquired c, .called c .begin false, .destroyed c]) := by
  have hbegin := Transaction.exec_begin client.backend w
  simp only [hacquire, hbegun] at hbegin
  rw [exec_transaction_eq, watched, hbegin]

/-- After a begin that has succeeded the closure is played, and its result decides. -/
theorem exec_transaction_of_begun {result : Except Error α} {played : World (Watched σ κ) κ}
    (hacquire : client.backend.acquire.run w.backend.backend = (.ok c, s₁))
    (hbegun : (client.backend.begin c).run s₁ = (.ok (), s₂))
    (hplayed : (f { id := w.begun + 1, holding := .pooled, connection := c }).exec
      (w.opening s₂ [.acquired c, .called c .begin true]) = (result, played)) :
    (client.watched.transaction f).exec w =
      let tx : Transaction κ := { id := w.begun + 1, holding := .pooled, connection := c }
      match result with
      | .ok a => (tx.commit client.backend.watched a).exec played
      | .error e => (tx.rollback client.backend.watched e).exec played := by
  have hbegin := Transaction.exec_begin client.backend w
  simp only [hacquire, hbegun] at hbegin
  rw [exec_transaction_eq, watched, hbegin]
  simp only [hplayed]
  cases result <;> rfl

end Begun

end Client

namespace Body

/-- Whatever the outcome of a request, what follows it is played in the same transaction. -/
theorem exec_play_request (client : Client σ κ) (r : Request) (next : Except Error Output → Body α)
    (tx : Transaction κ) (w : World σ κ) :
    ((request r next).play client tx).exec w =
      ((next ((client.runIn tx r).exec w.backend).1).play client tx).exec
        { w with backend := ((client.runIn tx r).exec w.backend).2 } := by
  rw [play, Action.exec_bind]
  rfl

/-- A body in a transaction runs statements on its connection, and does nothing else. -/
theorem leads_play (client : Client σ κ) (body : Body α) (tx : Transaction κ) :
    Action.Leads (Executes tx.connection) (body.play client.watched tx) := by
  rw [play_eq_flat]
  exact leads_flat client tx.connection body

end Body

/-- **The outcome of a transaction.**  If no connection is to be had, the answer is the pool's
error, and if the begin fails, it is an error of the statement `BEGIN`; the closure is not played.
Else the closure is played, which only runs statements if it is a body, and a commit follows if it
succeeds, a rollback if it fails, and no other call.  The answer is that of the closure if the last
call succeeds, and the last call's own error if it fails.  What follows a request of a body is
played in the same transaction, whether the request has failed or not. -/
theorem Client.outcome_transaction (client : Client σ κ)
    (f : Transaction κ → Session (Watched σ κ) κ α) (w : World (Watched σ κ) κ) :
    let final := (client.watched.transaction f).exec w
    (match client.backend.acquire.run w.backend.backend with
      | (.error cause, s) => final = (.error cause, w.opening s [.refused])
      | (.ok c, s) =>
        match (client.backend.begin c).run s with
        | (.error report, s) =>
          final = (.error (.statement "BEGIN" report),
            w.opening ((client.backend.destroy c).run s).2
              [.acquired c, .called c .begin false, .destroyed c])
        | (.ok _, s) =>
          let opened := w.opening s [.acquired c, .called c .begin true]
          let played := (f { id := w.begun + 1, holding := .pooled, connection := c }).exec opened
          (∀ body : Body α, f = body.play client.watched → Body.Executes c opened played.2) ∧
          match played.1 with
          | .ok answer =>
            (match (client.backend.commit c).run played.2.backend.backend with
              | (.ok _, s) =>
                final = (.ok answer, played.2.advanced ((client.backend.release c).run s).2
                  [.called c .commit true, .released c])
              | (.error report, s) =>
                final = (.error (.commit report),
                  played.2.advanced ((client.backend.destroy c).run s).2
                    [.called c .commit false, .destroyed c]))
          | .error cause =>
            match (client.backend.rollback c).run played.2.backend.backend with
            | (.ok _, s) =>
              final = (.error cause, played.2.advanced ((client.backend.release c).run s).2
                [.called c .rollback true, .released c])
            | (.error report, s) =>
              final = (.error (.rollback report),
                played.2.advanced ((client.backend.destroy c).run s).2
                  [.called c .rollback false, .destroyed c])) ∧
    ∀ (r : Request) (next : Except Error Output → Body α) (tx : Transaction κ),
      (((Body.request r next).play client.watched tx).exec w =
        ((next ((client.watched.runIn tx r).exec w.backend).1).play client.watched tx).exec
          { w with backend := ((client.watched.runIn tx r).exec w.backend).2 }) := by
  intro final
  refine ⟨?_, fun r next tx => Body.exec_play_request client.watched r next tx w⟩
  rcases hacquire : client.backend.acquire.run w.backend.backend with ⟨cause | c, s₁⟩
  · exact exec_transaction_of_refused hacquire
  rcases hbegun : (client.backend.begin c).run s₁ with ⟨report | _, s₂⟩
  · simp only [hbegun]
    exact exec_transaction_of_failed hacquire hbegun
  simp only [hbegun]
  refine ⟨?_, ?_⟩
  · rintro body rfl
    exact body.leads_play client _ _
  rcases hplayed : (f { id := w.begun + 1, holding := .pooled, connection := c }).exec
    (w.opening s₂ [.acquired c, .called c .begin true]) with ⟨cause | answer, played⟩
  · have hfinal := exec_transaction_of_begun hacquire hbegun hplayed
    simp only [Transaction.exec_rollback] at hfinal
    rcases hrollback : (client.backend.rollback c).run played.backend.backend with ⟨_ | _, s⟩ <;>
      simpa only [hrollback] using hfinal
  · have hfinal := exec_transaction_of_begun hacquire hbegun hplayed
    simp only [Transaction.exec_commit] at hfinal
    rcases hcommit : (client.backend.commit c).run played.backend.backend with ⟨_ | _, s⟩ <;>
      simpa only [hcommit] using hfinal

end PolySql

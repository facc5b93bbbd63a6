import Deltapreneur.Transfer.Interleaving

/-!
# Closed transfers stay closed, and the two status columns agree

Runs of whole operations on one transaction, one after another: an `Op` is a block of steps of
`Interleaving.lean`, with nothing in between. Every commit of a block is a state of the run, so
the half-way commits of `resolve` count.

* The columns agree (`Transaction.Agree`): the transfer is `REFUNDED` exactly when the escrow
  is, and `COMPLETED` exactly when the escrow is `RELEASED`.
* A final transfer status stays (`StaysClosed`), except that a cancelled transaction may still
  be refunded.

Both fail at two places. `resolve(payout)` overwrites any status outside its short list with
`TRANSFER_COMPLETED` (`domain_transfer_dispute_service.py:76-86`), also one that is final: a
dispute stays open when its transaction is meanwhile refunded, cancelled or paid out.
`sync_refund_from_razorpay` marks a transaction refunded whose payout is done.

Results:

* `closed_transfers_stay_closed`: both properties, at every commit of every run whose
  operations avoid the two places.
* `resolve_payout_reopens_refunded`: the first place, on a run.
-/

namespace Deltapreneur.Transfer

open Razorpay

/-! ## The two properties -/

/-- The two status columns agree. -/
def Transaction.Agree (tx : Transaction) : Prop :=
  (tx.transferStatus = .refunded ↔ tx.escrowStatus = .refunded) ∧
    (tx.transferStatus = .completed ↔ tx.escrowStatus = .released)

instance (tx : Transaction) : Decidable tx.Agree := inferInstanceAs (Decidable (_ ∧ _))

/-- A final status stays, except that `CANCELLED` may become `REFUNDED`. -/
def StaysClosed (s s' : TransferStatus) : Prop :=
  s.final = true → s' = s ∨ (s = .cancelled ∧ s' = .refunded)

instance (s s' : TransferStatus) : Decidable (StaysClosed s s') :=
  inferInstanceAs (Decidable (_ → _))

/-- A change of the row that keeps both properties. -/
structure Lawful (tx tx' : Transaction) : Prop where
  agree : tx'.Agree
  closed : StaysClosed tx.transferStatus tx'.transferStatus

instance (tx tx' : Transaction) : Decidable (Lawful tx tx') :=
  decidable_of_iff (tx'.Agree ∧ StaysClosed tx.transferStatus tx'.transferStatus)
    ⟨fun h => ⟨h.1, h.2⟩, fun h => ⟨h.1, h.2⟩⟩

variable {tx tx' : Transaction} {w w' : World}

theorem Lawful.refl (h : tx.Agree) : Lawful tx tx := ⟨h, fun _ => .inl rfl⟩

/-- In an agreeing row the escrow is held exactly when the transfer is neither refunded nor
completed. -/
theorem Transaction.Agree.held_iff (h : tx.Agree) :
    tx.escrowStatus = .held ↔ tx.transferStatus ≠ .refunded ∧ tx.transferStatus ≠ .completed := by
  obtain ⟨hr, hc⟩ := h
  rw [ne_eq, hr, ne_eq, hc]
  cases tx.escrowStatus <;> simp

/-! ## One lemma for each kind of change -/

theorem TransferStep.lawful (h : tx.Agree) (hs : TransferStep tx tx') : Lawful tx tx' := by
  rcases hs.status with hsame | ⟨hopen, hopen'⟩
  · refine ⟨?_, fun _ => .inl hsame⟩
    unfold Transaction.Agree
    rw [hsame, hs.escrow]
    exact h
  · refine ⟨?_, fun hf => absurd hf (by simp [hopen])⟩
    have hheld : tx'.escrowStatus = .held := by
      rw [hs.escrow, h.held_iff]
      constructor <;> (intro hst; rw [hst] at hopen; exact absurd hopen (by decide))
    unfold Transaction.Agree
    rw [hheld]
    generalize tx'.transferStatus = s at hopen'
    cases s <;> simp_all [TransferStatus.final]

/-- A change of the transfer status alone, to a status other than the two that speak about the
escrow, from a row whose transfer is not final. -/
theorem Lawful.setStatus {s : TransferStatus} (h : tx.Agree) (hopen : tx.transferStatus.final = false)
    (hr : s ≠ .refunded) (hc : s ≠ .completed) (hs : tx'.transferStatus = s)
    (he : tx'.escrowStatus = tx.escrowStatus) : Lawful tx tx' := by
  refine ⟨?_, fun hf => absurd hf (by simp [hopen])⟩
  have hheld : tx.escrowStatus = .held := by
    rw [h.held_iff]
    constructor <;> (intro hst; rw [hst] at hopen; exact absurd hopen (by decide))
  simp [Transaction.Agree, hs, he, hheld, hr, hc]

theorem Lawful.markRefunded {id : Option RefundId} (hc : tx.transferStatus ≠ .completed) :
    Lawful tx (tx.markRefunded id) := by
  refine ⟨by simp [Transaction.Agree, Transaction.markRefunded], fun hf => ?_⟩
  change TransferStatus.refunded = tx.transferStatus ∨ _
  generalize tx.transferStatus = s at hf hc
  cases s <;> simp_all [TransferStatus.final, Transaction.markRefunded]

/-- `approve_payout` on an up-to-date object. -/
theorem approvePayout_lawful {profile : Bool} {now : Time} (h : tx.Agree)
    (hok : approvePayout tx profile now = .ok tx') : Lawful tx tx' := by
  obtain ⟨-, hs, rfl⟩ := approvePayout_ok hok
  refine .setStatus (s := .payoutApproved) h ?_ (by decide) (by decide) rfl rfl
  rcases hs with hs | hs <;> rw [hs] <;> rfl

/-- `release_payout` on an up-to-date object. -/
theorem releasePayout_lawful {profile : Bool} (hok : releasePayout tx profile = .ok tx') :
    Lawful tx tx' := by
  obtain ⟨-, hs, rfl⟩ := releasePayout_ok hok
  exact ⟨by simp [Transaction.Agree], fun hf => absurd hf (by rw [hs]; decide)⟩

theorem refund_lawful {payment : Payment} {net : RefundNetwork} {existing : Option RefundId}
    (h : tx.Agree) (hok : (refund tx payment net existing).result = .ok tx') : Lawful tx tx' := by
  have hdoes := refund_does tx payment net existing
  generalize refund tx payment net existing = o at hdoes hok
  cases hdoes with
  | already id p hr =>
    cases hok
    exact ⟨h, fun _ => .inl rfl⟩
  | refused e p => cases hok
  | done id p issued hheld =>
    cases hok
    exact .markRefunded (h.held_iff.mp hheld).2
  | lost e p _ _ => cases hok

theorem resolveAdminReview_lawful {action : ReviewAction} {deadline : Time} (h : tx.Agree)
    (hok : resolveAdminReview tx action deadline = .ok tx') : Lawful tx tx' := by
  rcases resolveAdminReview_cases hok with hs | ⟨hopen, rfl⟩
  · exact hs.lawful h
  · exact .setStatus (s := .cancelled) h hopen (by decide) (by decide) rfl rfl

/-! ## Whole operations -/

/-- An operation on the transaction, run from its first read to its last commit. -/
inductive Op
  | party (call : PartyCall)
  | openDispute (buyer : UserId)
  | refund (net : RefundNetwork) (existing : Option RefundId)
  | syncRefund (reachable : Bool) (existing : Option RefundId)
  | dashboardRefund (amount : Paise)
  | resolveAdminReview (action : ReviewAction) (deadline : Time)
  | forceComplete (reason : String)
  | approvePayout (profileComplete : Bool) (now : Time)
  | releasePayout (admin : UserId) (profileComplete : Bool)
  | runTick (now : Time)
  | resolve (dispute : Nat) (resolution : Resolution) (e₁ e₂ e₃ : Segment)

/-- The steps of an operation. -/
def Op.labels : Op → List Label
  | .party call => [.party call]
  | .openDispute buyer => [.openDispute buyer]
  | .refund net existing => [.refund net existing]
  | .syncRefund reachable existing => [.syncRefund reachable existing]
  | .dashboardRefund amount => [.dashboardRefund amount]
  | .resolveAdminReview action deadline => [.resolveAdminReview action deadline]
  | .forceComplete reason => [.forceComplete reason]
  | .approvePayout profile now => [.approvePayout profile now]
  | .releasePayout admin profile => [.releasePayout admin profile]
  | .runTick now => [.tickRead 0 now, .tickWrite 0]
  | .resolve dispute resolution e₁ e₂ e₃ =>
    [.resolveRead 0 dispute resolution, .resolveCommit 0, .resolveNext 0 e₁, .resolveNext 0 e₂,
      .resolveNext 0 e₃]

/-- The state after an operation. -/
def opStep (w : World) (op : Op) : World := Run.exec step w op.labels

/-- The condition on an operation: no open dispute of a transfer that is final is resolved with a
payout, and no full refund found at Razorpay is synchronised to a completed transfer. -/
def Orderly (w : World) : Op → Prop
  | .resolve dispute .payout _ _ _ =>
    (w.disputes[dispute]?.any DisputeStatus.isOpen) = true → w.row.transferStatus.final = false
  | .syncRefund reachable existing =>
    reachable = true ∧ hasFullRefund w.payment existing = true →
      w.row.transferStatus ≠ .completed
  | _ => True

instance (w : World) : (op : Op) → Decidable (Orderly w op)
  | .resolve _ .payout _ _ _ => inferInstanceAs (Decidable (_ → _))
  | .syncRefund _ _ => inferInstanceAs (Decidable (_ → _))
  | .resolve _ .refund _ _ _ | .party _ | .openDispute _ | .refund _ _ | .dashboardRefund _
  | .resolveAdminReview _ _ | .forceComplete _ | .approvePayout _ _ | .releasePayout _ _
  | .runTick _ => .isTrue trivial

/-- Between two operations: the columns agree and no call is in flight. -/
structure Between (w : World) : Prop where
  agree : w.row.Agree
  noResolve : w.resolves 0 = .idle
  noTick : w.ticks 0 = none

/-- A step that is lawful for the row and leaves the calls in flight alone. -/
structure Atomic (w w' : World) : Prop where
  lawful : Lawful w.row w'.row
  resolves : w'.resolves = w.resolves
  ticks : w'.ticks = w.ticks

theorem Atomic.between (h : Atomic w w') (hb : Between w) : Between w' where
  agree := h.lawful.agree
  noResolve := by rw [h.resolves, hb.noResolve]
  noTick := by rw [h.ticks, hb.noTick]

theorem atomic_commit {result : Except AppException Transaction} (h : w.row.Agree)
    (hres : ∀ tx, result = .ok tx → Lawful w.row tx) : Atomic w (w.commit result) := by
  cases result with
  | ok tx => exact ⟨hres tx rfl, rfl, rfl⟩
  | error e => exact ⟨.refl h, rfl, rfl⟩

theorem atomic_commitRefund (net : RefundNetwork) (existing : Option RefundId)
    (h : w.row.Agree) :
    Atomic w (w.commitRefund w.row net existing) := by
  have hcommit : Atomic w (w.commit ((refund w.row w.payment net existing).result.map
      fun new => w.row.flush new w.row)) := by
    refine atomic_commit h fun tx htx => ?_
    cases hres : (refund w.row w.payment net existing).result with
    | ok new =>
      rw [hres] at htx
      cases htx
      simp only [Transaction.flush_fresh]
      exact refund_lawful h hres
    | error e => cases hres ▸ htx
  exact ⟨hcommit.lawful, hcommit.resolves, hcommit.ticks⟩

theorem atomic_commitRelease (admin : UserId) (profile : Bool) (h : w.row.Agree) :
    Atomic w (w.commitRelease w.row admin profile) := by
  unfold World.commitRelease
  split
  · next new hok =>
    refine ⟨?_, rfl, rfl⟩
    simp only [Transaction.flush_fresh]
    exact releasePayout_lawful hok
  · exact ⟨.refl h, rfl, rfl⟩

/-! ## `resolve`, undisturbed -/

/-- How a `resolve` stands that nothing came between: its object is the committed row, a payout
is for an open transfer, and `n` segments are left. -/
def ResolveAt.Undisturbed (row : Transaction) (n : Nat) : ResolveAt → Prop
  | .idle => True
  | .read loaded _ resolution =>
    loaded = row ∧ (resolution = .payout → row.transferStatus.final = false) ∧ n = 4
  | .resolved loaded resolution =>
    loaded = row ∧ (resolution = .payout → row.transferStatus.final = false) ∧ n = 3
  | .toApprove loaded => loaded = row ∧ n = 2
  | .toRelease loaded => loaded = row ∧ n = 1

/-- The state inside a block of `resolve` with `n` segments left, unless the call has ended. -/
structure Inside (n : Nat) (w : World) : Prop where
  agree : w.row.Agree
  call : (w.resolves 0).Undisturbed w.row n
  noTick : w.ticks 0 = none

theorem Inside.between (h : Inside 0 w) : Between w := by
  refine ⟨h.agree, ?_, h.noTick⟩
  have hcall := h.call
  cases hat : w.resolves 0 <;> simp_all [ResolveAt.Undisturbed]

theorem Inside.of_idle {n m : Nat} (h : Inside n w) (hidle : w.resolves 0 = .idle) :
    Inside m w :=
  ⟨h.agree, by rw [hidle]; trivial, h.noTick⟩

theorem Inside.advance {n : Nat} {at_ : ResolveAt} (hl : Lawful w.row w'.row)
    (hticks : w'.ticks 0 = none) (hat : at_.Undisturbed w'.row n) :
    Lawful w.row (w'.setResolve 0 at_).row ∧ Inside n (w'.setResolve 0 at_) := by
  refine ⟨hl, hl.agree, ?_, hticks⟩
  simpa only [World.setResolve, Function.update_self] using hat

theorem inside_resolveRead (dispute : Nat) (resolution : Resolution) (h : Between w)
    (hok : resolution = .payout → (w.disputes[dispute]?.any DisputeStatus.isOpen) = true →
      w.row.transferStatus.final = false) :
    Lawful w.row (step w (.resolveRead 0 dispute resolution)).row ∧
      Inside 4 (step w (.resolveRead 0 dispute resolution)) := by
  have hstay : Lawful w.row w.row ∧ Inside 4 w :=
    ⟨.refl h.agree, h.agree, by rw [h.noResolve]; trivial, h.noTick⟩
  simp only [step]
  split
  · next status _ hd =>
    split_ifs with hopen
    · refine Inside.advance (.refl h.agree) h.noTick ⟨rfl, fun hp => ?_, rfl⟩
      exact hok hp (by rw [hd]; exact hopen)
    · exact hstay
  · exact hstay

theorem inside_resolveCommit (h : Inside 4 w) :
    Lawful w.row (step w (.resolveCommit 0)).row ∧ Inside 3 (step w (.resolveCommit 0)) := by
  have hcall := h.call
  simp only [step]
  cases hat : w.resolves 0 with
  | idle => exact ⟨.refl h.agree, h.of_idle hat⟩
  | read loaded dispute resolution =>
    rw [hat] at hcall
    obtain ⟨rfl, hopen, -⟩ := hcall
    simp only [Transaction.flush_fresh]
    exact Inside.advance ⟨h.agree, fun _ => .inl rfl⟩ h.noTick ⟨rfl, hopen, rfl⟩
  | resolved loaded resolution => rw [hat] at hcall; exact absurd hcall.2.2 (by decide)
  | toApprove loaded => rw [hat] at hcall; exact absurd hcall.2 (by decide)
  | toRelease loaded => rw [hat] at hcall; exact absurd hcall.2 (by decide)

/-- The segments after the first commit. -/
theorem inside_resolveNext {n : Nat} (env : Segment) (h : Inside (n + 1) w) (hn : n < 3) :
    Lawful w.row (step w (.resolveNext 0 env)).row ∧ Inside n (step w (.resolveNext 0 env)) := by
  have hcall := h.call
  simp only [step, World.resolveNext]
  cases hat : w.resolves 0 with
  | idle => exact ⟨.refl h.agree, h.of_idle hat⟩
  | read loaded dispute resolution =>
    rw [hat] at hcall
    exact absurd hcall.2.2 (by omega)
  | resolved loaded resolution =>
    rw [hat] at hcall
    obtain ⟨rfl, hopen, hn'⟩ := hcall
    cases resolution with
    | refund =>
      have hrefund := atomic_commitRefund env.net env.existing h.agree
      exact Inside.advance hrefund.lawful (by rw [hrefund.ticks, h.noTick]) trivial
    | payout =>
      dsimp only
      split_ifs
      · exact Inside.advance (.refl h.agree) h.noTick ⟨rfl, by omega⟩
      · simp only [Transaction.flush_fresh]
        refine Inside.advance ?_ h.noTick ⟨rfl, by omega⟩
        exact .setStatus (s := .transferCompleted) h.agree (hopen rfl) (by decide) (by decide)
          rfl rfl
  | toApprove loaded =>
    rw [hat] at hcall
    obtain ⟨rfl, hn'⟩ := hcall
    dsimp only
    split
    · next new hok =>
      simp only [Transaction.flush_fresh]
      exact Inside.advance (approvePayout_lawful h.agree hok) h.noTick ⟨rfl, by omega⟩
    · exact Inside.advance (.refl h.agree) h.noTick trivial
  | toRelease loaded =>
    rw [hat] at hcall
    obtain ⟨rfl, -⟩ := hcall
    have hrelease := atomic_commitRelease env.admin env.profileComplete h.agree
    exact Inside.advance hrelease.lawful (by rw [hrelease.ticks, h.noTick]) trivial

/-! ## Every operation -/

/-- Both properties, as a relation between the states around a step. -/
def LawfulStep (w : World) (_ : Label) (w' : World) : Prop := Lawful w.row w'.row

theorem op_single {l : Label} (hb : Between w) (h : Atomic w (step w l)) :
    Run.AllSteps step LawfulStep w [l] ∧ Between (Run.exec step w [l]) :=
  ⟨⟨h.lawful, trivial⟩, h.between hb⟩

theorem op_runTick {now : Time} (hb : Between w) :
    Run.AllSteps step LawfulStep w [.tickRead 0 now, .tickWrite 0] ∧
      Between (Run.exec step w [.tickRead 0 now, .tickWrite 0]) := by
  simp only [Run.allSteps_cons, Run.exec_cons, Run.exec_nil, Run.allSteps_nil, and_true, step,
    LawfulStep]
  by_cases hd : w.row.deadlinePassed now
  · have hstep : TransferStep w.row w.row.escalate :=
      ⟨rfl, rfl, .inr ⟨by rw [hd.1]; rfl, rfl⟩⟩
    simp only [if_pos hd, Function.update_self, Transaction.flush_fresh]
    refine ⟨⟨.refl hb.agree, hstep.lawful hb.agree⟩, (hstep.lawful hb.agree).agree, hb.noResolve, ?_⟩
    simp
  · simp only [if_neg hd, hb.noTick]
    exact ⟨⟨.refl hb.agree, .refl hb.agree⟩, hb⟩

/-- **`resolve`, undisturbed.** From a state between operations, all its commits are lawful. -/
theorem resolve_lawful {dispute : Nat} {resolution : Resolution} {e₁ e₂ e₃ : Segment}
    (hb : Between w) (hok : Orderly w (.resolve dispute resolution e₁ e₂ e₃)) :
    Run.AllSteps step LawfulStep w (Op.resolve dispute resolution e₁ e₂ e₃).labels ∧
      Between (opStep w (.resolve dispute resolution e₁ e₂ e₃)) := by
  have hread := inside_resolveRead dispute resolution hb
    fun hp => by subst hp; exact hok
  have hcommit := inside_resolveCommit hread.2
  have hnext₁ := inside_resolveNext e₁ hcommit.2 (by decide)
  have hnext₂ := inside_resolveNext e₂ hnext₁.2 (by decide)
  have hnext₃ := inside_resolveNext e₃ hnext₂.2 (by decide)
  exact ⟨⟨hread.1, hcommit.1, hnext₁.1, hnext₂.1, hnext₃.1, trivial⟩, hnext₃.2.between⟩

/-- **Every orderly operation is lawful at each of its commits.** -/
theorem op_lawful (w : World) (op : Op) (hb : Between w) (hok : Orderly w op) :
    Run.AllSteps step LawfulStep w op.labels ∧ Between (Run.exec step w op.labels) := by
  cases op with
  | party call =>
    exact op_single hb (atomic_commit hb.agree fun tx htx =>
      (PartyCall.run_transfer htx).lawful hb.agree)
  | openDispute buyer =>
    refine op_single hb ?_
    simp only [step]
    split
    · next tx htx => exact ⟨(openDispute_transfer htx).lawful hb.agree, rfl, rfl⟩
    · exact ⟨.refl hb.agree, rfl, rfl⟩
  | refund net existing => exact op_single hb (atomic_commitRefund net existing hb.agree)
  | syncRefund reachable existing =>
    refine op_single hb (atomic_commit hb.agree fun tx htx => ?_)
    rcases syncRefundFromRazorpay_cases htx with rfl | ⟨hfull, rfl⟩
    · exact .refl hb.agree
    · exact .markRefunded (hok hfull)
  | dashboardRefund amount => exact op_single hb ⟨.refl hb.agree, rfl, rfl⟩
  | resolveAdminReview action deadline =>
    exact op_single hb (atomic_commit hb.agree fun tx htx => resolveAdminReview_lawful hb.agree htx)
  | forceComplete reason =>
    exact op_single hb (atomic_commit hb.agree fun tx htx =>
      (forceComplete_transfer htx).lawful hb.agree)
  | approvePayout profile now =>
    exact op_single hb (atomic_commit hb.agree fun tx htx => approvePayout_lawful hb.agree htx)
  | releasePayout admin profile => exact op_single hb (atomic_commitRelease admin profile hb.agree)
  | runTick now => exact op_runTick hb
  | resolve dispute resolution e₁ e₂ e₃ => exact resolve_lawful hb hok

/-- **Closed transfers stay closed.** In every run of whole operations from a new transaction
that avoids the two places, each commit leaves the status columns in agreement, and a final
transfer status stays, except that a cancelled transaction may be refunded. -/
theorem closed_transfers_stay_closed (listing : ListingId) (buyer seller : UserId) (gross : Paise)
    (paymentId : PaymentId) (deadline : Time) (payment : Payment) (ops : List Op)
    (h : Run.Meets opStep Orderly
      (.init (.create listing buyer seller gross paymentId deadline) payment) ops) :
    Run.AllSteps step (fun w _ w' => w'.row.Agree ∧
        StaysClosed w.row.transferStatus w'.row.transferStatus)
      (.init (.create listing buyer seller gross paymentId deadline) payment)
      (ops.flatMap Op.labels) := by
  have hinit : Between (.init (.create listing buyer seller gross paymentId deadline) payment) :=
    ⟨by simp [Transaction.Agree, World.init, Transaction.create], rfl, rfl⟩
  have hall := Run.allSteps_flatMap (R := LawfulStep) op_lawful hinit h
  rw [Run.allSteps_iff] at hall ⊢
  intro pre l post heq
  have hl := hall pre l post heq
  exact ⟨hl.agree, hl.closed⟩

/-- A dispute resolved with a payout, and a later attempt to refund. -/
def paidDisputeOps : List Op :=
  [.openDispute 1,
    .resolve 0 .payout ⟨9, 100, true, .notDelivered, none⟩ ⟨9, 100, true, .notDelivered, none⟩
      ⟨9, 100, true, .notDelivered, none⟩,
    .refund (.accepted 77) none]

theorem closed_transfers_stay_closed_paidDisputeOps :
    Run.Meets opStep Orderly (.init (.create 0 1 2 100000 5 86400) ⟨.captured, 118000, 0⟩)
        paidDisputeOps ∧
      Run.AllSteps step (fun w _ w' => w'.row.Agree ∧
          StaysClosed w.row.transferStatus w'.row.transferStatus)
        (.init (.create 0 1 2 100000 5 86400) ⟨.captured, 118000, 0⟩)
        (paidDisputeOps.flatMap Op.labels) :=
  ⟨by decide, closed_transfers_stay_closed 0 1 2 100000 5 86400 _ _ (by decide)⟩

/-- The buyer opens a dispute, the admin refunds the transaction, and later closes the dispute
that was left open with a payout. -/
def reopenedOps : List Op :=
  [.openDispute 1, .refund (.accepted 77) none,
    .resolve 0 .payout ⟨9, 100, true, .notDelivered, none⟩ ⟨9, 100, true, .notDelivered, none⟩
      ⟨9, 100, true, .notDelivered, none⟩]

/-- **A payout resolution reopens a refunded transfer.** -/
theorem resolve_payout_reopens_refunded :
    ¬ Run.AllSteps step (fun w _ w' => w'.row.Agree ∧
        StaysClosed w.row.transferStatus w'.row.transferStatus)
      (.init (.create 0 1 2 100000 5 86400) ⟨.captured, 118000, 0⟩)
      (reopenedOps.flatMap Op.labels) := by
  decide

end Deltapreneur.Transfer

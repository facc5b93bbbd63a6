import Deltapreneur.Transfer.Interleaving

/-!
# The background tick against the steps of the users

Every call of a buyer, a seller or an admin takes the transaction row `FOR UPDATE`.
`run_tick` does not: it selects the rows that wait for the auth code past the deadline
(`domain_marketplace_transaction_repository.py:113-125`) and writes
`ADMIN_REVIEW_REQUIRED` to each of them later (`domain_transfer_ops_service.py:38-43`). A step
that commits in between is overwritten.

A run is any interleaving of the steps of `Interleaving.lean`, with any number of ticks in
flight.

Results:

* `tick_overwrites_no_user_step`: in a run, no tick replaces a status that a user's step
  committed after the tick's read, exactly when every tick writes to a row that still waits.
* `tick_overwrites_submitted_code`: otherwise the seller's submission is lost.
-/

namespace Deltapreneur.Transfer

open Razorpay UnitOfWork

/-- The two statuses of a transaction that waits for the auth code: the one the tick selects and
the one it writes. -/
def TransferStatus.waiting : TransferStatus → Bool
  | .awaitingAuthCode | .adminReviewRequired => true
  | _ => false

/-- The steps of the buyer, the seller and the admin. An extension of the deadline is not among
them: it puts the transaction back to the status the tick selects. -/
def Label.isUser : Label → Bool
  | .tickRead _ _ | .tickWrite _ | .resolveAdminReview .extendDeadline _ => false
  | _ => true

/-- A user's step commits the status `s` while `job` holds the row it has read. -/
def UserCommits (job : Nat) (s : TransferStatus) (w : World) (l : Label) : Prop :=
  l.isUser = true ∧ w.ticks job ≠ none ∧
    w.row.transferStatus ≠ s ∧ (step w l).row.transferStatus = s

/-- `job` holds the row it has read, and `s` is the committed status. -/
def Stands (job : Nat) (s : TransferStatus) (w : World) : Prop :=
  w.ticks job ≠ none ∧ w.row.transferStatus = s

instance (job : Nat) (s : TransferStatus) (w : World) (l : Label) :
    Decidable (UserCommits job s w l) :=
  inferInstanceAs (Decidable (_ ∧ _ ∧ _ ∧ _))

instance (job : Nat) (s : TransferStatus) (w : World) : Decidable (Stands job s w) :=
  inferInstanceAs (Decidable (_ ∧ _))

/-- No write of a tick replaces a status that a user's step has committed since the tick's
read. -/
def KeepsUserSteps (w : World) (ls : List Label) : Prop :=
  ∀ pre job post s, ls = pre ++ .tickWrite job :: post →
    Run.Since step (UserCommits job s) (Stands job s) w pre →
    (step (Run.exec step w pre) (.tickWrite job)).row.transferStatus = s

/-- The condition on a step: a tick that writes finds the transaction still waiting. -/
def FindsWaiting (w : World) : Label → Prop
  | .tickWrite job => w.ticks job = none ∨ w.row.transferStatus.waiting = true
  | _ => True

instance (w : World) : (l : Label) → Decidable (FindsWaiting w l)
  | .tickWrite _ => inferInstanceAs (Decidable (_ ∨ _))
  | .party _ | .openDispute _ | .refund _ _ | .syncRefund _ _ | .dashboardRefund _
  | .resolveAdminReview _ _ | .forceComplete _ | .approvePayout _ _ | .releasePayout _ _
  | .tickRead _ _ | .resolveRead _ _ _ | .resolveCommit _ | .resolveNext _ _ => .isTrue trivial

variable {w : World} {tx tx' loaded new row : Transaction} {s : TransferStatus} {job : Nat}
  {l : Label} {buyer : UserId} {existing : Option RefundId}

/-! ## A user's step moves the transaction on -/

/-- The status stays, or the transaction does not wait any more. -/
def MovesOn (tx tx' : Transaction) : Prop :=
  tx'.transferStatus = tx.transferStatus ∨ tx'.transferStatus.waiting = false

theorem MovesOn.refl (tx : Transaction) : MovesOn tx tx := .inl rfl

theorem MovesOn.of_eq (h : tx'.transferStatus = s) (hs : s.waiting = false) : MovesOn tx tx' :=
  .inr (by rw [h, hs])

theorem MovesOn.flush (h : MovesOn loaded new) (row : Transaction) :
    MovesOn row (loaded.flush new row) := by
  by_cases hnew : new.transferStatus = loaded.transferStatus
  · left
    simp [Transaction.flush, hnew]
  · right
    have hwritten : (loaded.flush new row).transferStatus = new.transferStatus :=
      flushColumn_changed hnew row.transferStatus
    rw [hwritten]
    exact h.resolve_left hnew

theorem buyerStep_movesOn {allowed : List TransferStatus} {message : String}
    {update : Transaction → Transaction} (hupdate : MovesOn tx (update tx))
    (h : buyerStep tx buyer allowed message update = .ok tx') : MovesOn tx tx' := by
  simp only [buyerStep, ite_raise_eq_ok, Except.ok.injEq] at h
  obtain ⟨-, -, rfl⟩ := h
  exact hupdate

theorem verifyRevealOtp_movesOn {otp : Except AppException Unit}
    (h : verifyRevealOtp tx buyer otp = .ok tx') : MovesOn tx tx' := by
  simp only [verifyRevealOtp, ite_raise_eq_ok] at h
  obtain ⟨-, -, h⟩ := h
  cases otp with
  | error e => cases h
  | ok u =>
    dsimp only at h
    split_ifs at h
    · cases h
      exact .of_eq rfl rfl
    · cases h
      exact .refl tx

theorem PartyCall.run_movesOn {c : PartyCall} (h : c.run tx = .ok tx') : MovesOn tx tx' := by
  cases c with
  | chooseSelfTransfer buyer => exact buyerStep_movesOn (.refl tx) h
  | requestAssistance buyer => exact buyerStep_movesOn (.refl tx) h
  | verifyRevealOtp buyer otp => exact verifyRevealOtp_movesOn h
  | markTransferStarted buyer =>
    unfold PartyCall.run Transfer.markTransferStarted at h
    exact buyerStep_movesOn (.of_eq rfl rfl) h
  | confirmTransfer buyer =>
    unfold PartyCall.run Transfer.confirmTransfer at h
    exact buyerStep_movesOn (.of_eq rfl rfl) h
  | submitAuthCode seller code =>
    simp only [PartyCall.run, Transfer.submitAuthCode, ite_raise_eq_ok, Except.ok.injEq] at h
    obtain ⟨-, -, -, rfl⟩ := h
    exact .of_eq rfl rfl

theorem openDispute_movesOn {hasOpen : Bool} (h : openDispute tx buyer hasOpen = .ok tx') :
    MovesOn tx tx' := by
  simp only [openDispute, ite_raise_eq_ok, Except.ok.injEq] at h
  obtain ⟨-, -, -, rfl⟩ := h
  exact .of_eq rfl rfl

theorem resolveAdminReview_movesOn {action : ReviewAction} {deadline : Time}
    (haction : action ≠ .extendDeadline) (h : resolveAdminReview tx action deadline = .ok tx') :
    MovesOn tx tx' := by
  cases action with
  | cancel =>
    simp only [resolveAdminReview, ite_raise_eq_ok, Except.ok.injEq] at h
    obtain ⟨-, rfl⟩ := h
    exact .of_eq rfl rfl
  | refund =>
    simp only [resolveAdminReview, ite_raise_eq_ok, Except.ok.injEq] at h
    obtain ⟨-, -, rfl⟩ := h
    exact .refl tx
  | extendDeadline => exact absurd rfl haction

theorem forceComplete_movesOn {reason : String} (h : forceComplete tx reason = .ok tx') :
    MovesOn tx tx' := by
  simp only [forceComplete, ite_raise_eq_ok, Except.ok.injEq] at h
  obtain ⟨-, -, rfl⟩ := h
  exact .of_eq rfl rfl

theorem syncRefund_movesOn {payment : Payment} {reachable : Bool}
    (h : syncRefundFromRazorpay tx payment reachable existing = .ok tx') : MovesOn tx tx' := by
  rcases syncRefundFromRazorpay_cases h with rfl | ⟨-, rfl⟩
  · exact .refl tx'
  · exact .of_eq rfl rfl

theorem refund_movesOn {payment : Payment} {net : RefundNetwork}
    (h : (refund tx payment net existing).result = .ok tx') : MovesOn tx tx' := by
  have hdoes := refund_does tx payment net existing
  generalize refund tx payment net existing = o at hdoes h
  cases hdoes with
  | already id p _ =>
    cases h
    exact .inl rfl
  | refused e p => cases h
  | done id p issued _ =>
    cases h
    exact .of_eq rfl rfl
  | lost e p _ _ => cases h

/-! ## The calls as steps -/

theorem commit_movesOn {result : Except AppException Transaction}
    (h : ∀ tx, result = .ok tx → MovesOn w.row tx) : MovesOn w.row (w.commit result).row := by
  cases result with
  | ok tx => exact h tx rfl
  | error e => exact .refl w.row

theorem commitRefund_movesOn (loaded : Transaction) (net : RefundNetwork)
    (existing : Option RefundId) : MovesOn w.row (w.commitRefund loaded net existing).row := by
  refine commit_movesOn fun tx htx => ?_
  generalize hres : (refund loaded w.payment net existing).result = result at htx
  cases result with
  | error e => cases htx
  | ok new =>
    cases htx
    exact (refund_movesOn hres).flush w.row

theorem commitRelease_movesOn (loaded : Transaction) (admin : UserId) (profile : Bool) :
    MovesOn w.row (w.commitRelease loaded admin profile).row := by
  unfold World.commitRelease
  split
  · next new hok =>
    obtain ⟨-, -, rfl⟩ := releasePayout_ok hok
    exact MovesOn.flush (.of_eq rfl rfl) w.row
  · exact .refl w.row

theorem resolveNext_movesOn (w : World) (call : Nat) (env : Segment) :
    MovesOn w.row (w.resolveNext call env).row := by
  unfold World.resolveNext
  split
  · next loaded _ => exact commitRefund_movesOn loaded env.net env.existing
  · next loaded _ =>
    split_ifs
    · exact .refl w.row
    · exact MovesOn.flush (.of_eq rfl rfl) w.row
  · split
    · next new hok =>
      obtain ⟨-, -, rfl⟩ := approvePayout_ok hok
      exact MovesOn.flush (.of_eq rfl rfl) w.row
    · exact .refl w.row
  · next loaded _ => exact commitRelease_movesOn loaded env.admin env.profileComplete
  · exact .refl w.row

/-- **A user's step moves the transaction on.** -/
theorem userStep_movesOn (h : l.isUser = true) : MovesOn w.row (step w l).row := by
  cases l with
  | party call => exact commit_movesOn fun tx htx => PartyCall.run_movesOn htx
  | openDispute buyer =>
    simp only [step]
    split
    · next tx htx => exact openDispute_movesOn htx
    · exact .refl w.row
  | refund net existing => exact commitRefund_movesOn w.row net existing
  | syncRefund reachable existing => exact commit_movesOn fun tx htx => syncRefund_movesOn htx
  | dashboardRefund amount => exact .refl w.row
  | resolveAdminReview action deadline =>
    refine commit_movesOn fun tx htx => resolveAdminReview_movesOn ?_ htx
    rintro rfl
    exact absurd h Bool.false_ne_true
  | forceComplete reason => exact commit_movesOn fun tx htx => forceComplete_movesOn htx
  | approvePayout profile now =>
    refine commit_movesOn fun tx htx => ?_
    obtain ⟨-, -, rfl⟩ := approvePayout_ok htx
    exact .of_eq rfl rfl
  | releasePayout admin profile => exact commitRelease_movesOn w.row admin profile
  | tickRead job now => exact absurd h Bool.false_ne_true
  | tickWrite job => exact absurd h Bool.false_ne_true
  | resolveRead call dispute resolution =>
    simp only [step]
    split
    · split_ifs <;> exact .refl w.row
    · exact .refl w.row
  | resolveCommit call =>
    simp only [step]
    split
    · exact MovesOn.flush (.inl rfl) w.row
    · exact .refl w.row
  | resolveNext call env => exact resolveNext_movesOn w call env

/-! ## What a tick does -/

/-- Every tick in flight has read a row that awaits the auth code. -/
def TicksRead (w : World) : Prop :=
  ∀ job loaded, w.ticks job = some loaded → loaded.transferStatus = .awaitingAuthCode

theorem commit_ticks (result : Except AppException Transaction) :
    (w.commit result).ticks = w.ticks := by
  cases result <;> rfl

theorem resolveNext_ticks (w : World) (call : Nat) (env : Segment) :
    (w.resolveNext call env).ticks = w.ticks := by
  unfold World.resolveNext World.commitRelease World.commitRefund
  split
  · exact commit_ticks _
  · split_ifs <;> rfl
  · split <;> rfl
  · simp only [World.setResolve]
    split <;> rfl
  · rfl

/-- A step that is no tick's leaves the ticks in flight alone. -/
theorem step_ticks (hr : ∀ job now, l ≠ .tickRead job now) (hw : ∀ job, l ≠ .tickWrite job) :
    (step w l).ticks = w.ticks := by
  cases l with
  | tickRead job now => exact absurd rfl (hr job now)
  | tickWrite job => exact absurd rfl (hw job)
  | party call => exact commit_ticks _
  | openDispute buyer => simp only [step]; split <;> rfl
  | refund net existing => exact commit_ticks _
  | syncRefund reachable existing => exact commit_ticks _
  | dashboardRefund amount => rfl
  | resolveAdminReview action deadline => exact commit_ticks _
  | forceComplete reason => exact commit_ticks _
  | approvePayout profile now => exact commit_ticks _
  | releasePayout admin profile =>
    simp only [step, World.commitRelease]
    split <;> rfl
  | resolveRead call dispute resolution =>
    simp only [step]
    split
    · split_ifs <;> rfl
    · rfl
  | resolveCommit call => simp only [step]; split <;> rfl
  | resolveNext call env => exact resolveNext_ticks w call env

/-- A step after which `job` is in flight: it was before, or the step is its read. -/
theorem step_ticks_some (h : (step w l).ticks job = some loaded) :
    w.ticks job = some loaded ∨
      (w.row.transferStatus = .awaitingAuthCode ∧ loaded = w.row ∧ (step w l).row = w.row) := by
  by_cases hr : ∃ j now, l = .tickRead j now
  · obtain ⟨j, now, rfl⟩ := hr
    simp only [step] at h ⊢
    split_ifs at h ⊢ with hd
    · by_cases hj : job = j
      · subst hj
        simp only [Function.update_self, Option.some.injEq] at h
        exact .inr ⟨hd.1, h.symm, rfl⟩
      · simp only [Function.update_of_ne hj] at h
        exact .inl h
    · exact .inl h
  by_cases hw : ∃ j, l = .tickWrite j
  · obtain ⟨j, rfl⟩ := hw
    simp only [step] at h
    split at h
    · by_cases hj : job = j
      · subst hj
        simp only [Function.update_self] at h
        cases h
      · simp only [Function.update_of_ne hj] at h
        exact .inl h
    · exact .inl h
  · push Not at hr hw
    rw [step_ticks hr hw] at h
    exact .inl h

theorem ticksRead_step (w : World) (l : Label) (h : TicksRead w) : TicksRead (step w l) := by
  intro job loaded hj
  rcases step_ticks_some hj with hold | ⟨hs, rfl, -⟩
  · exact h job loaded hold
  · exact hs

theorem tickWrite_status (h : TicksRead w) (hj : w.ticks job = some loaded) :
    (step w (.tickWrite job)).row.transferStatus = .adminReviewRequired := by
  have hne : loaded.escalate.transferStatus ≠ loaded.transferStatus := by
    rw [h job loaded hj]
    simp [Transaction.escalate]
  simp only [step, hj]
  exact flushColumn_changed hne w.row.transferStatus

theorem tickWrite_cases (w : World) (job : Nat) :
    (step w (.tickWrite job)).row.transferStatus = w.row.transferStatus ∨
      (step w (.tickWrite job)).row.transferStatus = .adminReviewRequired := by
  simp only [step]
  split
  · next loaded _ =>
    by_cases hne : loaded.escalate.transferStatus = loaded.transferStatus
    · left
      simp [Transaction.flush, hne]
    · exact .inr (flushColumn_changed hne w.row.transferStatus)
  · exact .inl rfl

/-- Only a user's step commits a status of a transaction that does not wait. -/
theorem isUser_of_commits (hs : s.waiting = false) (hold : w.row.transferStatus ≠ s)
    (hnew : (step w l).row.transferStatus = s) : l.isUser = true := by
  by_contra hl
  cases l with
  | tickRead j now =>
    simp only [step] at hnew
    split_ifs at hnew <;> exact hold hnew
  | tickWrite j =>
    rcases tickWrite_cases w j with hsame | hreview
    · exact hold (hsame ▸ hnew)
    · obtain rfl : TransferStatus.adminReviewRequired = s := hreview ▸ hnew
      cases hs
  | resolveAdminReview action deadline =>
    cases action with
    | extendDeadline =>
      simp only [step, Transfer.resolveAdminReview] at hnew
      split_ifs at hnew
      · exact hold hnew
      · obtain rfl : TransferStatus.awaitingAuthCode = s := hnew
        cases hs
    | refund => exact hl rfl
    | cancel => exact hl rfl
  | _ => exact hl rfl

/-! ## Over a run -/

/-- A status that is committed while a tick is in flight, and that does not wait, comes from a
user's step after the tick's read. -/
theorem since_userCommits (tx : Transaction) (payment : Payment) {pre : List Label}
    (hs : s.waiting = false) (h : Stands job s (Run.exec step (.init tx payment) pre)) :
    Run.Since step (UserCommits job s) (Stands job s) (.init tx payment) pre := by
  refine Run.since_of_latch (P := Stands job s) (fun hinit => hinit.1 rfl) ?_ pre h
  intro w l hnow
  refine ⟨hnow, ?_⟩
  obtain ⟨hflight, hstatus⟩ := hnow
  obtain ⟨loaded, hloaded⟩ := Option.ne_none_iff_exists'.mp hflight
  rcases step_ticks_some hloaded with hheld | ⟨hawait, -, hrow⟩
  · have hheld' : w.ticks job ≠ none := by simp [hheld]
    by_cases hold : w.row.transferStatus = s
    · exact .inr ⟨hheld', hold⟩
    · exact .inl ⟨isUser_of_commits hs hold hstatus, hheld', hold, hstatus⟩
  · -- the read itself selects a transaction that waits
    rw [hrow, hawait] at hstatus
    subst hstatus
    cases hs

theorem not_waiting_of_since {pre : List Label}
    (h : Run.Since step (UserCommits job s) (Stands job s) w pre) :
    s.waiting = false ∧ Stands job s (Run.exec step w pre) := by
  constructor
  · obtain ⟨before, l, -, -, ⟨huser, -, hold, hnew⟩, -⟩ := h
    rcases userStep_movesOn (w := Run.exec step w before) huser with hsame | hmoved
    · exact absurd (hsame ▸ hnew) hold
    · rwa [hnew] at hmoved
  · exact Run.latch_of_since (fun _ _ _ hkeep => hkeep) (fun _ _ _ hkeep => hkeep) h

/-- **The tick and the users' steps.** In every interleaving of any number of ticks with the
steps of the buyer, the seller and the admin, no tick replaces a status that a user's step
committed after the tick had read the row, if and only if every tick that writes finds the
transaction still waiting. -/
theorem tick_overwrites_no_user_step (tx : Transaction) (payment : Payment) (ls : List Label) :
    KeepsUserSteps (.init tx payment) ls ↔ Run.Meets step FindsWaiting (.init tx payment) ls := by
  rw [Run.Meets, Run.allSteps_iff]
  constructor
  · intro hkeeps pre l post heq
    cases l with
    | tickWrite job =>
      by_contra hbad
      obtain ⟨hflight, hmoved⟩ := not_or.mp hbad
      rw [Bool.not_eq_true] at hmoved
      have hreads : TicksRead (Run.exec step (.init tx payment) pre) :=
        Run.exec_preserves ticksRead_step pre fun job loaded h => absurd h (by simp [World.init])
      obtain ⟨loaded, hloaded⟩ := Option.ne_none_iff_exists'.mp hflight
      have hkept := hkeeps pre job post _ heq (since_userCommits tx payment hmoved ⟨hflight, rfl⟩)
      rw [tickWrite_status hreads hloaded] at hkept
      rw [← hkept] at hmoved
      exact absurd hmoved (by decide)
    | _ => trivial
  · intro hmeets pre job post s heq hsince
    obtain ⟨hs, hflight, hstatus⟩ := not_waiting_of_since hsince
    rcases hmeets pre (.tickWrite job) post heq with hnone | hwaiting
    · exact absurd hnone hflight
    · rw [hstatus, hs] at hwaiting
      exact absurd hwaiting Bool.false_ne_true

/-- The tick reads the overdue transaction, the seller submits the code, the tick writes. -/
def lateCodeRun : List Label :=
  [.tickRead 0 100, .party (.submitAuthCode 2 "X7-auth"), .tickWrite 0]

/-- **The submitted code is put under review.** -/
theorem tick_overwrites_submitted_code :
    ¬ KeepsUserSteps (.init (.create 0 1 2 100000 5 60) ⟨.captured, 118000, 0⟩) lateCodeRun := by
  intro h
  have hkept := h [.tickRead 0 100, .party (.submitAuthCode 2 "X7-auth")] 0 [] .authCodeAvailable
    rfl ⟨[.tickRead 0 100], .party (.submitAuthCode 2 "X7-auth"), [], rfl, by decide, by decide⟩
  exact absurd hkept (by decide)

end Deltapreneur.Transfer

import Deltapreneur.Payout.Release

/-!
# The account a payout goes to

Approval and release each look the seller's profile up, and nothing compares the two: a release pays
to the profile as it is then. What is true of every run of approvals, releases, uploads of forms and
verifications:

* `release_iff`: whether a release commits depends on the profile only through its completeness.
* `account_step`: only a seller's own form can change the account, and a form that stands for the
  account on file leaves it.
* `payout_to_current_profile`: a committed payout refers to the seller's profile, leads back to the
  last approval of its payee, and goes to the account approved then if the forms that the seller has
  sent since stand for the account on file. A transaction still has the snapshot of that approval.
* `paid_to_another_account`: otherwise it need not.
-/

namespace Deltapreneur.Payout

open SoftwareRefunds (assertPayoutEligible)

variable {P : Platform} {d d' : Desk} {payee : Payee} {payout : SellerPayout} {user : UserId}

/-! ## Reading the tables -/

namespace Desk

/-- The account in the user's profile. -/
def account (P : Platform) (d : Desk) (user : UserId) : Option Account :=
  (d.profiles user).map P.account

/-- Whom a payout is for. -/
def seller (d : Desk) : Payee → Option UserId
  | .transaction i => (d.transactions i).map (·.sellerId)
  | .purchase i => (d.purchases i).bind fun sale => sale.software.bind (·.listedByUserId)

/-- The snapshot that the row keeps. -/
def snapshot (d : Desk) : Payee → Option Snapshot
  | .transaction i => (d.transactions i).bind (·.snapshot)
  | .purchase _ => none

/-- The payout is approved and not released. -/
def Approved (d : Desk) : Payee → Prop
  | .transaction i => ∃ tx, d.transactions i = some tx ∧ tx.transferStatus = .payoutApproved
  | .purchase i => ∃ sale, d.purchases i = some sale ∧ sale.payoutApproved = true ∧
      sale.sellerPaid = false

/-- What a release of the payout asks for. -/
def Releasable (P : Platform) (d : Desk) : Payee → Prop
  | .transaction i => ∃ tx, d.transactions i = some tx ∧ tx.transferStatus = .payoutApproved ∧
      tx.payoutApprovedAt ≠ none ∧ tx.escrowStatus = .held ∧
      P.isComplete (d.profiles tx.sellerId) = true
  | .purchase i => ∃ sale, d.purchases i = some sale ∧
      assertPayoutEligible sale.toPurchase sale.software P.requireVerification = .ok () ∧
      sale.payoutApproved = true ∧ ∃ seller, sale.software.bind (·.listedByUserId) = some seller ∧
        P.isComplete (d.profiles seller) = true

end Desk

/-- The call approves the payout, and goes through. -/
def Approves (P : Platform) (payee : Payee) (d : Desk) (e : Event) : Prop :=
  ∃ admin now d', e = .approve payee admin now ∧ d.approve P admin now payee = .ok d'

/-- The call commits the payout. -/
def Commits (P : Platform) (d : Desk) (e : Event) (payout : SellerPayout) : Prop :=
  ∃ payee order d', e = .release payee order ∧ d.release P order payee = .ok (d', payout)

/-- A form of the seller, if it goes through, stands for the account that is on file. -/
def Resubmits (P : Platform) (user : UserId) (d : Desk) : Event → Prop
  | .upsertProfile user' form nonce upload => user' = user →
      ∀ d' method, d.upsertProfile P user' form nonce upload = .ok d' →
        P.parsePayoutMethod form.payoutMethod = .ok method →
        d.account P user = some (P.submitted form nonce (d.profiles user) method)
  | _ => True

/-! ## Spec lemmas of the calls -/

theorem map_eq_ok {α β : Type} {x : Except AppException α} {f : α → β} {b : β} :
    x.map f = .ok b ↔ ∃ a, x = .ok a ∧ f a = b := by
  cases x <;> simp [Except.map]

/-- Only the row of one payout was written, and its seller is the same. -/
structure Frame (payee : Payee) (d d' : Desk) : Prop where
  profiles : d'.profiles = d.profiles
  seller : ∀ other, d'.seller other = d.seller other
  snapshot : ∀ other ≠ payee, d'.snapshot other = d.snapshot other
  approved : ∀ other ≠ payee, d'.Approved other ↔ d.Approved other

theorem frame_saveTransaction {i : TxId} {tx tx' : DomainSale} (htx : d.transactions i = some tx)
    (hseller : tx'.sellerId = tx.sellerId) :
    Frame (.transaction i) d (d.saveTransaction i tx') := by
  have hother : ∀ j, .transaction j ≠ Payee.transaction i →
      (d.saveTransaction i tx').transactions j = d.transactions j := fun j hj =>
    Function.update_of_ne (fun h => hj (congrArg _ h)) _ _
  refine ⟨rfl, fun other => ?_, fun other hne => ?_, fun other hne => ?_⟩
  · cases other with
    | transaction j =>
      by_cases hj : j = i
      · subst hj
        simp [Desk.seller, Desk.saveTransaction, htx, hseller]
      · simp [Desk.seller, Desk.saveTransaction, hj]
    | purchase j => rfl
  · cases other with
    | transaction j => simp only [Desk.snapshot, hother j hne]
    | purchase j => rfl
  · cases other with
    | transaction j => simp only [Desk.Approved, hother j hne]
    | purchase j => rfl

theorem frame_savePurchase {i : SoftwareRefunds.PurchaseId} {sale sale' : TechnologySale}
    (hsale : d.purchases i = some sale) (hsoftware : sale'.software = sale.software) :
    Frame (.purchase i) d (d.savePurchase i sale') := by
  have hother : ∀ j, .purchase j ≠ Payee.purchase i →
      (d.savePurchase i sale').purchases j = d.purchases j := fun j hj =>
    Function.update_of_ne (fun h => hj (congrArg _ h)) _ _
  refine ⟨rfl, fun other => ?_, fun other hne => ?_, fun other hne => ?_⟩
  · cases other with
    | transaction j => rfl
    | purchase j =>
      by_cases hj : j = i
      · subst hj
        simp [Desk.seller, Desk.savePurchase, hsale, hsoftware]
      · simp [Desk.seller, Desk.savePurchase, hj]
  · cases other <;> rfl
  · cases other with
    | transaction j => rfl
    | purchase j => simp only [Desk.Approved, hother j hne]

/-- The approval of a transaction captures the account in the seller's profile. -/
theorem approve_ok {admin : UserId} {now : Time} (h : d.approve P admin now payee = .ok d') :
    Frame payee d d' ∧ ∀ i, payee = .transaction i → ∃ seller, d.seller payee = some seller ∧
      (d'.snapshot payee).map (·.account) = d.account P seller := by
  cases payee with
  | transaction i =>
    unfold Desk.approve at h
    cases htx : d.transactions i with
    | none => simp [htx] at h
    | some tx =>
      simp only [htx, map_eq_ok] at h
      obtain ⟨tx', happroved, rfl⟩ := h
      obtain ⟨profile, hprofile, hsnapshot, hseller⟩ := Platform.approveDomain_ok happroved
      refine ⟨frame_saveTransaction htx hseller, fun j hj => ⟨tx.sellerId, ?_, ?_⟩⟩
      · simp [Desk.seller, htx]
      · simp [Desk.snapshot, Desk.saveTransaction, Desk.account, hsnapshot, hprofile,
          Platform.account_capture]
  | purchase i =>
    unfold Desk.approve at h
    cases hsale : d.purchases i with
    | none => simp [hsale] at h
    | some sale =>
      simp only [hsale, map_eq_ok] at h
      obtain ⟨sale', happroved, rfl⟩ := h
      exact ⟨frame_savePurchase hsale (Platform.approveTechnology_ok happroved),
        fun j hj => nomatch hj⟩

/-- A release pays the seller to the profile that is found, and ends the approval. -/
theorem release_ok {order : Order} (h : d.release P order payee = .ok (d', payout)) :
    Frame payee d d' ∧ d'.snapshot payee = d.snapshot payee ∧ d.Approved payee ∧
      ¬ d'.Approved payee ∧ payout.payee = payee ∧ d.seller payee = some payout.sellerId ∧
      ∃ profile, d.profiles payout.sellerId = some profile ∧
        payout.payoutProfileId = profile.id := by
  cases payee with
  | transaction i =>
    unfold Desk.release at h
    cases htx : d.transactions i with
    | none => simp [htx] at h
    | some tx =>
      simp only [htx, map_eq_ok] at h
      obtain ⟨⟨tx', row⟩, hreleased, heq⟩ := h
      cases heq
      obtain ⟨profile, hprofile, hstatus, hdone, hsnapshot, hseller, rfl⟩ :=
        Platform.releaseDomain_ok hreleased
      have hframe := frame_saveTransaction htx hseller
      refine ⟨⟨hframe.profiles, hframe.seller, hframe.snapshot, hframe.approved⟩, ?_,
        ⟨tx, htx, hstatus⟩, ?_, rfl, ?_, profile, hprofile, rfl⟩
      · simp [Desk.snapshot, Desk.saveTransaction, htx, hsnapshot]
      · rintro ⟨tx'', htx'', hstill⟩
        simp only [Desk.saveTransaction, Function.update_self, Option.some.injEq] at htx''
        rw [← htx'', hdone] at hstill
        cases hstill
      · simp [Desk.seller, htx, Platform.payout]
  | purchase i =>
    unfold Desk.release at h
    cases hsale : d.purchases i with
    | none => simp [hsale] at h
    | some sale =>
      simp only [hsale, map_eq_ok] at h
      obtain ⟨⟨sale', row⟩, hreleased, heq⟩ := h
      cases heq
      obtain ⟨seller, profile, hseller, hprofile, happroved, hunpaid, hpaid, hsoftware, rfl⟩ :=
        Platform.releaseTechnology_ok hreleased
      have hframe := frame_savePurchase hsale hsoftware
      refine ⟨⟨hframe.profiles, hframe.seller, hframe.snapshot, hframe.approved⟩, rfl,
        ⟨sale, hsale, happroved, hunpaid⟩, ?_, rfl, ?_, profile, hprofile, rfl⟩
      · rintro ⟨sale'', hsale'', -, hstill⟩
        simp only [Desk.savePurchase, Function.update_self, Option.some.injEq] at hsale''
        rw [← hsale'', hpaid] at hstill
        cases hstill
      · simp [Desk.seller, hsale, hseller, Platform.payout]

/-- Whether a release commits does not depend on the account in the profile. -/
theorem release_iff (order : Order) :
    (∃ r, d.release P order payee = .ok r) ↔ d.Releasable P payee := by
  cases payee with
  | transaction i =>
    cases htx : d.transactions i with
    | none => simp [Desk.release, Desk.Releasable, htx]
    | some tx =>
      simp only [Desk.release, Desk.Releasable, htx, map_eq_ok, Option.some.injEq, exists_eq_left']
      rw [← Platform.releaseDomain_iff i order]
      constructor
      · rintro ⟨_, r, hr, _⟩
        exact ⟨r, hr⟩
      · rintro ⟨r, hr⟩
        exact ⟨_, r, hr, rfl⟩
  | purchase i =>
    cases hsale : d.purchases i with
    | none => simp [Desk.release, Desk.Releasable, hsale]
    | some sale =>
      simp only [Desk.release, Desk.Releasable, hsale, map_eq_ok, Option.some.injEq,
        exists_eq_left']
      rw [← Platform.releaseTechnology_iff i order]
      constructor
      · rintro ⟨_, r, hr, _⟩
        exact ⟨r, hr⟩
      · rintro ⟨r, hr⟩
        exact ⟨_, r, hr, rfl⟩

/-! ## One call -/

theorem committed_cases (result : Except AppException Desk) :
    result = .ok (d.committed result) ∨ d.committed result = d := by
  cases result with
  | ok d' => exact .inl rfl
  | error e => exact .inr rfl

/-- Everything a call can do: nothing, an approval, a release, or a write of one profile. -/
theorem step_cases (e : Event) : d.step P e = d ∨
    (∃ payee admin now, e = .approve payee admin now ∧
      d.approve P admin now payee = .ok (d.step P e)) ∨
    (∃ payee order payout, e = .release payee order ∧
      d.release P order payee = .ok (d.step P e, payout)) ∨
    (∃ user form nonce upload, e = .upsertProfile user form nonce upload ∧
      d.upsertProfile P user form nonce upload = .ok (d.step P e)) ∨
    ∃ user admin now, e = .adminVerify user admin now ∧
      d.adminVerify user admin now = .ok (d.step P e) := by
  cases e with
  | approve payee admin now =>
    obtain hok | hsame := committed_cases (d := d) (d.approve P admin now payee)
    · exact .inr (.inl ⟨payee, admin, now, rfl, hok⟩)
    · exact .inl hsame
  | release payee order =>
    obtain hok | hsame := committed_cases (d := d) ((d.release P order payee).map Prod.fst)
    · obtain ⟨⟨d', payout⟩, hrelease, hd'⟩ := map_eq_ok.mp hok
      refine .inr (.inr (.inl ⟨payee, order, payout, rfl, ?_⟩))
      rw [hrelease]
      exact congrArg Except.ok (Prod.ext hd' rfl)
    · exact .inl hsame
  | upsertProfile user form nonce upload =>
    obtain hok | hsame := committed_cases (d := d) (d.upsertProfile P user form nonce upload)
    · exact .inr (.inr (.inr (.inl ⟨user, form, nonce, upload, rfl, hok⟩)))
    · exact .inl hsame
  | adminVerify user admin now =>
    obtain hok | hsame := committed_cases (d := d) (d.adminVerify user admin now)
    · exact .inr (.inr (.inr (.inr ⟨user, admin, now, rfl, hok⟩)))
    · exact .inl hsame

theorem saveProfile_rows (user : UserId) (profile : Profile) (payee : Payee) :
    (d.saveProfile user profile).seller payee = d.seller payee ∧
      (d.saveProfile user profile).snapshot payee = d.snapshot payee ∧
      ((d.saveProfile user profile).Approved payee ↔ d.Approved payee) := by
  cases payee with
  | transaction i => exact ⟨rfl, rfl, Iff.rfl⟩
  | purchase i => exact ⟨rfl, rfl, Iff.rfl⟩

/-- What one call does to the rows of a payout. -/
theorem step_rows (e : Event) (payee : Payee) :
    (d.step P e).seller payee = d.seller payee ∧
      (Approves P payee d e ∨ (d.step P e).snapshot payee = d.snapshot payee ∧
        ((d.step P e).Approved payee → d.Approved payee)) := by
  obtain hsame | ⟨payee', admin, now, rfl, hok⟩ | ⟨payee', order, payout, rfl, hok⟩ |
    ⟨user, form, nonce, upload, rfl, hok⟩ | ⟨user, admin, now, rfl, hok⟩ := step_cases (P := P) e
  · rw [hsame]
    exact ⟨rfl, .inr ⟨rfl, id⟩⟩
  · obtain ⟨hframe, -⟩ := approve_ok hok
    refine ⟨hframe.seller payee, ?_⟩
    by_cases hpayee : payee = payee'
    · subst hpayee
      exact .inl ⟨admin, now, _, rfl, hok⟩
    · exact .inr ⟨hframe.snapshot payee hpayee, (hframe.approved payee hpayee).mp⟩
  · obtain ⟨hframe, hsnapshot, happroved, hdone, -⟩ := release_ok hok
    refine ⟨hframe.seller payee, .inr ?_⟩
    by_cases hpayee : payee = payee'
    · subst hpayee
      exact ⟨hsnapshot, fun h => absurd h hdone⟩
    · exact ⟨hframe.snapshot payee hpayee, (hframe.approved payee hpayee).mp⟩
  · obtain ⟨profile, -, hprofile⟩ := map_eq_ok.mp hok
    obtain ⟨hseller, hsnapshot, happroved⟩ := saveProfile_rows (d := d) user profile payee
    rw [← hprofile]
    exact ⟨hseller, .inr ⟨hsnapshot, happroved.mp⟩⟩
  · obtain ⟨profile, -, hprofile⟩ := map_eq_ok.mp hok
    obtain ⟨hseller, hsnapshot, happroved⟩ := saveProfile_rows (d := d) user profile payee
    rw [← hprofile]
    exact ⟨hseller, .inr ⟨hsnapshot, happroved.mp⟩⟩

theorem account_of_profiles (h : d'.profiles = d.profiles) : d'.account P user = d.account P user := by
  rw [Desk.account, h, Desk.account]

/-- Only the user's own form can change the account, and one that stands for the account on file
does not. -/
theorem account_step (e : Event) (h : Resubmits P user d e) :
    (d.step P e).account P user = d.account P user := by
  obtain hsame | ⟨payee, admin, now, rfl, hok⟩ | ⟨payee, order, payout, rfl, hok⟩ |
    ⟨user', form, nonce, upload, rfl, hok⟩ | ⟨user', admin, now, rfl, hok⟩ := step_cases (P := P) e
  · rw [hsame]
  · exact account_of_profiles (approve_ok hok).1.profiles
  · exact account_of_profiles (release_ok hok).1.profiles
  · obtain ⟨profile, hprofile, hsaved⟩ := map_eq_ok.mp hok
    rw [← hsaved]
    by_cases huser : user' = user
    · subst huser
      obtain ⟨method, hmethod, haccount⟩ := Platform.upsertProfile_ok hprofile
      rw [h rfl _ method hok hmethod, ← haccount]
      simp [Desk.account, Desk.saveProfile]
    · simp [Desk.account, Desk.saveProfile, Function.update_of_ne (Ne.symm huser)]
  · obtain ⟨profile, hprofile, hsaved⟩ := map_eq_ok.mp hok
    rw [← hsaved]
    by_cases huser : user' = user
    · subst huser
      obtain ⟨before, hbefore, haccount⟩ := Platform.adminVerify_ok (P := P) hprofile
      simp [Desk.account, Desk.saveProfile, hbefore, haccount]
    · simp [Desk.account, Desk.saveProfile, Function.update_of_ne (Ne.symm huser)]

/-! ## Whole runs -/

/-- No payout is waiting for its release. -/
def Desk.NothingApproved (d : Desk) : Prop := ∀ payee, ¬ d.Approved payee

/-- The profile that a committed payout refers to, and the approval it leads back to. -/
structure PaidTo (P : Platform) (d : Desk) (events pre : List Event) (approval : Event)
    (post : List Event) (payout : SellerPayout) (profile : Profile) : Prop where
  found : (Run.exec (Desk.step P) d events).profiles payout.sellerId = some profile
  refersTo : payout.payoutProfileId = profile.id
  complete : P.isComplete (some profile) = true
  split : events = pre ++ approval :: post
  approved : Approves P payout.payee (Run.exec (Desk.step P) d pre) approval
  last : Run.Meets (Desk.step P) (fun d e => ¬ Approves P payout.payee d e)
    (Run.exec (Desk.step P) d (pre ++ [approval])) post
  recorded : ∀ i, payout.payee = .transaction i →
    ((Run.exec (Desk.step P) d events).snapshot payout.payee).map (·.account) =
      (Run.exec (Desk.step P) d pre).account P payout.sellerId
  kept : Run.Meets (Desk.step P) (Resubmits P payout.sellerId)
      (Run.exec (Desk.step P) d (pre ++ [approval])) post →
    some (P.account profile) = (Run.exec (Desk.step P) d pre).account P payout.sellerId

theorem seller_run (events : List Event) (payee : Payee) :
    (Run.exec (Desk.step P) d events).seller payee = d.seller payee :=
  Run.exec_preserves (P := fun d' : Desk => d'.seller payee = d.seller payee)
    (fun _ e h => (step_rows e payee).1.trans h) events rfl

theorem exists_approval (hstart : d.NothingApproved) (events : List Event)
    (h : (Run.exec (Desk.step P) d events).Approved payee) :
    ∃ pre approval post, events = pre ++ approval :: post ∧
      Approves P payee (Run.exec (Desk.step P) d pre) approval ∧
      Run.Meets (Desk.step P) (fun d e => ¬ Approves P payee d e)
        (Run.exec (Desk.step P) d (pre ++ [approval])) post :=
  Run.exists_last_event (P := fun d : Desk => d.Approved payee) (hstart payee)
    (fun _ e hafter => (step_rows e payee).2.imp id fun h => h.2 hafter) events h

theorem complete_of_releasable (h : d.Releasable P payee) (hseller : d.seller payee = some user) :
    P.isComplete (d.profiles user) = true := by
  cases payee with
  | transaction i =>
    obtain ⟨tx, htx, -, -, -, hcomplete⟩ := h
    simp only [Desk.seller, htx, Option.map_some, Option.some.injEq] at hseller
    rwa [← hseller]
  | purchase i =>
    obtain ⟨sale, hsale, -, -, seller, hlisted, hcomplete⟩ := h
    simp only [Desk.seller, hsale, Option.bind_some, hlisted, Option.some.injEq] at hseller
    rwa [← hseller]

theorem approves_step {e : Event} (h : Approves P payee d e)
    (hseller : d.seller payee = some user) :
    (d.step P e).account P user = d.account P user ∧ ∀ i, payee = .transaction i →
      ((d.step P e).snapshot payee).map (·.account) = d.account P user := by
  obtain ⟨admin, now, d', rfl, hok⟩ := h
  have hstep : d.step P (.approve payee admin now) = d' := by
    rw [Desk.step, hok, Desk.committed]
  obtain ⟨hframe, hcaptured⟩ := approve_ok hok
  rw [hstep]
  refine ⟨account_of_profiles hframe.profiles, fun i hi => ?_⟩
  obtain ⟨seller, hseller', hsnapshot⟩ := hcaptured i hi
  rw [hseller, Option.some.injEq] at hseller'
  rw [hsnapshot, hseller']

/-- For every run from tables in which no payout is approved: a release at its end commits exactly
when the payout is approved, still eligible and the profile complete, whatever the account in it;
and the payout it commits goes to the seller's profile as it is then. -/
theorem payout_to_current_profile (hstart : d.NothingApproved) (events : List Event) :
    (∀ payee order, (∃ r, (Run.exec (Desk.step P) d events).release P order payee = .ok r) ↔
      (Run.exec (Desk.step P) d events).Releasable P payee) ∧
    ∀ e payout, Commits P (Run.exec (Desk.step P) d events) e payout →
      ∃ pre approval post profile, PaidTo P d events pre approval post payout profile := by
  refine ⟨fun _ order => release_iff order, ?_⟩
  rintro e payout ⟨payee, order, d', rfl, hrelease⟩
  have hreleasable := (release_iff order).mp ⟨_, hrelease⟩
  obtain ⟨-, -, happroved, -, rfl, hseller, profile, hprofile, hid⟩ := release_ok hrelease
  obtain ⟨pre, approval, post, hsplit, happroves, hlast⟩ := exists_approval hstart events happroved
  have hthen : (Run.exec (Desk.step P) d pre).seller payout.payee = some payout.sellerId := by
    rw [seller_run, ← seller_run (P := P) events, hseller]
  obtain ⟨haccount, hcaptured⟩ := approves_step happroves hthen
  have hexec : Run.exec (Desk.step P) d events =
      Run.exec (Desk.step P) (Run.exec (Desk.step P) d (pre ++ [approval])) post := by
    rw [hsplit, ← Run.exec_append, List.append_assoc]
    rfl
  have hafter : Run.exec (Desk.step P) d (pre ++ [approval]) =
      (Run.exec (Desk.step P) d pre).step P approval := by
    rw [Run.exec_append]
    rfl
  refine ⟨pre, approval, post, profile, hprofile, hid, ?_, hsplit, happroves, hlast, ?_, ?_⟩
  · rw [← hprofile]
    exact complete_of_releasable hreleasable hseller
  · intro i hi
    rw [← hcaptured i hi, hexec, ← hafter]
    exact congrArg _ (Run.exec_inv (P := fun d' : Desk => d'.snapshot payout.payee =
        (Run.exec (Desk.step P) d (pre ++ [approval])).snapshot payout.payee)
      (fun _ e h hno => ((step_rows e _).2.resolve_left hno).1.trans h) rfl hlast)
  · intro hkept
    rw [← haccount, ← hafter]
    have hsame := Run.exec_inv (P := fun d' : Desk => d'.account P payout.sellerId =
        (Run.exec (Desk.step P) d (pre ++ [approval])).account P payout.sellerId)
      (fun _ e h hresubmits => (account_step e hresubmits).trans h) rfl hkept
    rw [← hexec, Desk.account, hprofile] at hsame
    exact hsame

/-! ## A change of account in between -/

section Example

/-- The character tables of ASCII, and a cipher that only marks its tokens. -/
def plain : Platform where
  isSpace := Char.isWhitespace
  upper := List.map Char.toUpper
  encrypt _ t := 'g' :: t
  decrypt
    | 'g' :: t => some t
    | _ => none
  requireVerification := true

def sellersProfile : Profile where
  id := 7
  userId := 1
  payoutMethod := .bankAccount
  accountHolderName := some "Asha Rao".toList
  bankName := some "State Bank".toList
  accountNumber := some "111122223333".toList
  accountNumberLast4 := some "3333".toList
  bankAccountNumberEncrypted := some "g111122223333".toList
  bankIfsc := some "SBIN0001234".toList
  upiIdEncrypted := none
  kycStatus := .verified
  kycDocumentStorageKey := none
  beneficiaryValidatedAt := some 5
  beneficiaryValidationRef := some 9
  isComplete := true

/-- A transfer that is done, and a purchase that is paid, of one seller. -/
def sellersDesk : Desk where
  profiles user := if user = 1 then some sellersProfile else none
  nextProfile := 8
  transactions i :=
    if i = 1 then some
      { Transfer.Transaction.create 1 2 1 100000 1 50 with
        transferStatus := .transferCompleted
        sellerPayoutInr := 900
        payoutProfileId := none
        payoutApprovedBy := none
        sellerPaidAt := none
        snapshot := none }
    else none
  purchases i :=
    if i = 2 then some
      { razorpayOrderId := 3, buyerId := 2, selectedPlan := none, paymentStatus := .completed
        razorpayPaymentId := some 4, razorpayRefundId := none, sellerPaid := false
        softwareId := 5, grossAmountInr := 500, refundCompleted := false, payoutApproved := false
        software := some ⟨some 1, false, true, .oneTime, .available⟩
        sellerPayoutInr := 450, payoutApprovedBy := none }
    else none
  payouts := []

/-- The seller enters another account. -/
def otherAccount : Form where
  payoutMethod := "BANK_ACCOUNT".toList
  accountHolderName := some "Asha Rao".toList
  bankName := some "Other Bank".toList
  bankAccountNumber := some "999988887777".toList
  confirmBankAccountNumber := some "999988887777".toList
  bankIfsc := some "HDFC0004321".toList
  upiId := none

def someOrder : Order := ⟨9, "MANUAL".toList, none, none, 30⟩

/-- Both payouts are approved, then the seller changes the account. -/
def approvedThenChanged : List Event :=
  [.approve (.transaction 1) 9 10, .approve (.purchase 2) 9 11,
    .upsertProfile 1 otherAccount 0 none]

/-- Both are released all the same, to an account nobody approved. -/
theorem paid_to_another_account :
    let paid := Run.exec (Desk.step plain) sellersDesk
      (approvedThenChanged ++ [.release (.transaction 1) someOrder, .release (.purchase 2) someOrder])
    let approved := Run.exec (Desk.step plain) sellersDesk (approvedThenChanged.take 2)
    paid.payouts.map (fun payout => (payout.payee, payout.sellerId, payout.payoutProfileId)) =
        [(.purchase 2, 1, 7), (.transaction 1, 1, 7)] ∧
      paid.account plain 1 ≠ approved.account plain 1 ∧
      paid.account plain 1 ≠ (paid.snapshot (.transaction 1)).map (·.account) := by
  decide +kernel

theorem nothingApproved_sellersDesk : sellersDesk.NothingApproved := by
  rintro (i | i) h
  · obtain ⟨tx, htx, hstatus⟩ := h
    simp only [sellersDesk] at htx
    split at htx
    · cases htx
      cases hstatus
    · cases htx
  · obtain ⟨sale, hsale, happroved, -⟩ := h
    simp only [sellersDesk] at hsale
    split at hsale
    · cases hsale
      cases happroved
    · cases hsale

/-- The seller corrects the name of the bank and does not enter the number of the account. -/
def sameAccount : Form :=
  { otherAccount with
    bankName := some "State Bank of India".toList
    bankAccountNumber := none
    confirmBankAccountNumber := none
    bankIfsc := some "SBIN0001234".toList }

/-- The transfer's payout is approved before that. -/
def approvedThenResubmitted : List Event :=
  [.approve (.transaction 1) 9 10, .upsertProfile 1 sameAccount 0 none]

/-- The profile changes, and the payout goes to the account that was approved. -/
theorem payout_to_current_profile_unchanged :
    let done := Run.exec (Desk.step plain) sellersDesk approvedThenResubmitted
    (done.profiles 1).bind (·.bankName) = some "State Bank of India".toList ∧
      done.account plain 1 = sellersDesk.account plain 1 ∧
      ∃ payout pre approval post profile, PaidTo plain sellersDesk approvedThenResubmitted pre
        approval post payout profile := by
  have hreleasable : (Run.exec (Desk.step plain) sellersDesk
      approvedThenResubmitted).Releasable plain (.transaction 1) :=
    ⟨_, rfl, rfl, by decide +kernel, rfl, by decide +kernel⟩
  obtain ⟨⟨d', payout⟩, hrelease⟩ := (release_iff someOrder).mpr hreleasable
  exact ⟨by decide +kernel, by decide +kernel, payout,
    (payout_to_current_profile nothingApproved_sellersDesk approvedThenResubmitted).2 _ payout
      ⟨_, _, _, rfl, hrelease⟩⟩

end Example

end Deltapreneur.Payout

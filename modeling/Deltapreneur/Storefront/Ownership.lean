import Deltapreneur.Storefront.Desk

/-!
# Whose domain a provider id is

Five paths write `open_provider_domain_id`: the answer to `register_domain`, a link before the check
and one after it, the answer to `transfer_domain`, and the adoption of what the registrar has under
the name of a transfer. The links ask `decide_provider_link`; the adoption asks nothing.

* The registrar gives a new record an id that was not in use (`Desk.NewRecord`).
* `Act.adopts` is the id that a visit adopts.

Results:

* `run_provenance`: how a visit comes by the id it leaves in the row.
* `domains_owned`: in every run in which an adoption finds only a record that a call for the same
  order created, and no other order holds, every id is the order's own.
* `transfer_adopts_foreign_domain`: otherwise the transfer of a name that another customer has
  registered gets that customer's domain.
-/

namespace Deltapreneur.Storefront

open Registration (RegistrationId)
open Run

/-- The record that a call created. -/
def Event.created : Event → Option ProviderDomainId
  | .register _ reply => reply.created
  | .transfer _ reply => reply.created
  | _ => none

namespace Desk

/-- A call made for the order created the record. -/
def Called (w : Desk) (id : RegistrationId) (d : ProviderDomainId) : Prop :=
  ∃ e ∈ w.log, e.calledFor = some id ∧ e.created = some d

/-- The record is the order's: a call for it created the record, or the link was decided. -/
def Given (w : Desk) (id : RegistrationId) (d : ProviderDomainId) : Prop :=
  w.Called id d ∨ .link id d ∈ w.log

/-- An order that is submitted or active holds a domain of its own, and two buyers never hold the
same one. -/
def Owned (w : Desk) : Prop :=
  (∀ o ∈ w.orders, ∀ d, o.openProviderDomainId = some d →
    (o.status = .registrationPending ∨ o.status = .active) → w.Given o.id d) ∧
  ∀ o ∈ w.orders, ∀ o' ∈ w.orders, o.buyerId ≠ o'.buyerId → ∀ d,
    o.openProviderDomainId = some d → o'.openProviderDomainId ≠ some d

/-- The id was not in use. -/
def NewRecord (w : Desk) (d : ProviderDomainId) : Prop :=
  (∀ e ∈ w.log, e.created ≠ some d) ∧ ∀ o ∈ w.orders, o.openProviderDomainId ≠ some d

/-- The registrar creates records under new ids. -/
def NewRecords (c : Config) (w : Desk) : Op → Prop
  | .visit id act => ∀ o, Table.lookup Order.id id w.orders = some o →
    ∀ e ∈ (act.run c (w.holders id) o).2, ∀ d, e.created = some d → w.NewRecord d
  | _ => True

end Desk

/-- The id that `_provision_transfer` takes over from a lookup. -/
def TransferAnswers.adopted (t : TransferAnswers) (o : Order) : Option ProviderDomainId :=
  match o.openProviderDomainId, t.found with
  | none, .ok d => d
  | _, _ => none

/-- The id that a visit takes over. -/
def Act.adopts (o : Order) : Act → Option ProviderDomainId
  | .verifyTransfer payment valid t _ =>
    if o.razorpayPaymentId ≠ some payment ∧ valid = true then t.adopted o else none
  | .transferReconcile t _ =>
    if o.status = .paymentCompleted ∧ o.transferStatus = .pending ∧ o.paid = true then t.adopted o
    else none
  | _ => none

/-- What is adopted was created for the order, and no other order holds it. -/
def Desk.AdoptsOwn (w : Desk) : Op → Prop
  | .visit id act => ∀ o, Table.lookup Order.id id w.orders = some o → ∀ d, act.adopts o = some d →
    w.Called id d ∧ w.holders id d = []
  | _ => True

/-! ## How an id comes into a row -/

/-- How the id in the row comes about. -/
inductive Provenance (others : Holders) (o : Order) (adopts : Option ProviderDomainId)
    (r : Result) : Prop
  | kept (hid : r.1.openProviderDomainId = o.openProviderDomainId)
  | linked (d : ProviderDomainId) (hothers : others d = [])
      (hid : r.1.openProviderDomainId = some d) (he : .link o.id d ∈ r.2)
  | called (d : ProviderDomainId) (e : Event) (he : e ∈ r.2) (hfor : e.calledFor = some o.id)
      (hcreated : e.created = some d) (hid : r.1.openProviderDomainId = some d)
  | adopted (d : ProviderDomainId) (hadopts : adopts = some d)
      (hid : r.1.openProviderDomainId = some d)

variable {c : Config} {others : Holders} {w : Desk} {act : Act} {o o₁ failed : Order} {op : Op}
  {a : Answers} {answer : Option Bool} {r : Result} {left : Left} {t : TransferAnswers}
  {p : Razorpay.Payment} {payment : PaymentId} {valid : Bool}
  {adopts : Option ProviderDomainId} {d : ProviderDomainId}

theorem created_of_told {reply : CallReply} (h : reply.told = some d) : reply.created = some d := by
  cases reply with
  | accepted id named =>
    cases named with
    | false => cases h
    | true => exact h
  | lost id err => cases h
  | rejected err => cases h

theorem Provenance.of_eq (h : Provenance others o₁ adopts r) (hid : o₁.id = o.id)
    (hd : o₁.openProviderDomainId = o.openProviderDomainId) : Provenance others o adopts r := by
  cases h with
  | kept h => exact .kept (h.trans hd)
  | linked d hothers h he => exact .linked d hothers h (hid ▸ he)
  | called d e he hfor hcreated h => exact .called d e he (hid ▸ hfor) hcreated h
  | adopted d hadopts h => exact .adopted d hadopts h

theorem Provenance.after {o' : Order} (h : Provenance others o adopts r)
    (hd : o'.openProviderDomainId = r.1.openProviderDomainId) :
    Provenance others o adopts (o', r.2) := by
  cases h with
  | kept h => exact .kept (hd.trans h)
  | linked d hothers h he => exact .linked d hothers (hd.trans h) he
  | called d e he hfor hcreated h => exact .called d e he hfor hcreated (hd.trans h)
  | adopted d hadopts h => exact .adopted d hadopts (hd.trans h)

theorem SameDomain.provenance {o' : Order} (h : SameDomain o o') {es : List Event} :
    Provenance others o adopts (o', es) := .kept h.domain

theorem Does.provenance (h : Does others a o r) : Provenance others o adopts r := by
  obtain ⟨-, -, hout⟩ := h
  obtain ⟨o', es⟩ := r
  cases hout with
  | kept hid => exact .kept hid
  | linked d _ hothers hid => exact .linked d hothers hid List.mem_cons_self
  | registered called hcalled hid =>
    cases htold : a.register.told with
    | none =>
      rw [htold, Option.none_or] at hid
      exact .kept hid
    | some d =>
      rw [htold, Option.some_or] at hid
      exact .called d _ List.mem_cons_self (congrArg some hcalled.id) (created_of_told htold) hid

theorem provisionOrder_provenance
    (hfailed : failed.openProviderDomainId = o.openProviderDomainId) :
    Provenance others o adopts ((provisionOrder others a o).getD (failed, [])) := by
  rcases provisionOrder_cases others a o failed with ⟨-, heq⟩ | ⟨-, heq⟩ | ⟨-, -, hdoes⟩
  · rw [heq]
    exact .kept hfailed
  · rw [heq]
    exact .kept rfl
  · exact hdoes.provenance

theorem Submission.provenance (h : Submission c t p o left) :
    Provenance others o (t.adopted o) left.result := by
  cases h with
  | untouched h => exact .kept rfl
  | adopted d h =>
    rcases h with h | ⟨hnone, hfound⟩
    · exact .kept h.symm
    · exact .adopted d (by simp [TransferAnswers.adopted, hnone, hfound]) rfl
  | accepted handle id named hid ht =>
    cases htold : t.transfer.told with
    | none => exact .kept hid.symm
    | some d => exact .called d _ List.mem_cons_self rfl (created_of_told htold) rfl
  | unsent raw hid => exact .kept (handleFailure_keeps _ _ _ _ _).2
  | refused handle raw hid ht => exact .kept (handleFailure_keeps _ _ _ _ _).2

theorem verifyAndProvision_provenance {paymentId : Option PaymentId} :
    Provenance others o none (verifyAndProvision others a paymentId valid answer o) := by
  unfold verifyAndProvision
  split_ifs
  · exact .kept rfl
  · exact sync_same.provenance
  · exact provisionOrder_provenance rfl
  · cases paymentId with
    | none => exact .kept rfl
    | some payment =>
      unfold checkSignature
      dsimp only
      split_ifs
      · exact .kept rfl
      · have hprov : ∀ x : Order, Provenance others x none (provisionOrFail others a x) :=
          fun x => provisionOrder_provenance rfl
        exact (hprov { o.paidBy payment with status := .paymentCompleted }).of_eq rfl rfl

theorem completePaymentFromWebhook_provenance :
    Provenance others o none
      (completePaymentFromWebhook c others a t answer o.isTransfer payment p o).result := by
  unfold completePaymentFromWebhook
  split_ifs with hdone hother hreconcile ht
  · exact .kept rfl
  · exact .kept rfl
  · exact .kept openProviderDomainId_sync
  · -- A transfer has taken the reconciling branch.
    exact absurd (.inl ⟨ht, .inl ht⟩) hreconcile
  · have hprov : Provenance others (o.paidBy payment).recovered none
        ((provisionOrder others a (o.paidBy payment).recovered).getD (o, [])) :=
      provisionOrder_provenance rfl
    split
    · next o' events heq =>
      rw [heq] at hprov
      exact hprov.of_eq rfl rfl
    · exact .kept rfl

theorem retryProvision_provenance : Provenance others o adopts (retryProvision others a o) :=
  provisionOrder_provenance rfl

theorem runProvisionRetry_provenance :
    Provenance others o adopts (runProvisionRetry c others a o) := by
  unfold runProvisionRetry
  split_ifs
  · exact sync_same.provenance
  · exact retryProvision_provenance
  · exact .kept rfl

theorem recoverStale_provenance {aged : Bool} :
    Provenance others o adopts (recoverStale others a aged answer o) := by
  unfold recoverStale
  split_ifs
  · exact sync_same.provenance
  · exact .kept openProviderDomainId_sync
  · have hprov : Provenance others o adopts (retryProvision others a o) :=
      retryProvision_provenance
    unfold recoverAfterRetry
    split_ifs
    · exact hprov.after openProviderDomainId_sync
    · exact hprov.after rfl
    · exact hprov
  · exact .kept rfl

theorem completeDomainRegistration_provenance :
    Provenance others o adopts (completeDomainRegistration others a payment o) := by
  unfold completeDomainRegistration
  generalize hx : ({ o.paidBy payment with status := _ } : Order) = x
  have hxid : x.id = o.id := by
    rw [← hx]
    rfl
  have hxd : x.openProviderDomainId = o.openProviderDomainId := by
    rw [← hx]
    rfl
  dsimp only
  split_ifs
  · exact .kept hxd
  · exact (provisionOrder_provenance openProviderDomainId_unlessInFlight).of_eq hxid hxd

theorem provisionPendingOrder_provenance :
    Provenance others o adopts (provisionPendingOrder others a payment o) := by
  unfold provisionPendingOrder
  split_ifs
  · exact .kept rfl
  · have hfailed : (o.unlessInFlight .provisionFailed).openProviderDomainId =
        (o.paidBy payment).recovered.openProviderDomainId := openProviderDomainId_unlessInFlight
    exact (provisionOrder_provenance hfailed).of_eq rfl rfl

theorem verifyTransferPayment_provenance :
    Provenance others o (Act.adopts o (.verifyTransfer payment valid t p))
      (verifyTransferPayment c t payment valid p o).result := by
  unfold verifyTransferPayment
  split_ifs with hsame hvalid
  · exact .kept rfl
  · exact .kept rfl
  · have hadopts : Act.adopts o (.verifyTransfer payment valid t p) =
        t.adopted { o.paidBy payment with status := .paymentCompleted } :=
      if_pos ⟨hsame, by simpa using hvalid⟩
    rw [hadopts]
    exact (provisionTransfer_does c t p
      { o.paidBy payment with status := .paymentCompleted }).provenance.of_eq rfl rfl

theorem transferReconcile_provenance :
    Provenance others o (Act.adopts o (.transferReconcile t p))
      (transferReconcile c t p o).result := by
  unfold transferReconcile
  split_ifs with hselected
  · have hadopts : Act.adopts o (.transferReconcile t p) = t.adopted o :=
      if_pos ⟨hselected.1, hselected.2.1, hselected.2.2.1⟩
    rw [hadopts]
    exact (provisionTransfer_does c t p o).provenance
  · exact .kept rfl

/-- **How a visit comes by the id it leaves in the row.** -/
theorem run_provenance (c : Config) (others : Holders) (act : Act) (o : Order) :
    Provenance others o (act.adopts o) (act.run c others o) := by
  cases act with
  | verifyAndProvision paymentId valid sync a => exact verifyAndProvision_provenance
  | paymentCaptured payment sync a t p => exact completePaymentFromWebhook_provenance
  | retryProvision a => exact retryProvision_provenance
  | adminRetry a => exact retryProvision_provenance
  | runProvisionRetry a => exact runProvisionRetry_provenance
  | recoverStale a aged sync => exact recoverStale_provenance
  | cartVerify payment a => exact completeDomainRegistration_provenance
  | cartRecover payment a => exact provisionPendingOrder_provenance
  | pendingReconcile sync => exact pendingReconcile_same.provenance
  | pageSync sync => exact sync_same.provenance
  | callback status =>
    show Provenance _ _ _ (if o.openProviderDomainId.isSome then _ else o, [])
    split_ifs
    · exact openproviderCallback_same.provenance
    · exact .kept rfl
  | paymentFailed => exact paymentFailed_same.provenance
  | refundProcessed id => exact .kept rfl
  | adminRefund net p => exact (adminRefund_same net p).provenance
  | expireStale aged => exact expireStale_same.provenance
  | cancelCheckout => exact expireStale_same.provenance
  | reopenTransfer r => exact reopenTransfer_same.provenance
  | retryTransferPayment r => exact retryTransferPayment_same.provenance
  | verifyTransfer payment valid t p => exact verifyTransferPayment_provenance
  | transferReconcile t p => exact transferReconcile_provenance
  | createRenewal q => exact .kept rfl
  | verifyRenewal payload valid a => exact .kept verifyRenewalPayment_same.domain

/-! ## Runs -/

/-- Every id is the order's own, and no two orders hold the same one. -/
structure Desk.Traced (w : Desk) : Prop where
  keyed : w.Keyed
  given : ∀ o ∈ w.orders, ∀ d, o.openProviderDomainId = some d → w.Given o.id d
  apart : ∀ o ∈ w.orders, ∀ o' ∈ w.orders, ∀ d, o.openProviderDomainId = some d →
    o'.openProviderDomainId = some d → o.id = o'.id

theorem Desk.Traced.owned (h : w.Traced) : w.Owned := by
  refine ⟨fun o ho d hd _ => h.given o ho d hd, fun o ho o' ho' hne d hd hd' => ?_⟩
  obtain rfl := h.keyed.eq_of_id ho ho' (h.apart o ho o' ho' d hd hd')
  exact hne rfl

theorem traced_insert (h : w.Traced) (hid : o.id = w.nextId)
    (hd : o.openProviderDomainId = none) : (w.insert o).Traced := by
  have hold : ∀ x ∈ (w.insert o).orders, ∀ d, x.openProviderDomainId = some d → x ∈ w.orders := by
    intro x hx d hxd
    rcases List.mem_append.mp hx with hx | hx
    · exact hx
    · rw [List.mem_singleton.mp hx, hd] at hxd
      cases hxd
  refine ⟨Desk.keyed_insert h.keyed hid, ?_, ?_⟩
  · intro x hx d hxd
    exact h.given x (hold x hx d hxd) d hxd
  · intro x hx y hy d hxd hyd
    exact h.apart x (hold x hx d hxd) y (hold y hy d hyd) d hxd hyd

/-- A visit that adopts only records of its own keeps ids traced. -/
theorem traced_visit {id : RegistrationId} (h : w.Traced) (hnew : w.NewRecords c (.visit id act))
    (hown : w.AdoptsOwn (.visit id act)) : (w.visit c id act).Traced := by
  have hkeyed : (w.visit c id act).Keyed := Desk.keyed_visit h.keyed
  cases hlookup : Table.lookup Order.id id w.orders with
  | none => rwa [Desk.visit_of_absent hlookup]
  | some x =>
    obtain ⟨hx, hxid⟩ := Table.lookup_eq_some hlookup
    have hnew' := hnew x hlookup
    have hown' := hown x hlookup
    have hprov := run_provenance c (w.holders id) act x
    rw [Desk.visit_of_lookup hlookup] at hkeyed ⊢
    generalize hr : act.run c (w.holders id) x = r at hnew' hprov hkeyed ⊢
    have hrid : r.1.id = id := by
      rw [← hr, (run_own c (w.holders id) act x).row, hxid]
    -- A row of the new table is the visited one or an old one.
    have hrows : ∀ y ∈ Table.update Order.id id (fun _ => r.1) w.orders,
        y = r.1 ∨ (y ∈ w.orders ∧ y.id ≠ id) := by
      intro y hy
      obtain ⟨z, hz, heq⟩ := List.mem_map.mp hy
      split_ifs at heq with hzid
      · exact .inl heq.symm
      · subst heq
        exact .inr ⟨hz, hzid⟩
    -- The id the visit leaves is the order's own, and an old row that holds it is the visited one.
    have hleft : ∀ d, r.1.openProviderDomainId = some d →
        ((∃ e ∈ w.log ++ r.2, e.calledFor = some id ∧ e.created = some d) ∨
          .link id d ∈ w.log ++ r.2) ∧
        ∀ y ∈ w.orders, y.openProviderDomainId = some d → y.id = id := by
      intro d hd
      cases hprov with
      | kept hid =>
        have hxd : x.openProviderDomainId = some d := hid.symm.trans hd
        refine ⟨?_, fun y hy hyd => (h.apart y hy x hx d hyd hxd).trans hxid⟩
        rcases h.given x hx d hxd with ⟨e, he, hfor, hcreated⟩ | hlink
        · exact .inl ⟨e, List.mem_append_left _ he, hxid ▸ hfor, hcreated⟩
        · exact .inr (List.mem_append_left _ (hxid ▸ hlink))
      | linked d' hothers hid he =>
        cases hid.symm.trans hd
        exact ⟨.inr (List.mem_append_right _ (hxid ▸ he)),
          fun y hy hyd => Desk.holders_eq_nil hothers hy hyd⟩
      | called d' e he hfor hcreated hid =>
        obtain rfl := Option.some.inj (hid.symm.trans hd)
        exact ⟨.inl ⟨e, List.mem_append_right _ he, hxid ▸ hfor, hcreated⟩,
          fun y hy hyd => absurd hyd ((hnew' e he d' hcreated).2 y hy)⟩
      | adopted d' hadopts hid =>
        obtain rfl := Option.some.inj (hid.symm.trans hd)
        obtain ⟨⟨e, he, hfor, hcreated⟩, hothers⟩ := hown' d' hadopts
        exact ⟨.inl ⟨e, List.mem_append_left _ he, hfor, hcreated⟩,
          fun y hy hyd => Desk.holders_eq_nil hothers hy hyd⟩
    refine ⟨hkeyed, ?_, ?_⟩
    · intro y hy d hyd
      rcases hrows y hy with rfl | ⟨hy', -⟩
      · rw [hrid]
        exact (hleft d hyd).1
      · rcases h.given y hy' d hyd with ⟨e, he, hfor⟩ | hlink
        · exact .inl ⟨e, List.mem_append_left _ he, hfor⟩
        · exact .inr (List.mem_append_left _ hlink)
    · intro y hy z hz d hyd hzd
      rcases hrows y hy with rfl | ⟨hy', -⟩
      · rcases hrows z hz with rfl | ⟨hz', -⟩
        · rfl
        · rw [hrid, (hleft d hyd).2 z hz' hzd]
      · rcases hrows z hz with rfl | ⟨hz', -⟩
        · rw [hrid, (hleft d hzd).2 y hy' hyd]
        · exact h.apart y hy' z hz' d hyd hzd

theorem traced_step (h : w.Traced) (hnew : w.NewRecords c op) (hown : w.AdoptsOwn op) :
    (w.step c op).Traced := by
  cases op with
  | create buyerId fqdn email phone price r => exact traced_insert h rfl rfl
  | createTransfer buyerId fqdn email phone price r => exact traced_insert h rfl rfl
  | createPaid buyerId fqdn email phone price r payment active =>
    have hins : (w.insert { (Order.created w.nextId buyerId fqdn email phone price r).paidBy payment with
        status := if active then .active else .paymentCompleted }).Traced := traced_insert h rfl rfl
    exact ⟨hins.keyed, hins.given, hins.apart⟩
  | visit id act => exact traced_visit h hnew hown

/-- **A provider domain belongs to one customer** in every run in which an adoption finds a record
of the order's own. -/
theorem domains_owned {ops : List Op} (hnew : Meets (Desk.step c) (Desk.NewRecords c) .empty ops)
    (hown : Meets (Desk.step c) Desk.AdoptsOwn .empty ops) :
    (exec (Desk.step c) .empty ops).Owned := by
  have hempty : Desk.empty.Traced :=
    ⟨Desk.keyed_empty, fun _ h => absurd h (by simp [Desk.empty]),
      fun _ h => absurd h (by simp [Desk.empty])⟩
  exact (exec_inv (fun _ _ h hl => traced_step h hl.1 hl.2) hempty (meets_and hnew hown)).owned

/-- Buyer 0 registers a name. -/
def registration : List Op :=
  [.create 0 0 0 true 1000 0,
    .visit 0 (.verifyAndProvision (some 0) true none (.registers 1 true))]

/-- Buyer 1 pays for the transfer of a name that the platform's account has. -/
def foreignTransfer : List Op :=
  [.createTransfer 1 0 1 true 1000 1,
    .visit 1 (.verifyTransfer 1 true ⟨.ok (some 1), .ok 0, .rejected [], .fetchFails⟩
      ⟨.captured, 1000, 0⟩)]

theorem domains_owned_registration :
    (exec (Desk.step .ascii) .empty registration).Owned := by
  refine domains_owned ⟨trivial, ?_, trivial⟩ ⟨trivial, ?_, trivial⟩
  · intro o ho e he d hd
    obtain rfl := Option.some.inj ho
    refine ⟨fun x hx => absurd hx (by simp [Desk.step, Desk.insert, Desk.empty]), ?_⟩
    intro x hx
    obtain rfl := List.mem_singleton.mp hx
    exact (Option.some_ne_none d).symm
  · intro o ho d hd
    exact absurd hd (by simp [Act.adopts])

/-- **The transfer of a name that another customer registered gets that customer's domain.** -/
theorem transfer_adopts_foreign_domain :
    ¬ (exec (Desk.step .ascii) .empty (registration ++ foreignTransfer)).Owned := by
  intro h
  have htwo : ∃ o ∈ (exec (Desk.step .ascii) .empty (registration ++ foreignTransfer)).orders,
      ∃ o' ∈ (exec (Desk.step .ascii) .empty (registration ++ foreignTransfer)).orders,
        o.buyerId ≠ o'.buyerId ∧ o.openProviderDomainId = some 1 ∧
          o'.openProviderDomainId = some 1 := by decide
  obtain ⟨o, ho, o', ho', hne, hd, hd'⟩ := htwo
  exact h.2 o ho o' ho' hne 1 hd hd'

end Deltapreneur.Storefront

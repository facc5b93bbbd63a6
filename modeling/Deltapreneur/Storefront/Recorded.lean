import Deltapreneur.Storefront.Concurrent

/-!
# A registration is recorded

Whether a successful registration is ever recorded as failed: any number of runs of the cart's
verify, of `verify_and_provision` and of the webhook on one order, interleaved at their database
statements. The registrar accepts the request of one of them under the id `d` and rejects the
others; a lookup of the name finds `d` or nothing.

The session whose request is rejected reloads the order before it writes that the registration
failed. The reload may come before the other session commits and the `UPDATE` after it: the order
is then left with the id and the status `PROVISION_FAILED`.

* `Recorded`: the property of the row.
* `Fresh`: between a session's last reload and its `UPDATE` nobody has changed whether the order is
  in flight (`REGISTRATION_PENDING` or `ACTIVE`), or its id.
* `Undisputed`: what the lookups find is the order's domain. A call whose first poll denies the
  registration goes on to them even if the order is `ACTIVE` when it reads the row back.

Results:

* `registration_recorded`: the property after every run whose `UPDATE`s are fresh.
* `registration_overwritten`: the two sessions above; `registration_disputed`: a run with a disputed
  record.
-/

namespace Deltapreneur.Storefront.Concurrent

open Session Session.Prog
open Registration (RegistrationOrderStatus)

/-! ## Definitions -/

/-- The statuses of `_provision_already_succeeded`. -/
def InFlight (s : RegistrationOrderStatus) : Prop := s = .active ∨ s = .registrationPending

instance (s : RegistrationOrderStatus) : Decidable (InFlight s) :=
  inferInstanceAs (Decidable (_ ∨ _))

/-- **The order holds the id, and its status is `REGISTRATION_PENDING` or `ACTIVE`.** -/
def Recorded (d : ProviderDomainId) (o : Order) : Prop :=
  o.openProviderDomainId = some d ∧ InFlight o.status

instance (d : ProviderDomainId) (o : Order) : Decidable (Recorded d o) :=
  inferInstanceAs (Decidable (_ ∧ _))

/-- The order as a session has read it last, and as it would read it now. -/
def Fresh (last now : Order) : Prop :=
  (InFlight last.status ↔ InFlight now.status) ∧
    last.openProviderDomainId = now.openProviderDomainId

instance (last now : Order) : Decidable (Fresh last now) := inferInstanceAs (Decidable (_ ∧ _))

/-- The lookups of one call of `provision_order`. -/
def lookups (a : Answers) : List Lookup := [a.beforeCheck, a.afterNotFree, a.beforeRegister]

/-- What a lookup finds is the domain of the name, and no other order holds it. -/
def Undisputed (others : Holders) (a : Answers) (fqdn : Fqdn) : Prop :=
  ∀ l ∈ lookups a, ∀ x, l.found = .ok (some x) →
    others x = [] ∧ l.evidence.details.bind (·.fqdn) = some fqdn

/-- The registrar accepted a request under the id. -/
def Registered (d : ProviderDomainId) (events : List Event) : Prop :=
  ∃ called, Event.register called (.accepted d true) ∈ events

/-- Every id that the registrar tells is `d`. -/
structure Tells (d : ProviderDomainId) (a : Answers) : Prop where
  register : ∀ x ∈ a.register.told, x = d
  lookup : ∀ l ∈ lookups a, ∀ x, l.found = .ok (some x) → x = d

/-- The registrar accepts the request of one run and rejects those of the others. -/
structure OneAccepted {n : Nat} (path : Fin n → Path) (i : Fin n) (d : ProviderDomainId) : Prop where
  accepted : (path i).answers.register = .accepted d true
  rejected : ∀ j, j ≠ i → ∃ err, (path j).answers.register = .rejected err
  lookup : ∀ j, ∀ l ∈ lookups (path j).answers, ∀ x, l.found = .ok (some x) → x = d

/-- The runs before their first statement. -/
def start {n : Nat} (o : Order) (path : Fin n → Path) :
    Sessions n Order Patch Unit Failure (List Event) :=
  .start o fun i => (path i).program

/-! ## What becomes of the order -/

/-- Recorded it stays recorded, paid it stays paid, and its name is its own. -/
structure Grows (d : ProviderDomainId) (o o' : Order) : Prop where
  recorded : Recorded d o → Recorded d o'
  paid : o.paid = true → o'.paid = true
  fqdn : o'.fqdn = o.fqdn

/-- The row changes so, and not at all while this session has locked it. -/
def Others (d : ProviderDomainId) (held : List Unit) (o o' : Order) : Prop :=
  Grows d o o' ∧ (() ∈ held → o' = o)

variable {d : ProviderDomainId} {o o' : Order} {f : Order → Order} {events : List Event}

theorem Grows.refl (d : ProviderDomainId) (o : Order) : Grows d o o := ⟨id, id, rfl⟩

theorem Grows.trans {o₁ o₂ o₃ : Order} (h : Grows d o₁ o₂) (h' : Grows d o₂ o₃) : Grows d o₁ o₃ :=
  ⟨h'.recorded ∘ h.recorded, h'.paid ∘ h.paid, h'.fqdn.trans h.fqdn⟩

theorem others_refl (held : List Unit) (o : Order) : Others d held o o :=
  ⟨.refl d o, fun _ => rfl⟩

theorem others_trans (held : List Unit) (o₁ o₂ o₃ : Order) (h : Others d held o₁ o₂)
    (h' : Others d held o₂ o₃) : Others d held o₁ o₃ :=
  ⟨h.1.trans h'.1, fun hheld => (h'.2 hheld).trans (h.2 hheld)⟩

/-! ## The assignments -/

theorem alreadySucceeded_iff : o.alreadySucceeded = true ↔ InFlight o.status := by
  simp [Order.alreadySucceeded, InFlight]

theorem grows_confirm : Grows d o o.confirm := ⟨fun ho => ⟨ho.1, .inl rfl⟩, id, rfl⟩

theorem inFlight_submitted {x : Option ProviderDomainId} : InFlight (o.submitted x).status := by
  show InFlight (if o.status = .active then .active else .registrationPending)
  split_ifs
  · exact .inl rfl
  · exact .inr rfl

theorem grows_submitted {x : Option ProviderDomainId}
    (hx : o.openProviderDomainId = some d → x = some d) : Grows d o (o.submitted x) :=
  ⟨fun ho => ⟨hx ho.1, inFlight_submitted⟩, id, rfl⟩

theorem grows_unlessInFlight {s : RegistrationOrderStatus} : Grows d o (o.unlessInFlight s) := by
  unfold Order.unlessInFlight
  split_ifs with hin
  · exact .refl d o
  · exact ⟨fun ho => absurd (alreadySucceeded_iff.mpr ho.2) hin, id, rfl⟩

theorem grows_paidBy {payment : PaymentId} : Grows d o (o.paidBy payment) :=
  ⟨id, fun _ => rfl, rfl⟩

theorem grows_status {c : Prop} [Decidable c] {s : RegistrationOrderStatus}
    (hc : c → ¬ InFlight o.status) :
    Grows d o { o with status := if c then s else o.status } := by
  refine ⟨fun ho => ⟨ho.1, ?_⟩, id, rfl⟩
  show InFlight (if c then s else o.status)
  rw [if_neg fun h => hc h ho.2]
  exact ho.2

theorem grows_recovered {payment : PaymentId} : Grows d o (o.paidBy payment).recovered := by
  refine grows_paidBy.trans (grows_status fun hc hin => ?_)
  have hstatus : InFlight o.status := hin
  rcases hstatus with hstatus | hstatus <;> simp [Order.paidBy, hstatus] at hc

/-! ## What a session knows -/

/-- The transaction: it locks the row before it writes, and what it has written takes nothing
back. -/
structure Sound (d : ProviderDomainId) (db : Order) (tx : Tx Patch Unit) : Prop where
  alive : tx.aborted = false
  locked : tx.log ≠ [] → () ∈ tx.held
  grows : Grows d db (engine.view db tx)

/-- The transaction and the object. What was read last still holds, and the assignments since then
take nothing back. -/
structure Ready (d : ProviderDomainId) (h : Held) (db : Order) (tx : Tx Patch Unit)
    (last : Order) : Prop where
  sound : Sound d db tx
  read : last = h.row
  current : Grows d h.row (engine.view db tx)
  kept : Grows d h.row h.obj

/-- What a call of `provision_order` leaves. -/
structure Leaves (d : ProviderDomainId) (r : Outcome) (db : Order) (tx : Tx Patch Unit)
    (last : Order) : Prop where
  ready : Ready d r.1 db tx last
  recorded : Registered d r.2 → Recorded d r.1.row

variable {db db' last : Order} {tx : Tx Patch Unit} {h : Held} {a : Answers} {answer : Option Bool}
  {X : Failure → Order → Tx Patch Unit → Order → Prop}

theorem Sound.empty (d : ProviderDomainId) (db : Order) : Sound d db .empty :=
  ⟨rfl, fun hlog => absurd rfl hlog, .refl d db⟩

theorem Sound.wait (hs : Sound d db tx) (h : Others d tx.held db db') :
    Sound d db' tx ∧ Grows d (engine.view db tx) (engine.view db' tx) := by
  by_cases hheld : () ∈ tx.held
  · obtain rfl := h.2 hheld
    exact ⟨hs, .refl _ _⟩
  · have hlog : tx.log = [] := by
      by_contra hne
      exact hheld (hs.locked hne)
    have hview : ∀ db : Order, engine.view db tx = db := fun db => by
      simp [Engine.view, hlog]
    rw [hview, hview]
    exact ⟨⟨hs.alive, hs.locked, by rw [hview]; exact .refl _ _⟩, h.1⟩

theorem Sound.gives (hs : Sound d db tx) {held : List Unit} (hheld : held.Disjoint tx.held) :
    Others d held db (engine.view db tx) := by
  refine ⟨hs.grows, fun hmem => ?_⟩
  have hlog : tx.log = [] := by
    by_contra hne
    exact hheld hmem (hs.locked hne)
  simp [Engine.view, hlog]

theorem Ready.wait (hr : Ready d h db tx last) (hR : Others d tx.held db db') :
    Ready d h db' tx last := by
  obtain ⟨hs, hgrows⟩ := hr.sound.wait hR
  exact ⟨hs, hr.read, hr.current.trans hgrows, hr.kept⟩

theorem Ready.assign (hr : Ready d h db tx last) (hf : Grows d h.row (f h.obj)) :
    Ready d (h.set f) db tx last :=
  ⟨hr.sound, hr.read, hr.current, hf⟩

theorem Ready.set (hr : Ready d h db tx last) (hf : Grows d h.obj (f h.obj)) :
    Ready d (h.set f) db tx last :=
  hr.assign (hr.kept.trans hf)

theorem Ready.fail (hr : Ready d h db tx last) (hnot : ¬ Recorded d h.row)
    {s : RegistrationOrderStatus} : Ready d (h.set fun o => { o with status := s }) db tx last :=
  hr.assign ⟨fun hrec => absurd hrec hnot, hr.kept.paid, hr.kept.fqdn⟩

/-! ## `save` -/

theorem getD_changed {α : Type} [DecidableEq α] (old new now : α) :
    (changed old new).getD now = new ∨ (new = old ∧ (changed old new).getD now = now) := by
  unfold changed
  split_ifs with heq
  · exact .inr ⟨heq, rfl⟩
  · exact .inl rfl

/-- **The `UPDATE` of a fresh session**: the row has what the object has. -/
theorem grows_changes (hfresh : Fresh h.row o) (hcurrent : Grows d h.row o)
    (hkept : Grows d h.row h.obj) : Grows d h.obj ((changes h).apply o) := by
  refine ⟨fun hr => ⟨?_, ?_⟩, fun hpaid => ?_, hcurrent.fqdn.trans hkept.fqdn.symm⟩
  · rcases getD_changed h.row.openProviderDomainId h.obj.openProviderDomainId
      o.openProviderDomainId with heq | ⟨hsame, heq⟩
    · exact heq.trans hr.1
    · exact heq.trans (hfresh.2.symm.trans (hsame.symm.trans hr.1))
  · show InFlight ((changed h.row.status h.obj.status).getD o.status)
    rcases getD_changed h.row.status h.obj.status o.status with heq | ⟨hsame, heq⟩
    · rw [heq]
      exact hr.2
    · rw [heq]
      exact hfresh.1.mp (hsame ▸ hr.2)
  · show ((changed h.row.razorpayPaymentId h.obj.razorpayPaymentId).getD
      o.razorpayPaymentId).isSome = true
    rcases getD_changed h.row.razorpayPaymentId h.obj.razorpayPaymentId o.razorpayPaymentId with
      heq | ⟨hsame, heq⟩
    · rw [heq]
      exact hpaid
    · rw [heq]
      exact hcurrent.paid (show h.row.razorpayPaymentId.isSome = true from hsame ▸ hpaid)

theorem grows_apply (hfresh : Fresh h.row o) (hcurrent : Grows d h.row o)
    (hkept : Grows d h.row h.obj) : Grows d o ((changes h).apply o) := by
  have hchanges := grows_changes hfresh hcurrent hkept
  refine ⟨fun ho => hchanges.recorded (hkept.recorded ?_), fun hpaid => ?_, rfl⟩
  · exact ⟨hfresh.2.trans ho.1, hfresh.1.mpr ho.2⟩
  · by_cases hobj : h.obj.paid = true
    · exact hchanges.paid hobj
    · -- neither the object nor the row that was read has a payment
      have hrow : h.obj.razorpayPaymentId = h.row.razorpayPaymentId := by
        have hnone : h.row.paid ≠ true := fun hrow => hobj (hkept.paid hrow)
        simp only [Order.paid, Option.isSome_iff_ne_none, ne_eq, not_not] at hobj hnone
        rw [hobj, hnone]
      show ((changed h.row.razorpayPaymentId h.obj.razorpayPaymentId).getD
        o.razorpayPaymentId).isSome = true
      rw [changed, if_pos hrow]
      exact hpaid

theorem grows_of_empty (hempty : changes h = .empty) (hkept : Grows d h.row h.obj) :
    Grows d h.obj h.row := by
  have hnone : ∀ {α : Type} [DecidableEq α] {old new : α}, changed old new = none → new = old := by
    intro α _ old new hsame
    unfold changed at hsame
    split_ifs at hsame with heq
    exact heq
  have hstatus := hnone (congrArg Patch.status hempty)
  have hid := hnone (congrArg Patch.openProviderDomainId hempty)
  have hpayment := hnone (congrArg Patch.razorpayPaymentId hempty)
  refine ⟨fun hr => ⟨hid ▸ hr.1, hstatus ▸ hr.2⟩, fun hpaid => ?_, hkept.fqdn.symm⟩
  unfold Order.paid at hpaid ⊢
  rwa [hpayment] at hpaid

/-- What a `save` of `h` leaves. -/
structure Saved (d : ProviderDomainId) (h h' : Held) (db : Order) (tx : Tx Patch Unit)
    (last : Order) : Prop where
  ready : Ready d h' db tx last
  clean : h'.obj = h'.row
  grows : Grows d h.obj h'.row
  status : changes h ≠ .empty → InFlight h'.row.status → InFlight h.obj.status

theorem reload_safe (hs : Sound d db tx) : reload.Safe engine (Others d) Fresh
    (fun h' db' tx' last' => Ready d h' db' tx' last' ∧ h'.obj = h'.row ∧
      Grows d (engine.view db tx) h'.row ∧ (() ∈ tx.held → h'.row = engine.view db tx))
    X db tx last := by
  refine safe_bind others_refl (P := fun row db' tx' last' => Sound d db' tx' ∧ last' = row ∧
    Grows d row (engine.view db' tx') ∧ Grows d (engine.view db tx) row ∧
    (() ∈ tx.held → row = engine.view db tx))
    (fun row db' tx' last' ⟨hs', hlast, hgrows, hrow, hheld⟩ => ?_)
    (safe_query hs.alive fun db₁ db₂ h₁ h₂ => ?_)
  · refine safe_pure fun db₁ h₁ => ?_
    obtain ⟨hs₁, hgrows₁⟩ := hs'.wait h₁
    exact ⟨⟨hs₁, hlast, hgrows.trans hgrows₁, .refl _ _⟩, rfl, hrow, hheld⟩
  · obtain ⟨hs₁, hgrows₁⟩ := hs.wait h₁
    obtain ⟨hs₂, hgrows₂⟩ := hs₁.wait h₂
    exact ⟨hs₂, rfl, hgrows₂, hgrows₁, fun hheld => by rw [h₁.2 hheld]⟩

theorem flush_safe (hr : Ready d h db tx last) :
    (flush h).Safe engine (Others d) Fresh
      (fun _ db' tx' _ => Sound d db' tx' ∧ Grows d h.obj (engine.view db' tx') ∧
        (changes h ≠ .empty → () ∈ tx'.held ∧
          (InFlight (engine.view db' tx').status → InFlight h.obj.status))) X db tx last := by
  unfold flush
  split_ifs with hempty
  · refine safe_pure fun db₁ h₁ => ?_
    have hr₁ := hr.wait h₁
    exact ⟨hr₁.sound, (grows_of_empty hempty hr.kept).trans hr₁.current,
      fun hne => absurd hempty hne⟩
  · refine safe_exec hr.sound.alive (fun _ => rfl) fun db₁ db₂ h₁ hfresh h₂ => ?_
    have hr₁ := hr.wait h₁
    rw [hr.read] at hfresh
    -- the row is locked from here on
    obtain rfl := h₂.2 List.mem_cons_self
    rw [view_push]
    refine ⟨⟨hr₁.sound.alive, fun _ => List.mem_cons_self, ?_⟩,
      grows_changes hfresh hr₁.current hr.kept, fun _ => ⟨List.mem_cons_self, fun hin => ?_⟩⟩
    · rw [view_push]
      exact hr₁.sound.grows.trans (grows_apply hfresh hr₁.current hr.kept)
    · rcases getD_changed h.row.status h.obj.status (engine.view db₂ tx).status with
        heq | ⟨hsame, heq⟩
      · exact heq ▸ hin
      · rw [hsame]
        exact hfresh.1.mpr (heq ▸ hin)

/-- **`save`**: what the object has recorded is in the row that is read back. -/
theorem save_safe (hr : Ready d h db tx last) :
    (save h).Safe engine (Others d) Fresh (Saved d h) X db tx last := by
  refine safe_bind others_refl (fun _ _ _ _ ⟨hs₁, hgrows, hwritten⟩ => ?_) (flush_safe hr)
  refine safe_mono (fun h' _ _ _ ⟨hr', hclean, hrow, hheld⟩ => ?_) (reload_safe hs₁)
  refine ⟨hr', hclean, hgrows.trans hrow, fun hne hin => ?_⟩
  obtain ⟨hlocked, hstatus⟩ := hwritten hne
  exact hstatus (hheld hlocked ▸ hin)

/-! ## `provision_order` -/

theorem sync_safe (hr : Ready d h db tx last) :
    (syncFromRegistrar answer h).Safe engine (Others d) Fresh
      (fun r db' tx' last' => Ready d r.2 db' tx' last' ∧ Grows d h.obj r.2.obj ∧
        (r.2 = h ∨ answer = some r.1)) X db tx last := by
  unfold syncFromRegistrar
  split
  · refine safe_bind others_refl (fun h₁ db₁ tx₁ last₁ hsaved => ?_)
      (save_safe (hr.set grows_confirm))
    have hgrows := grows_confirm.trans hsaved.grows
    exact safe_pure fun db₂ h₂ => ⟨hsaved.ready.wait h₂, hsaved.clean ▸ hgrows, .inr rfl⟩
  · refine safe_bind others_refl (fun h₁ db₁ tx₁ last₁ hsaved => ?_) (save_safe hr)
    exact safe_pure fun db₂ h₂ => ⟨hsaved.ready.wait h₂, hsaved.clean ▸ hsaved.grows, .inr rfl⟩
  · exact safe_pure fun db₁ h₁ => ⟨hr.wait h₁, .refl _ _, .inl rfl⟩

theorem saveAnd_safe (hr : Ready d h db tx last) (hevents : Registered d events → Recorded d h.obj) :
    (do return (← save h, events) : Program Outcome).Safe engine (Others d) Fresh
      (Leaves d) X db tx last := by
  refine safe_bind others_refl (fun h₁ _ _ _ hsaved => ?_) (save_safe hr)
  exact safe_pure fun db₂ h₂ => ⟨hsaved.ready.wait h₂, fun hreg =>
    hsaved.grows.recorded (hevents hreg)⟩

theorem not_registered_nil : ¬ Registered d [] := fun ⟨_, hmem⟩ => absurd hmem List.not_mem_nil

theorem exceptionHandler_safe (hr : Ready d h db tx last) :
    (exceptionHandler a h).Safe engine (Others d) Fresh
      (fun h' db' tx' last' => Ready d h' db' tx' last') X db tx last := by
  refine safe_bind others_refl (fun r _ _ _ ⟨hr₁, _⟩ => ?_) (sync_safe hr)
  obtain ⟨confirmed, h₁⟩ := r
  cases confirmed with
  | true => exact safe_mono (fun _ _ _ _ hsaved => hsaved.ready) (save_safe hr₁)
  | false =>
    refine safe_bind others_refl (fun h₂ _ _ _ ⟨hr₂, _⟩ => ?_) (reload_safe hr₁.sound)
    exact safe_mono (fun _ _ _ _ hsaved => hsaved.ready) (save_safe (hr₂.set grows_unlessInFlight))

theorem exceptionHandlerAnd_safe (hr : Ready d h db tx last) (hevents : ¬ Registered d events) :
    (do return (← exceptionHandler a h, events) : Program Outcome).Safe engine (Others d) Fresh
      (Leaves d) X db tx last := by
  refine safe_bind others_refl (fun h₁ _ _ _ hr₁ => ?_) (exceptionHandler_safe hr)
  exact safe_pure fun db₂ h₂ => ⟨hr₁.wait h₂, fun hreg => absurd hreg hevents⟩

section stages

variable {others : Holders} {l : Lookup}

/-- The stages after the first poll: if the order that was read is recorded, it is paid and what the
lookups find is undisputed. -/
def Open (d : ProviderDomainId) (others : Holders) (a : Answers) (h : Held) : Prop :=
  Recorded d h.row → h.obj.paid = true ∧ Undisputed others a h.obj.fqdn

theorem reconcile_of_undisputed {e : Evidence} (hpaid : o.paid = true)
    (hid : o.openProviderDomainId = some d) (hothers : others d = [])
    (hfqdn : e.details.bind (·.fqdn) = some o.fqdn) :
    (verifyProviderDomainBelongsToOrder o d (others d) e).action = .reconcile := by
  have hdetails : e.details ≠ none := fun hnone => by simp [hnone] at hfqdn
  simp [verifyProviderDomainBelongsToOrder, decideProviderLink, hpaid, hid, hothers, hfqdn, hdetails]

theorem not_recorded (hr : Ready d h db tx last) (hopen : Open d others a h) (hl : l ∈ lookups a)
    (hfound : l.found = .ok (some d))
    (haction : (verifyProviderDomainBelongsToOrder h.obj d (others d) l.evidence).action ≠
      .reconcile) : ¬ Recorded d h.row := by
  intro hrec
  obtain ⟨hpaid, hundisputed⟩ := hopen hrec
  obtain ⟨hothers, hfqdn⟩ := hundisputed l hl d hfound
  exact haction (reconcile_of_undisputed hpaid (hr.kept.recorded hrec).1 hothers hfqdn)

/-- A lookup that finds `d` or nothing. -/
theorem lookUp_safe (hr : Ready d h db tx last) (hopen : Open d others a h) (hl : l ∈ lookups a)
    (ha : Tells d a) {skipped absent : Held → Program Outcome}
    (hskipped : (h.obj.paid = true → ¬ Recorded d h.row) →
      (skipped h).Safe engine (Others d) Fresh (Leaves d) X db tx last)
    (habsent : (absent h).Safe engine (Others d) Fresh (Leaves d) X db tx last) :
    (lookUp others a l h skipped absent).Safe engine (Others d) Fresh (Leaves d) X db tx last := by
  unfold lookUp
  split
  · exact exceptionHandlerAnd_safe hr not_registered_nil
  · exact habsent
  · next x hfound =>
    obtain rfl := ha.lookup l hl x hfound
    unfold maybeReconcileExistingProviderDomain
    split
    · next p hp =>
      split at hp
      · cases hp
        refine safe_bind others_refl (fun r _ _ _ ⟨hr₁, _⟩ => ?_)
          (sync_safe (hr.set (grows_submitted fun _ => rfl)))
        exact saveAnd_safe hr₁ fun ⟨called, hmem⟩ => by simp at hmem
      · next haction =>
        cases hp
        have hnot := not_recorded hr hopen hl hfound (by rw [haction]; nofun)
        exact saveAnd_safe (hr.fail hnot) fun hreg => absurd hreg not_registered_nil
      · cases hp
    · next hp =>
      split at hp
      · cases hp
      · cases hp
      · next haction =>
        exact hskipped fun _ => not_recorded hr hopen hl hfound (by rw [haction]; nofun)

theorem syncRegistered_safe (hr : Ready d h db tx last) :
    (syncRegistered a h).Safe engine (Others d) Fresh
      (fun r db' tx' last' => Ready d r.2 db' tx' last' ∧ Grows d h.obj r.2.obj) X db tx last := by
  unfold syncRegistered
  split_ifs
  · exact safe_mono (fun _ _ _ _ ⟨hr', hgrows, _⟩ => ⟨hr', hgrows⟩) (sync_safe hr)
  · exact safe_pure fun db₁ h₁ => ⟨hr.wait h₁, .refl _ _⟩

/-- The id that the registrar has told is recorded. -/
theorem applyRegistration_safe (hr : Ready d h db tx last) (ha : ∀ x ∈ a.register.told, x = d) :
    (applyRegistration a h).Safe engine (Others d) Fresh
      (fun h' db' tx' last' => Ready d h' db' tx' last' ∧
        (a.register.told = some d → Recorded d h'.row)) X db tx last := by
  have hsubmitted : Grows d h.obj
      (h.obj.submitted (a.register.told.or h.obj.openProviderDomainId)) := by
    refine grows_submitted fun hid => ?_
    cases htold : a.register.told with
    | none => exact hid
    | some x => exact congrArg some (ha x htold)
  have hobj (htold : a.register.told = some d) :
      Recorded d (h.obj.submitted (a.register.told.or h.obj.openProviderDomainId)) :=
    ⟨by simp [Order.submitted, htold], inFlight_submitted⟩
  refine safe_bind others_refl (fun r _ _ _ ⟨hr₁, hgrows₁⟩ => ?_)
    (syncRegistered_safe (hr.set hsubmitted))
  obtain ⟨confirmed, h₁⟩ := r
  cases confirmed with
  | true =>
    exact safe_mono (fun _ _ _ _ hsaved => ⟨hsaved.ready, fun htold =>
      (hgrows₁.trans hsaved.grows).recorded (hobj htold)⟩) (save_safe hr₁)
  | false =>
    refine safe_bind others_refl (fun r₂ _ _ _ ⟨hr₂, hgrows₂, _⟩ => ?_) (sync_safe hr₁)
    exact safe_mono (fun _ _ _ _ hsaved => ⟨hsaved.ready, fun htold =>
      (hgrows₁.trans (hgrows₂.trans hsaved.grows)).recorded (hobj htold)⟩) (save_safe hr₂)

theorem registerDomain_safe (hr : Ready d h db tx last) (ha : ∀ x ∈ a.register.told, x = d) :
    (registerDomain a h).Safe engine (Others d) Fresh (Leaves d) X db tx last := by
  unfold registerDomain
  split
  · next x named hreply =>
    refine safe_bind others_refl (fun h₁ _ _ _ ⟨hr₁, hrow⟩ => ?_)
      (applyRegistration_safe hr ha)
    refine safe_pure fun db₂ h₂ => ⟨hr₁.wait h₂, fun ⟨called, hmem⟩ => hrow ?_⟩
    -- the request in the list is this one, so the id was told
    obtain ⟨-, heq⟩ := Event.register.inj (List.mem_singleton.mp hmem)
    rw [← heq]
    rfl
  · next x err hreply =>
    refine exceptionHandlerAnd_safe hr fun ⟨called, hmem⟩ => ?_
    obtain ⟨-, heq⟩ := Event.register.inj (List.mem_singleton.mp hmem)
    cases heq.trans hreply
  · next err hreply =>
    refine exceptionHandlerAnd_safe hr fun ⟨called, hmem⟩ => ?_
    obtain ⟨-, heq⟩ := Event.register.inj (List.mem_singleton.mp hmem)
    cases heq.trans hreply

variable (ha : Tells d a)

include ha

theorem lookUpBeforeRegister_safe (hr : Ready d h db tx last) (hopen : Open d others a h) :
    (lookUpBeforeRegister others a h).Safe engine (Others d) Fresh (Leaves d) X db tx last := by
  refine lookUp_safe hr hopen (by simp [lookups]) ha (fun hskip => ?_)
    (registerDomain_safe hr ha.register)
  have hnot : ¬ Recorded d h.row := fun hrec => hskip (hopen hrec).1 hrec
  exact saveAnd_safe (hr.fail hnot) fun hreg => absurd hreg not_registered_nil

theorem createCustomer_safe (hr : Ready d h db tx last) (hopen : Open d others a h) :
    (createCustomer others a h).Safe engine (Others d) Fresh (Leaves d) X db tx last := by
  unfold createCustomer
  split_ifs
  · exact exceptionHandlerAnd_safe hr not_registered_nil
  · split
    · exact lookUpBeforeRegister_safe ha hr hopen
    · exact lookUpBeforeRegister_safe ha (hr.set ⟨id, id, rfl⟩) hopen
    · exact exceptionHandlerAnd_safe hr not_registered_nil

omit ha in
theorem unresolved_safe (hr : Ready d h db tx last) :
    (unresolved h).Safe engine (Others d) Fresh (Leaves d) X db tx last := by
  refine safe_bind others_refl (fun h₁ _ _ _ ⟨hr₁, _⟩ => ?_) (reload_safe hr.sound)
  exact saveAnd_safe (hr₁.set grows_unlessInFlight) fun hreg => absurd hreg not_registered_nil

theorem notFree_safe (hr : Ready d h db tx last) (hopen : Open d others a h) :
    (notFree others a h).Safe engine (Others d) Fresh (Leaves d) X db tx last := by
  unfold notFree
  split_ifs with hpaid
  · exact lookUp_safe hr hopen (by simp [lookups]) ha (fun _ => unresolved_safe hr)
      (unresolved_safe hr)
  · have hnot : ¬ Recorded d h.row := fun hrec => hpaid (hopen hrec).1
    exact saveAnd_safe (hr.fail hnot) fun hreg => absurd hreg not_registered_nil

theorem checkDomain_safe (hr : Ready d h db tx last) (hopen : Open d others a h) :
    (checkDomain others a h).Safe engine (Others d) Fresh (Leaves d) X db tx last := by
  unfold checkDomain
  split
  · exact exceptionHandlerAnd_safe hr not_registered_nil
  · exact notFree_safe ha hr hopen
  · exact createCustomer_safe ha hr hopen

variable {fqdn : Fqdn} (hu : a.sync = some false → Undisputed others a fqdn)

include hu

theorem reconcileExisting_safe (hr : Ready d h db tx last) (hpaid : h.obj.paid = true)
    (hfqdn : h.obj.fqdn = fqdn) (hactive : h.obj.status ≠ .active) :
    (reconcileExisting others a h).Safe engine (Others d) Fresh (Leaves d) X db tx last := by
  refine safe_bind others_refl (fun r _ _ _ ⟨hr₁, hgrows, hsync⟩ => ?_) (sync_safe hr)
  obtain ⟨confirmed, h₁⟩ := r
  cases confirmed with
  | true => exact saveAnd_safe hr₁ fun hreg => absurd hreg not_registered_nil
  | false =>
    simp only [Bool.false_eq_true, if_false]
    split_ifs with hpending
    · exact saveAnd_safe hr₁ fun hreg => absurd hreg not_registered_nil
    · have hopen : Open d others a h₁ := by
        intro hrec
        rcases hsync with heq | hanswer
        · -- nothing was read since the order was looked at
          subst heq
          have hobj := hr.kept.recorded hrec
          refine absurd ⟨?_, hobj.2.resolve_left hactive⟩ hpending
          exact Option.isSome_iff_exists.mpr ⟨d, hobj.1⟩
        · refine ⟨hgrows.paid hpaid, ?_⟩
          rw [hgrows.fqdn, hfqdn]
          exact hu hanswer
      exact lookUp_safe hr₁ hopen (by simp [lookups]) ha
        (fun _ => checkDomain_safe ha hr₁ hopen) (checkDomain_safe ha hr₁ hopen)

/-- **`provision_order`** of a paid order: it raises only for a transfer, before it writes, and what
it registers is in the row that it leaves. -/
theorem provisionOrder_safe (hr : Ready d h db tx last) (hpaid : h.obj.paid = true)
    (hfqdn : h.obj.fqdn = fqdn) :
    (provisionOrder others a h).Safe engine (Others d) Fresh (Leaves d)
      (fun _ db' tx' last' => Sound d db' tx' ∧ last' = h.row) db tx last := by
  unfold provisionOrder
  split_ifs with htransfer hactive
  · exact safe_throw fun db₁ h₁ => ⟨(hr.wait h₁).sound, hr.read⟩
  · exact safe_pure fun db₁ h₁ => ⟨hr.wait h₁, fun hreg => absurd hreg not_registered_nil⟩
  · exact reconcileExisting_safe ha hu (hr.set ⟨id, id, rfl⟩) hpaid hfqdn hactive

end stages

/-! ## The paths -/

/-- What a run that has ended leaves for good. -/
abbrev Ends (d : ProviderDomainId) : List Event → Order → Tx Patch Unit → Order → Prop :=
  Closed (Others d) fun events o => Registered d events → Recorded d o

theorem ends_of_recorded (h : Registered d events → Recorded d db) : Ends d events db tx last :=
  fun _ hR hreg => hR.1.recorded (h hreg)

theorem ends_nil : Ends d [] db tx last :=
  ends_of_recorded fun hreg => absurd hreg not_registered_nil

theorem commit_safe (hr : Ready d h db tx last) :
    commit.Safe engine (Others d) Fresh
      (fun _ db' tx' last' => Ready d h db' tx' last' ∧ Grows d h.row db') X db tx last := by
  refine safe_commitTx hr.sound.alive (fun db₁ held h₁ hheld => ?_) fun db₁ db₂ h₁ h₂ => ?_
  · exact (hr.wait h₁).sound.gives hheld
  · have hgrows : Grows d h.row db₂ := (hr.wait h₁).current.trans h₂.1
    exact ⟨⟨.empty d db₂, hr.read, hgrows, hr.kept⟩, hgrows⟩

theorem commitAnd_safe (hr : Ready d h db tx last) (hevents : Registered d events → Recorded d h.row) :
    (do commit; return events : Program (List Event)).Safe engine (Others d) Fresh
      (Ends d) X db tx last := by
  refine safe_bind others_refl (fun _ _ _ _ ⟨_, hrow⟩ => ?_) (commit_safe hr)
  exact safe_pure fun db₂ h₂ => ends_of_recorded fun hreg =>
    (hrow.trans h₂.1).recorded (hevents hreg)

theorem saveAndCommit_safe (hr : Ready d h db tx last) :
    (do let _ ← save h; commit; return [] : Program (List Event)).Safe engine (Others d)
      Fresh (Ends d) X db tx last := by
  refine safe_bind others_refl (fun h₁ _ _ _ hsaved => ?_) (save_safe hr)
  exact commitAnd_safe hsaved.ready fun hreg => absurd hreg not_registered_nil

section paths

variable {others : Holders} {payment : PaymentId} {valid : Bool} {fqdn : Fqdn} (ha : Tells d a)
  (hu : a.sync = some false → Undisputed others a fqdn)

include ha hu

theorem provisionAndSave_safe (hr : Ready d h db tx last) (hpaid : h.obj.paid = true)
    (hfqdn : h.obj.fqdn = fqdn) :
    (provisionAndSave others a h).Safe engine (Others d) Fresh (Ends d)
      (fun _ db' tx' last' => Sound d db' tx' ∧ last' = h.row) db tx last := by
  refine safe_bind others_refl (fun r _ _ _ hr₁ => ?_) (provisionOrder_safe ha hu hr hpaid hfqdn)
  obtain ⟨h₁, events⟩ := r
  refine safe_bind others_refl (fun h₂ _ _ _ hsaved => ?_) (save_safe hr₁.ready)
  exact commitAnd_safe hsaved.ready fun hreg =>
    (hr₁.ready.kept.trans hsaved.grows).recorded (hr₁.recorded hreg)

theorem completeDomainRegistration_safe (hs : Sound d db tx) (hfqdn : (engine.view db tx).fqdn = fqdn) :
    (completeDomainRegistration others a payment).Safe engine (Others d) Fresh (Ends d) X
      db tx last := by
  refine safe_bind others_refl (fun h₁ _ _ _ ⟨hr₁, hclean₁, hrow₁, _⟩ => ?_) (reload_safe hs)
  have hset : Grows d h₁.obj { h₁.obj.paidBy payment with
      status := if h₁.obj.status = .created ∨ h₁.obj.status = .expired then .paymentCompleted
        else h₁.obj.status } := by
    refine grows_paidBy.trans (grows_status fun hc hin => ?_)
    have hstatus : InFlight h₁.obj.status := hin
    rcases hstatus with hstatus | hstatus <;> simp [hstatus] at hc
  refine safe_bind others_refl (fun h₂ _ _ _ hsaved => ?_) (save_safe (hr₁.set hset))
  refine safe_bind others_refl (fun _ _ _ _ ⟨hr₃, _⟩ => ?_) (commit_safe hsaved.ready)
  have hpaid : h₂.obj.paid = true := hsaved.clean ▸ hsaved.grows.paid rfl
  have hfqdn₂ : h₂.obj.fqdn = fqdn := by
    rw [hsaved.clean, hsaved.grows.fqdn, ← hfqdn, ← hrow₁.fqdn, ← hclean₁]
    rfl
  split_ifs
  · exact safe_pure fun _ _ => ends_nil
  · refine safe_tryCatch others_refl (fun _ _ _ _ hs₄ => ?_)
      (provisionAndSave_safe ha hu hr₃ hpaid hfqdn₂)
    refine safe_bind others_refl (P := fun _ db' tx' _ => Sound d db' tx')
      (fun _ _ _ _ hs₅ => ?_) (safe_reset fun _ _ _ _ => .empty d _)
    refine safe_bind others_refl (fun fresh _ _ _ ⟨hr₆, hclean₆, _⟩ => ?_) (reload_safe hs₅)
    split_ifs with hin
    · exact safe_pure fun _ _ => ends_nil
    · refine saveAndCommit_safe (hr₆.fail fun hrec => hin ?_)
      exact alreadySucceeded_iff.mpr (hclean₆ ▸ hrec.2)

omit ha hu in
/-- The failure that is written without a reload, for an order that was not recorded when it was
read. -/
theorem writeFailed_safe (hs : Sound d db .empty) (hnot : ¬ Recorded d last) :
    (exec .statement { Patch.empty with status := some .provisionFailed } : Program Unit).Safe
      engine (Others d) Fresh (fun _ db' tx' _ => Sound d db' tx') X db .empty last := by
  refine safe_exec hs.alive (fun _ => rfl) fun db₁ db₂ h₁ hfresh h₂ => ?_
  obtain rfl := h₂.2 List.mem_cons_self
  refine ⟨rfl, fun _ => List.mem_cons_self, ?_⟩
  rw [view_push]
  refine ⟨fun hrec => absurd ⟨?_, ?_⟩ hnot, id, rfl⟩
  · exact hfresh.2.trans hrec.1
  · exact hfresh.1.mpr hrec.2

theorem provisionAndCommit_safe (hr : Ready d h db tx last) (hpaid : h.obj.paid = true)
    (hfqdn : h.obj.fqdn = fqdn) (hnot : ¬ Recorded d h.row) :
    (provisionAndCommit others a h).Safe engine (Others d) Fresh (Ends d) X db tx last := by
  refine safe_tryCatch others_refl (fun _ db₁ tx₁ last₁ ⟨hs₁, hlast₁⟩ => ?_)
    (provisionAndSave_safe ha hu hr hpaid hfqdn)
  refine safe_bind others_refl
    (P := fun _ db' tx' last' => Sound d db' tx' ∧ tx' = .empty ∧ last' = last₁)
    (fun _ _ _ _ ⟨hs₂, htx₂, hlast₂⟩ => ?_)
    (safe_reset fun _ _ _ _ => ⟨.empty d _, rfl, rfl⟩)
  subst htx₂ hlast₂ hlast₁
  refine safe_bind others_refl (fun _ _ _ _ hs₃ => ?_) (writeFailed_safe hs₂ hnot)
  refine safe_bind others_refl (fun h₄ _ _ _ ⟨hr₄, _⟩ => ?_) (reload_safe hs₃)
  exact commitAnd_safe hr₄ fun hreg => absurd hreg not_registered_nil

theorem verifyAndProvision_safe (hs : Sound d db tx) (hfqdn : (engine.view db tx).fqdn = fqdn) :
    (verifyAndProvision others a payment valid answer).Safe engine (Others d) Fresh
      (Ends d) (fun _ _ _ _ => True) db tx last := by
  refine safe_bind others_refl (fun h₁ db₁ tx₁ last₁ hread => ?_) (reload_safe hs)
  obtain ⟨hr₁, hclean₁, hrow₁, -⟩ := hread
  have hfqdn₁ : h₁.obj.fqdn = fqdn := by rw [hclean₁, hrow₁.fqdn, hfqdn]
  split_ifs with hactive hpending hpayment hvalid
  · exact commitAnd_safe hr₁ fun hreg => absurd hreg not_registered_nil
  · refine safe_bind others_refl (fun r db₂ tx₂ last₂ hr₂ => ?_) (sync_safe hr₁)
    exact saveAndCommit_safe hr₂.1
  all_goals have hin : ¬ InFlight h₁.obj.status := not_or.mpr ⟨hactive, hpending⟩
  all_goals have hnot : ¬ Recorded d h₁.row := fun hrec => hin (hr₁.kept.recorded hrec).2
  · exact provisionAndCommit_safe ha hu hr₁ (by simp [Order.paid, hpayment]) hfqdn₁ hnot
  · refine safe_bind others_refl (fun h₂ db₂ tx₂ last₂ hsaved => ?_) (save_safe (hr₁.fail hnot))
    refine safe_bind others_refl (fun _ db₃ tx₃ last₃ _ => ?_) (commit_safe hsaved.ready)
    exact safe_throw fun _ _ => trivial
  · have hset : Ready d (h₁.set fun o => { o.paidBy payment with status := .paymentCompleted })
        db₁ tx₁ last₁ :=
      hr₁.assign ⟨fun hrec => absurd hrec hnot, fun _ => rfl, hr₁.kept.fqdn⟩
    refine safe_bind others_refl (fun h₂ db₂ tx₂ last₂ hsaved => ?_) (save_safe hset)
    refine safe_bind others_refl (fun _ db₃ tx₃ last₃ hr₃ => ?_) (commit_safe hsaved.ready)
    have hpaid : h₂.obj.paid = true := hsaved.clean ▸ hsaved.grows.paid rfl
    have hfqdn₂ : h₂.obj.fqdn = fqdn := by
      rw [hsaved.clean, hsaved.grows.fqdn]
      exact hfqdn₁
    refine provisionAndCommit_safe ha hu hr₃.1 hpaid hfqdn₂ fun hrec => ?_
    -- the payment was new, so the status was written with it
    have hwritten : changes (h₁.set fun o => { o.paidBy payment with status := .paymentCompleted }) ≠
        .empty := by
      intro hempty
      have hsame : changed h₁.row.razorpayPaymentId (some payment) = none :=
        congrArg Patch.razorpayPaymentId hempty
      unfold changed at hsame
      split_ifs at hsame with heq
      exact hpayment (hclean₁ ▸ heq.symm)
    exact absurd (hsaved.status hwritten hrec.2) (by simp [Held.set, InFlight])

/-- The webhook commits once, after everything else. -/
theorem fulfil_safe (hr : Ready d h db tx last) (hfqdn : h.obj.fqdn = fqdn) :
    (fulfil others a payment answer h).Safe engine (Others d) Fresh
      (fun events db' tx' last' => ∃ h', Ready d h' db' tx' last' ∧
        (Registered d events → Recorded d h'.row))
      (fun _ _ _ _ => True) db tx last := by
  have hnone : ∀ {h' : Held} {db' : Order} {tx' : Tx Patch Unit} {last' : Order},
      Ready d h' db' tx' last' →
      ∃ h', Ready d h' db' tx' last' ∧ (Registered d [] → Recorded d h'.row) :=
    fun hr' => ⟨_, hr', fun hreg => absurd hreg not_registered_nil⟩
  unfold fulfil
  split_ifs
  · exact safe_pure fun _ h₁ => hnone (hr.wait h₁)
  · exact safe_pure fun _ h₁ => hnone (hr.wait h₁)
  · refine safe_bind others_refl (fun r db₁ tx₁ last₁ ⟨hr₁, _⟩ => ?_) (sync_safe (hr.set grows_paidBy))
    refine safe_bind others_refl (fun h₂ db₂ tx₂ last₂ hsaved => ?_) (save_safe hr₁)
    exact safe_pure fun _ h₃ => hnone (hsaved.ready.wait h₃)
  · refine safe_bind others_refl (fun h₁ db₁ tx₁ last₁ hsaved => ?_)
      (save_safe (hr.set grows_recovered))
    have hpaid : h₁.obj.paid = true := hsaved.clean ▸ hsaved.grows.paid rfl
    have hfqdn₁ : h₁.obj.fqdn = fqdn := by
      rw [hsaved.clean, hsaved.grows.fqdn]
      exact hfqdn
    split_ifs
    · refine safe_bind others_refl (fun r db₂ tx₂ last₂ hr₂ => ?_)
        (safe_raises (fun _ _ _ _ _ => trivial)
          (provisionOrder_safe ha hu hsaved.ready hpaid hfqdn₁))
      exact safe_pure fun _ h₃ => ⟨r.1, hr₂.ready.wait h₃, hr₂.recorded⟩
    · exact safe_pure fun _ h₂ => hnone (hsaved.ready.wait h₂)

theorem completePaymentFromWebhook_safe (hs : Sound d db tx)
    (hfqdn : (engine.view db tx).fqdn = fqdn) :
    (completePaymentFromWebhook others a payment answer).Safe engine (Others d) Fresh
      (Ends d) (fun _ _ _ _ => True) db tx last := by
  refine safe_bind others_refl (fun h₁ _ _ _ ⟨hr₁, hclean₁, hrow₁, _⟩ => ?_) (reload_safe hs)
  have hfqdn₁ : h₁.obj.fqdn = fqdn := by rw [hclean₁, hrow₁.fqdn, hfqdn]
  refine safe_bind others_refl (fun events _ _ _ ⟨h₂, hr₂, hrow⟩ => ?_)
    (fulfil_safe ha hu hr₁ hfqdn₁)
  exact commitAnd_safe hr₂ hrow

end paths

theorem path_safe (path : Path) (ha : Tells d path.answers) (o : Order)
    (hu : path.answers.sync = some false → Undisputed path.others path.answers o.fqdn) :
    path.program.Safe engine (Others d) Fresh (Ends d) (fun _ _ _ _ => True) o .empty o := by
  cases path with
  | cartVerify others a payment => exact completeDomainRegistration_safe ha hu (.empty d o) rfl
  | verify others a payment valid answer => exact verifyAndProvision_safe ha hu (.empty d o) rfl
  | webhook others a payment answer => exact completePaymentFromWebhook_safe ha hu (.empty d o) rfl

/-! ## Any interleaving -/

variable {n : Nat} {path : Fin n → Path} {i : Fin n}

theorem OneAccepted.tells (h : OneAccepted path i d) (j : Fin n) : Tells d (path j).answers := by
  refine ⟨fun x hx => ?_, h.lookup j⟩
  by_cases hj : j = i
  · subst hj
    rw [h.accepted] at hx
    exact (Option.some.inj hx).symm
  · obtain ⟨err, hreply⟩ := h.rejected j hj
    rw [hreply] at hx
    cases hx

/-- **A registration is recorded.** One of any number of runs registers the domain under `d`. If
every `UPDATE` is fresh, and what is found is undisputed where the first poll denied the
registration, then once that run has ended the order holds `d` and is in flight. -/
theorem registration_recorded (o : Order) (path : Fin n → Path) (i : Fin n) (d : ProviderDomainId)
    (hone : OneAccepted path i d)
    (hundisputed : ∀ j, (path j).answers.sync = some false →
      Undisputed (path j).others (path j).answers o.fqdn)
    (ls : List (Fin n))
    (hfresh : Run.Meets (Sessions.step engine) (Sessions.Allowed engine Fresh) (start o path) ls)
    (events : List Event)
    (hret : (Run.exec (Sessions.step engine) (start o path) ls).prog i = .ret events)
    (hreg : Registered d events) :
    Recorded d (Run.exec (Sessions.step engine) (start o path) ls).db := by
  have hstart : Guarded engine (Others d) Fresh
      (fun _ events o => Registered d events → Recorded d o) (fun _ _ _ => True) (start o path) := by
    refine Guarded.start fun j => ?_
    exact safe_raises (fun _ _ _ _ _ _ _ => trivial)
      (path_safe (path j) (hone.tells j) o (hundisputed j))
  exact hstart.run others_refl others_trans hfresh hret hreg

/-! ## Two runs -/

/-- `verify_and_provision` and the webhook on a paid order. The registrar takes the name for free
in both, and registers it for the webhook. -/
def race : Fin 2 → Path
  | 0 => .verify (fun _ => []) { Answers.registers 7 false with register := .rejected [] } 0 true none
  | 1 => .webhook (fun _ => []) (.registers 7 false) 0 none

/-- The order of the two runs. -/
def raced : Order :=
  { (Order.created 0 0 0 0 true 79900 0).paidBy 0 with status := .paymentCompleted }

theorem race_oneAccepted : OneAccepted race 1 7 := by
  refine ⟨rfl, fun j hj => ?_, fun j => ?_⟩
  · match j with
    | 0 => exact ⟨[], rfl⟩
    | 1 => exact absurd rfl hj
  · match j with
    | 0 => simp [race, Path.answers, Answers.registers, Lookup.absent, lookups]
    | 1 => simp [race, Path.answers, Answers.registers, Lookup.absent, lookups]

theorem race_undisputed (j : Fin 2) (hdenied : (race j).answers.sync = some false) :
    Undisputed (race j).others (race j).answers raced.fqdn := by
  match j with
  | 0 => cases hdenied
  | 1 => cases hdenied

/-- The browser's run has read the order when the webhook's starts. It learns that its request is
rejected, and reloads the order, once the webhook's has ended. -/
def reloadLate : List (Fin 2) := 0 :: List.replicate 7 1 ++ List.replicate 5 0

/-- The same, but it reloads the order before the webhook's run writes. -/
def reloadEarly : List (Fin 2) := [0, 0] ++ List.replicate 7 1 ++ List.replicate 5 0

theorem registration_recorded_reload :
    Recorded 7 (Run.exec (Sessions.step engine) (start raced race) reloadLate).db :=
  registration_recorded raced race 1 7 race_oneAccepted race_undisputed reloadLate (by decide) _ rfl
    ⟨_, List.mem_singleton.mpr rfl⟩

/-- **A registration is recorded as failed.** -/
theorem registration_overwritten : OneAccepted race 1 7 ∧
    (∀ i, ((Run.exec (Sessions.step engine) (start raced race) reloadEarly).prog i).finished = true) ∧
    (∃ events, (Run.exec (Sessions.step engine) (start raced race) reloadEarly).prog 1 = .ret events ∧
      Registered 7 events) ∧
    (Run.exec (Sessions.step engine) (start raced race) reloadEarly).db.openProviderDomainId =
      some 7 ∧
    (Run.exec (Sessions.step engine) (start raced race) reloadEarly).db.status =
      .provisionFailed :=
  ⟨race_oneAccepted, by decide, ⟨_, rfl, ⟨_, List.mem_singleton.mpr rfl⟩⟩, by decide, by decide⟩

/-- The cart's verify comes after the registration, and its poll denies it. Meanwhile another event
of the webhook confirms the order. The lookup then finds the record, but not its details. -/
def disputed : Fin 3 → Path
  | 0 => .cartVerify (fun _ => []) { Answers.registers 7 false with
      sync := some false
      beforeCheck := ⟨.ok (some 7), ⟨none, none⟩, none⟩
      register := .rejected [] } 0
  | 1 => .webhook (fun _ => []) (.registers 7 false) 0 none
  | 2 => .webhook (fun _ => []) { Answers.registers 7 false with register := .rejected [] } 0
      (some true)

def disputedRun : List (Fin 3) :=
  List.replicate 9 1 ++ [0, 0] ++ List.replicate 6 2 ++ List.replicate 7 0

/-- **Fresh `UPDATE`s alone do not save a registration**: the poll's `save` reads the row back, and
the call goes on though the order is `ACTIVE` by then. -/
theorem registration_disputed :
    Run.Meets (Sessions.step engine) (Sessions.Allowed engine Fresh) (start raced disputed)
      disputedRun ∧
    (Run.exec (Sessions.step engine) (start raced disputed) disputedRun).db.status =
      .provisionFailed :=
  ⟨by decide, by decide⟩

end Deltapreneur.Storefront.Concurrent

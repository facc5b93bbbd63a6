import Deltapreneur.Platform.TrackRecords

/-!
# Does every order get its own track record?

`sync_historical_purchases` on any set of registration and transfer orders, any number of times and
with the rows in any order, over any table of track records.

A row without a record of its own takes the first record with its payment, or else with its
Razorpay order. `record_paid_attempt` does not: "Cart checkouts share one Razorpay payment across
multiple line items", so it looks for an internal id only.

* `own t id` is the record `TRK-REG-<id>`, which belongs to the order `id`.
* The sections of the sync that read other tables find nothing there.

Results:

* `all_own_iff`: after a sync each order has its record exactly if every row was proper.
* `meets_proper_iff`: and that is decided by the table and the orders before the sync, whatever the
  order of the rows.
* `eachOwn_iff`: the property holds exactly then.
* `siblings_share_a_record`: a cart with two domains.
-/

namespace Deltapreneur.TrackRecords

open Registration (RegistrationId)
open Run

/-! ## The property -/

/-- The record of an order. -/
def own (t : Table) (id : RegistrationId) : Option TrackRecord :=
  findByInternalOrderId t (.registration id)

/-- What a record shows of its order. -/
def TrackRecord.shown (r : TrackRecord) :
    TrackRecordCategory × Option Time × String × FulfillmentStatus × OverallStatus :=
  (r.category, r.createdAt, r.itemName, r.statuses)

/-- The row of an order leaves the records of the others. -/
def KeepsOthers (t : Table) (o : Order) (t' : Table) : Prop :=
  ∀ id, id ≠ o.id → (own t' id).map (·.shown) = (own t id).map (·.shown)

/-- **The property.** After every sync each order has a record of its own, and no row writes to the
record of another order. -/
structure EachOwn (orders : List Order) (t : Table) (syncs : List (List Order)) : Prop where
  recorded : ∀ pre, pre <+: syncs → pre ≠ [] →
    ∀ o ∈ orders, own (exec syncHistoricalPurchases t pre) o.id ≠ none
  kept : AllSteps syncRow KeepsOthers t syncs.flatten

/-! ## The condition -/

/-- The row of `o` takes a record with this payment and this Razorpay order for its own. -/
def Order.Shares (o : Order) (payment : Option PaymentId) (order : Option OrderId) : Prop :=
  (o.razorpayPaymentId ≠ none ∧ payment = o.razorpayPaymentId) ∨
    (o.razorpayOrderId ≠ none ∧ order = o.razorpayOrderId)

/-- No record does. -/
def Free (t : Table) (o : Order) : Prop :=
  ∀ r ∈ t, ¬ o.Shares r.razorpayPaymentId r.razorpayOrderId

/-- **The condition.** The orders that have no record share their payment and their Razorpay order
with no record and with none of each other. -/
structure Apart (orders : List Order) (t : Table) : Prop where
  free : ∀ o ∈ orders, own t o.id = none → Free t o
  separate : ∀ o ∈ orders, ∀ o' ∈ orders, own t o.id = none → own t o'.id = none → o'.id ≠ o.id →
    ¬ o.Shares o'.razorpayPaymentId o'.razorpayOrderId

instance (payment : Option PaymentId) (order : Option OrderId) (o : Order) :
    Decidable (o.Shares payment order) :=
  inferInstanceAs (Decidable (_ ∨ _))

instance (t : Table) (o : Order) : Decidable (Free t o) :=
  inferInstanceAs (Decidable (∀ r ∈ t, _))

instance (orders : List Order) (t : Table) : Decidable (Apart orders t) :=
  decidable_of_iff
    ((∀ o ∈ orders, own t o.id = none → Free t o) ∧
      ∀ o ∈ orders, ∀ o' ∈ orders, own t o.id = none → own t o'.id = none → o'.id ≠ o.id →
        ¬ o.Shares o'.razorpayPaymentId o'.razorpayOrderId)
    ⟨fun h => ⟨h.1, h.2⟩, fun h => ⟨h.free, h.separate⟩⟩

/-! ## One row -/

/-- The row finds its own record, or nothing. -/
def Proper (t : Table) (o : Order) : Prop := own t o.id = none → Free t o

variable {t : Table} {o o' : Order} {r : TrackRecord} {id : RegistrationId} {rows orders : List Order}

theorem Order.Shares.symm (h : o.Shares o'.razorpayPaymentId o'.razorpayOrderId) :
    o'.Shares o.razorpayPaymentId o.razorpayOrderId := by
  obtain ⟨hsome, hpayment⟩ | ⟨hsome, horder⟩ := h
  · exact .inl ⟨hpayment ▸ hsome, hpayment.symm⟩
  · exact .inr ⟨horder ▸ hsome, horder.symm⟩

theorem existing_eq_none_iff (h : own t o.id = none) : existing t o = none ↔ Free t o := by
  have hpaid : o.razorpayPaymentId.bind (findByRazorpayPaymentId t) = none ↔
      ∀ r ∈ t, o.razorpayPaymentId ≠ none → r.razorpayPaymentId ≠ o.razorpayPaymentId := by
    cases o.razorpayPaymentId <;> simp [findByRazorpayPaymentId]
  have hordered : o.razorpayOrderId.bind (findByRazorpayOrderId t) = none ↔
      ∀ r ∈ t, o.razorpayOrderId ≠ none → r.razorpayOrderId ≠ o.razorpayOrderId := by
    cases o.razorpayOrderId <;> simp [findByRazorpayOrderId]
  have hown : findByInternalOrderId t (.registration o.id) = none := h
  simp only [existing, hown, Option.none_or, Option.or_eq_none_iff, hpaid, hordered, Free,
    Order.Shares, not_or, not_and]
  exact ⟨fun ⟨hp, ho⟩ r hr => ⟨hp r hr, ho r hr⟩,
    fun h => ⟨fun r hr => (h r hr).1, fun r hr => (h r hr).2⟩⟩

theorem syncRow_own (h : own t o.id = some r) : syncRow t o =
    Table.update (·.internalOrderId) (.registration o.id) (·.refreshed o) t := by
  have hown : findByInternalOrderId t (.registration o.id) = some r := h
  have hexisting : existing t o = some r := by simp [existing, hown]
  obtain ⟨-, hid⟩ := Table.lookup_eq_some hown
  simp only [syncRow, hexisting, hid]

theorem syncRow_free (h : own t o.id = none) (hfree : Free t o) :
    syncRow t o = t ++ [(firstSync o).outcome (.registration o.id) none] := by
  simp only [syncRow, (existing_eq_none_iff h).mpr hfree]
  exact recordPaidAttempt_none 0 rfl h

theorem syncRow_taken (h : own t o.id = none) (hfree : ¬ Free t o) :
    ∃ id, id ≠ .registration o.id ∧
      syncRow t o = Table.update (·.internalOrderId) id (·.refreshed o) t := by
  rw [← existing_eq_none_iff h] at hfree
  obtain ⟨r, hr⟩ := Option.ne_none_iff_exists'.mp hfree
  have hmem : r ∈ t := by
    have hown : findByInternalOrderId t (.registration o.id) = none := h
    simp only [existing, hown, Option.none_or, Option.or_eq_some_iff] at hr
    obtain hpaid | ⟨-, hordered⟩ := hr
    · obtain ⟨payment, -, hfind⟩ := Option.bind_eq_some_iff.mp hpaid
      exact List.mem_of_find?_eq_some hfind
    · obtain ⟨order, -, hfind⟩ := Option.bind_eq_some_iff.mp hordered
      exact List.mem_of_find?_eq_some hfind
  refine ⟨r.internalOrderId, Table.lookup_eq_none.mp h r hmem, ?_⟩
  simp only [syncRow, hr]

theorem own_update (o : Order) (k : InternalId) (t : Table) (id : RegistrationId) :
    own (Table.update (·.internalOrderId) k (·.refreshed o) t) id =
      if .registration id = k then (own t id).map (·.refreshed o) else own t id := by
  split_ifs with hk
  · subst hk
    exact Table.lookup_update_self (fun r => refreshed_internalOrderId r o) t
  · exact Table.lookup_update_ne hk (fun r => refreshed_internalOrderId r o) t

theorem own_append (h : r.internalOrderId = .registration o.id) :
    own (t ++ [r]) id = (own t id).or (if o.id = id then some r else none) := by
  simp only [own, find_append, h, InternalId.registration.injEq]

theorem own_syncRow_eq_none_iff (hid : id ≠ o.id) :
    own (syncRow t o) id = none ↔ own t id = none := by
  cases h : own t o.id with
  | some r =>
    rw [syncRow_own h, own_update]
    split_ifs <;> simp
  | none =>
    by_cases hfree : Free t o
    · rw [syncRow_free h hfree, own_append rfl, if_neg hid.symm, Option.or_none]
    · obtain ⟨k, -, heq⟩ := syncRow_taken h hfree
      rw [heq, own_update]
      split_ifs <;> simp

theorem own_syncRow_ne (hproper : Proper t o) (hid : id ≠ o.id) :
    own (syncRow t o) id = own t id := by
  cases h : own t o.id with
  | some r =>
    rw [syncRow_own h, own_update, if_neg (by simpa using hid)]
  | none =>
    rw [syncRow_free h (hproper h), own_append rfl, if_neg hid.symm, Option.or_none]

/-- After a row its order has a record exactly if the row was proper. -/
theorem own_syncRow_self : own (syncRow t o) o.id ≠ none ↔ Proper t o := by
  cases h : own t o.id with
  | some r =>
    have hown : own (syncRow t o) o.id = some (r.refreshed o) := by
      rw [syncRow_own h, own_update, if_pos rfl, h]
      rfl
    simp [hown, Proper, h]
  | none =>
    by_cases hfree : Free t o
    · have hown : own (syncRow t o) o.id ≠ none := by
        rw [syncRow_free h hfree, own_append rfl, h, if_pos rfl]
        simp
      simp [hown, Proper, hfree]
    · obtain ⟨k, hk, heq⟩ := syncRow_taken h hfree
      have hown : own (syncRow t o) o.id = none := by
        rw [heq, own_update, if_neg hk.symm, h]
      simp [hown, Proper, h, hfree]

theorem keepsOthers_of_proper (hproper : Proper t o) : KeepsOthers t o (syncRow t o) :=
  fun _ hid => congrArg (Option.map _) (own_syncRow_ne hproper hid)

theorem free_syncRow_iff (hproper : Proper t o) : Free (syncRow t o) o' ↔
    Free t o' ∧ (own t o.id = none → ¬ o'.Shares o.razorpayPaymentId o.razorpayOrderId) := by
  cases h : own t o.id with
  | some r =>
    simp only [syncRow_own h, reduceCtorEq, false_implies, and_true]
    unfold Free Table.update
    rw [List.forall_mem_map]
    refine forall₂_congr fun x _ => ?_
    split_ifs <;> simp
  | none =>
    simp only [syncRow_free h (hproper h), forall_const]
    unfold Free
    rw [List.forall_mem_append, List.forall_mem_singleton]
    rfl

/-! ## One sync -/

/-- Whether all rows are proper is decided before the sync, whatever their order. -/
theorem meets_proper_iff : ∀ {rows : List Order} {t : Table}, (rows.map (·.id)).Nodup →
    (Meets syncRow (fun t o => Proper t o) t rows ↔ Apart rows t)
  | [], t, _ => ⟨fun _ => ⟨by simp, by simp⟩, fun _ => trivial⟩
  | o :: rows, t, hids => by
    rw [List.map_cons, List.nodup_cons] at hids
    have hne (o' : Order) (h : o' ∈ rows) : o'.id ≠ o.id :=
      fun heq => hids.1 (heq ▸ List.mem_map_of_mem h)
    have ih := meets_proper_iff (t := syncRow t o) hids.2
    constructor
    · rintro ⟨hproper, hrest⟩
      have hapart := ih.mp hrest
      have hstays (o' : Order) (h : o' ∈ rows) (hnone : own t o'.id = none) :=
        (own_syncRow_eq_none_iff (hne o' h)).mpr hnone
      have hfree (o' : Order) (h : o' ∈ rows) (hnone : own t o'.id = none) :=
        (free_syncRow_iff hproper).mp (hapart.free o' h (hstays o' h hnone))
      refine ⟨?_, ?_⟩
      · rintro o' ho'
        rcases List.mem_cons.mp ho' with rfl | ho'
        · exact hproper
        · exact fun hnone => (hfree o' ho' hnone).1
      · rintro x hx y hy hxnone hynone hxy
        rcases List.mem_cons.mp hx with hxo | hx' <;> rcases List.mem_cons.mp hy with hyo | hy'
        · exact absurd (by rw [hyo, hxo]) hxy
        · subst hxo
          exact fun hshares => (hfree y hy' hynone).2 hxnone hshares.symm
        · subst hyo
          exact (hfree x hx' hxnone).2 hynone
        · exact hapart.separate x hx' y hy' (hstays x hx' hxnone) (hstays y hy' hynone) hxy
    · intro hapart
      have hproper : Proper t o := hapart.free o List.mem_cons_self
      refine ⟨hproper, ih.mpr ⟨?_, ?_⟩⟩
      · intro o' ho' hnone
        rw [own_syncRow_eq_none_iff (hne o' ho')] at hnone
        rw [free_syncRow_iff hproper]
        refine ⟨hapart.free o' (List.mem_cons_of_mem o ho') hnone, fun h => ?_⟩
        exact hapart.separate o' (List.mem_cons_of_mem o ho') o List.mem_cons_self hnone h
          (hne o' ho').symm
      · intro x hx y hy hxnone hynone hxy
        rw [own_syncRow_eq_none_iff (hne x hx)] at hxnone
        rw [own_syncRow_eq_none_iff (hne y hy)] at hynone
        exact hapart.separate x (List.mem_cons_of_mem o hx) y (List.mem_cons_of_mem o hy) hxnone
          hynone hxy

theorem own_sync_eq_none_iff : ∀ {rows : List Order} {t : Table}, id ∉ rows.map (·.id) →
    (own (exec syncRow t rows) id = none ↔ own t id = none)
  | [], _, _ => Iff.rfl
  | o :: rows, t, hid => by
    rw [List.map_cons, List.mem_cons, not_or] at hid
    rw [exec_cons, own_sync_eq_none_iff hid.2, own_syncRow_eq_none_iff hid.1]

theorem all_own_iff : ∀ {rows : List Order} {t : Table}, (rows.map (·.id)).Nodup →
    ((∀ o ∈ rows, own (exec syncRow t rows) o.id ≠ none) ↔
      Meets syncRow (fun t o => Proper t o) t rows)
  | [], _, _ => by simp [Meets, AllSteps]
  | o :: rows, t, hids => by
    rw [List.map_cons, List.nodup_cons] at hids
    have hself : own (exec syncRow (syncRow t o) rows) o.id ≠ none ↔ Proper t o := by
      rw [Ne, own_sync_eq_none_iff hids.1]
      exact own_syncRow_self
    rw [List.forall_mem_cons, exec_cons, hself, all_own_iff hids.2]
    rfl

/-! ## Every sync -/

theorem Apart.perm (hperm : rows.Perm orders) : Apart rows t ↔ Apart orders t :=
  ⟨fun h => ⟨fun o ho => h.free o (hperm.mem_iff.mpr ho), fun o ho o' ho' =>
      h.separate o (hperm.mem_iff.mpr ho) o' (hperm.mem_iff.mpr ho')⟩,
    fun h => ⟨fun o ho => h.free o (hperm.mem_iff.mp ho), fun o ho o' ho' =>
      h.separate o (hperm.mem_iff.mp ho) o' (hperm.mem_iff.mp ho')⟩⟩

/-- Each order has a record. -/
def AllOwn (orders : List Order) (t : Table) : Prop := ∀ o ∈ orders, own t o.id ≠ none

theorem AllOwn.step (h : AllOwn orders t) (ho : o ∈ orders) :
    Proper t o ∧ AllOwn orders (syncRow t o) := by
  have hproper : Proper t o := fun hnone => absurd hnone (h o ho)
  refine ⟨hproper, fun o' ho' => ?_⟩
  by_cases hid : o'.id = o.id
  · rw [hid]
    exact own_syncRow_self.mpr hproper
  · rw [own_syncRow_ne hproper hid]
    exact h o' ho'

theorem AllOwn.run (hrows : ∀ o ∈ rows, o ∈ orders) (h : AllOwn orders t) :
    AllOwn orders (exec syncRow t rows) ∧ AllSteps syncRow KeepsOthers t rows := by
  have hmeets : Meets syncRow (fun _ o => o ∈ orders) t rows := meets_of_forall t hrows
  constructor
  · exact exec_inv (fun _ _ hall ho => (hall.step ho).2) h hmeets
  · exact allSteps_of_inv (fun _ _ hall ho => (hall.step ho).2)
      (fun _ _ hall ho => keepsOthers_of_proper (hall.step ho).1) h hmeets

theorem exec_sync (t : Table) (syncs : List (List Order)) :
    exec syncHistoricalPurchases t syncs = exec syncRow t syncs.flatten := by
  induction syncs generalizing t with
  | nil => rfl
  | cons rows syncs ih =>
    rw [exec_cons, ih, List.flatten_cons, exec_append]
    rfl

/-- **The exact condition**: each order has its own record after every sync, and no row writes to
the record of another order, if and only if the orders that have no record before the first sync
share their payment and their Razorpay order with no record and with none of each other. -/
theorem eachOwn_iff (hids : (orders.map (·.id)).Nodup) {first : List Order}
    {rest : List (List Order)} (hfirst : first.Perm orders)
    (hrest : ∀ rows ∈ rest, rows.Perm orders) :
    EachOwn orders t (first :: rest) ↔ Apart orders t := by
  have hnodup : (first.map (·.id)).Nodup := (hfirst.map _).nodup_iff.mpr hids
  rw [← Apart.perm hfirst, ← meets_proper_iff hnodup]
  constructor
  · intro h
    rw [← all_own_iff hnodup]
    intro o ho
    exact h.recorded [first] (by simp) (by simp) o (hfirst.mem_iff.mp ho)
  · intro hmeets
    have hall : AllOwn orders (exec syncRow t first) := fun o ho =>
      (all_own_iff hnodup).mpr hmeets o (hfirst.mem_iff.mpr ho)
    have hkept : AllSteps syncRow KeepsOthers t first :=
      allSteps_of_inv (P := fun _ => True) (fun _ _ _ _ => trivial)
        (fun _ _ _ hproper => keepsOthers_of_proper hproper) trivial hmeets
    have hmem (syncs : List (List Order)) (h : ∀ rows ∈ syncs, rows.Perm orders) :
        ∀ o ∈ syncs.flatten, o ∈ orders := by
      intro o ho
      obtain ⟨rows, hrows, ho⟩ := List.mem_flatten.mp ho
      exact (h rows hrows).mem_iff.mp ho
    refine ⟨fun pre hpre hne => ?_, ?_⟩
    · obtain ⟨rows, pre, rfl⟩ := List.exists_cons_of_ne_nil hne
      obtain ⟨rfl, hpre'⟩ := List.cons_prefix_cons.mp hpre
      rw [exec_cons, exec_sync]
      exact (hall.run (hmem pre fun rows hrows => hrest rows (hpre'.subset hrows))).1
    · rw [List.flatten_cons, allSteps_append]
      exact ⟨hkept, (hall.run (hmem rest hrest)).2⟩

/-- A paid registration of `name`, active at the registrar. -/
def paidOrder (id : RegistrationId) (name : String) (payment : PaymentId) : Order where
  id := id
  createdAt := some id
  domainName := name
  buyerPhone := none
  razorpayOrderId := some payment
  razorpayPaymentId := some payment
  razorpayRefundId := none
  status := .active
  atReseller := false
  priceSource := ""
  openProviderDomainId := some "77"
  openProviderStatus := "ACT"
  provisionMessage := none
  transferStatus := .none

/-- Two orders with payments of their own, synced twice. -/
theorem eachOwn_separately :
    EachOwn [paidOrder 1 "a.com" 5, paidOrder 2 "b.com" 6] []
      [[paidOrder 2 "b.com" 6, paidOrder 1 "a.com" 5],
        [paidOrder 1 "a.com" 5, paidOrder 2 "b.com" 6]] :=
  (eachOwn_iff (by decide) (List.Perm.swap _ _ _)
    (by simp)).mpr (by decide +kernel)

/-- A cart with two domains, paid at once: the second order takes the record of the first, writes
its own date to it and gets none. -/
theorem siblings_share_a_record :
    ¬ EachOwn [paidOrder 1 "a.com" 5, paidOrder 2 "b.com" 5] []
        [[paidOrder 1 "a.com" 5, paidOrder 2 "b.com" 5]] ∧
      ¬ KeepsOthers (syncRow [] (paidOrder 1 "a.com" 5)) (paidOrder 2 "b.com" 5)
        (syncRow (syncRow [] (paidOrder 1 "a.com" 5)) (paidOrder 2 "b.com" 5)) := by
  constructor
  · intro h
    have hnone : own (exec syncHistoricalPurchases []
        [[paidOrder 1 "a.com" 5, paidOrder 2 "b.com" 5]]) 2 = none := by decide +kernel
    exact h.recorded _ List.prefix_rfl (by simp) (paidOrder 2 "b.com" 5) (by simp) hnone
  · intro h
    exact absurd (h 1 (by decide)) (by decide +kernel)

end Deltapreneur.TrackRecords

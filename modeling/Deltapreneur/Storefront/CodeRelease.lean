import Deltapreneur.Storefront.TransferOut

/-!
# Who gets the transfer code

`retrieve_auth_code_and_unlock` takes the newest of the buyer's orders with the name and looks at
that order alone. Its list of states that bar a transfer bars none (`statusText_not_barred`).

* `Order.entitled`: the order is active, has a domain at the registrar, and no transfer of it is
  in progress.
* `Order.releasable`: what the function tests of it.

**`entitledOnly_iff`**: over all tables of orders, a name is released exactly to the entitled
owners if and only if a newest order that can be released is in no barred state and stands next to
an entitled order (itself, if it is active), and one that cannot be released hides no
entitled order.
-/

namespace Deltapreneur.Storefront

open Registration (RegistrationOrderStatus)

variable {o : Order} {a : CodeAnswers} {w : Counter} {buyerId : UserId} {fqdn : Fqdn}

/-- The states in which no domain is to be unlocked. -/
def barredStatuses : List RegistrationOrderStatus :=
  [.expired, .failed, .paymentFailed, .provisionFailed, .refunded]

/-- The order has a domain at the registrar, and no transfer of it is in progress. -/
def Order.releasable (o : Order) : Bool := o.openProviderDomainId ≠ none ∧ o.requestable

def Order.entitled (o : Order) : Bool := o.status = .active ∧ o.releasable

/-- The registrar was asked to unlock the domain and did. -/
def unlockedDomain : Except CodeRefusal Order → Bool
  | .ok _ | .error .stillLocked | .error .lockUnknown => true
  | .error _ => false

namespace Counter

/-- The buyer's orders for the name. -/
def named (w : Counter) (buyerId : UserId) (fqdn : Fqdn) : List Order :=
  w.desk.orders.filter fun o => o.buyerId = buyerId ∧ o.fqdn = fqdn

/-- A working registrar's code goes to the buyer exactly if one of the buyer's orders for the name is
entitled, and no answer of any registrar makes the function unlock a domain for an order in one
of the barred states. -/
def EntitledOnly (w : Counter) (buyerId : UserId) (fqdn : Fqdn) : Prop :=
  (∀ a : CodeAnswers, a.grants = true →
    ((∃ o', w.request buyerId fqdn a = .ok o') ↔ ∃ o ∈ w.named buyerId fqdn, o.entitled = true)) ∧
  ∀ a o, w.latest buyerId fqdn = some o → unlockedDomain (w.request buyerId fqdn a) = true →
    o.status ∉ barredStatuses

/-- The newest order for the name speaks for all of them. -/
def Representative (w : Counter) (buyerId : UserId) (fqdn : Fqdn) : Prop :=
  match w.latest buyerId fqdn with
  | none => True
  | some o =>
    (o.releasable = true →
      o.status ∉ barredStatuses ∧ ∃ o' ∈ w.named buyerId fqdn, o'.entitled = true) ∧
    (o.releasable = false → ∀ o' ∈ w.named buyerId fqdn, o'.entitled = false)

/-! ## One order -/

theorem released_iff (ha : a.grants = true) :
    (∃ o', retrieveAuthCodeAndUnlock a o = .ok o') ↔ o.releasable = true := by
  simp only [retrieve_ok, ha, true_and, exists_and_left, exists_eq, and_true]
  simp [Order.releasable, and_comm]

theorem unlocked_releasable (h : unlockedDomain (retrieveAuthCodeAndUnlock a o) = true) :
    o.releasable = true := by
  obtain ⟨hbars, hcreated⟩ := statusText_not_barred o.status
  have hcreated' : ¬ (statusText o.status = "CREATED" ∧ o.openProviderDomainId = none) :=
    fun h => hcreated h.1
  unfold retrieveAuthCodeAndUnlock at h
  rw [if_neg hbars, if_neg hcreated'] at h
  by_cases hrequest : o.requestable = true
  · by_cases hid : o.openProviderDomainId = none
    · simp [hrequest, hid, unlockedDomain] at h
    · simp [Order.releasable, hid, hrequest]
  · simp [hrequest, unlockedDomain] at h

/-! ## The newest order -/

theorem named_eq_nil (h : w.latest buyerId fqdn = none) : w.named buyerId fqdn = [] := by
  refine List.filter_eq_nil_iff.mpr fun o ho => ?_
  exact List.find?_eq_none.mp h o (List.mem_reverse.mpr ho)

/-- A registrar that gives the code and unlocks the domain. -/
def working : CodeAnswers := ⟨some false, some true, none, true, some false⟩

/-- **Released exactly to entitled owners**: the buyer's orders for the name meet the condition. -/
theorem entitledOnly_iff (w : Counter) (buyerId : UserId) (fqdn : Fqdn) :
    w.EntitledOnly buyerId fqdn ↔ w.Representative buyerId fqdn := by
  unfold EntitledOnly Representative request
  cases hlatest : w.latest buyerId fqdn with
  | none =>
    simp [named_eq_nil hlatest]
  | some o =>
    have hreleased : ∀ a : CodeAnswers, a.grants = true →
        ((∃ o', retrieveAuthCodeAndUnlock a o = .ok o') ↔ o.releasable = true) :=
      fun a ha => released_iff ha
    constructor
    · rintro ⟨hgiven, hbarred⟩
      refine ⟨fun hreleasable => ?_, fun hreleasable o' ho' => ?_⟩
      · obtain ⟨o', hok⟩ := (hreleased working rfl).mpr hreleasable
        have hunlocked : unlockedDomain (retrieveAuthCodeAndUnlock working o) = true := by
          rw [hok]
          rfl
        refine ⟨hbarred working o rfl hunlocked, ?_⟩
        exact (hgiven working rfl).mp ⟨o', hok⟩
      · by_contra hentitled
        have hok := (hgiven working rfl).mpr ⟨o', ho', by simpa using hentitled⟩
        rw [hreleased working rfl, hreleasable] at hok
        cases hok
    · rintro ⟨hyes, hno⟩
      refine ⟨fun a ha => ?_, ?_⟩
      · rw [hreleased a ha]
        cases hreleasable : o.releasable with
        | true => exact iff_of_true rfl (hyes hreleasable).2
        | false =>
          refine iff_of_false Bool.false_ne_true ?_
          rintro ⟨o', ho', hentitled⟩
          rw [hno hreleasable o' ho'] at hentitled
          cases hentitled
      · rintro a o' ⟨⟩ hunlocked
        exact (hyes (unlocked_releasable hunlocked)).1

/-- An active order with its domain, and a newer one for the same name that was never paid: the
owner is refused. -/
theorem abandoned_order_hides :
    ¬ ∀ (w : Counter) (buyerId : UserId) (fqdn : Fqdn), w.EntitledOnly buyerId fqdn := by
  intro h
  let owned : Order :=
    { Order.created 1 7 5 0 true 1000 1 with status := .active, openProviderDomainId := some 42 }
  let abandoned : Order := Order.created 2 7 5 0 true 1000 2
  let w : Counter := ⟨⟨[owned, abandoned], [], []⟩, []⟩
  have hentitled : ∃ o ∈ w.named 7 5, o.entitled = true := by decide
  obtain ⟨o', hok⟩ := ((h w 7 5).1 working rfl).mpr hentitled
  have hrefused : w.request 7 5 working = .error .notConfigured := by rfl
  rw [hrefused] at hok
  cases hok

end Counter

end Deltapreneur.Storefront

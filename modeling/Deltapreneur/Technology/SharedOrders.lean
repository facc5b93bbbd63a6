import Deltapreneur.Technology.Provisioning

/-!
# Which subscription holds an order of the provider

Before an order is created, the matcher looks among all orders the provider holds for the user, the
product and the email (`client.py:437-475`), and the order it returns is adopted
(`technology_subscription_retry_service.py:451-480`, `cart_checkout_service.py:3078-3110`). Neither
asks whether another subscription has that order.

* `World.Holds w s k id`: the row of `s`, or the object a call at work on `s` has of it, carries
  the provider's `id`.
* `AdoptsFree` is the condition on a step: an order that is adopted is held by no other
  subscription.

Results: `step_holds` (where the ids come from), `holdApart_iff` (subscriptions hold orders apart
exactly when every adopted order is free), `orders_not_shared` for the committed rows.
-/

namespace Deltapreneur.Provisioning

open UnitOfWork

/-! ## Holding an order -/

/-- The two columns that name what the provider runs. -/
inductive IdKind
  | order | service
  deriving Repr, DecidableEq

instance {P : IdKind → Prop} [Decidable (P .order)] [Decidable (P .service)] :
    Decidable (∀ k, P k) :=
  decidable_of_iff (P .order ∧ P .service)
    ⟨fun h k => by cases k with | order => exact h.1 | service => exact h.2,
      fun h => ⟨h .order, h .service⟩⟩

def Subscription.idOf (sub : Subscription) : IdKind → Option Nat
  | .order => sub.providerOrderId
  | .service => sub.providerSubscriptionId

/-- The id that a record carries. -/
def showsId (orderIdShown serviceReady : Bool) : IdKind → Bool
  | .order => orderIdShown
  | .service => serviceReady

def ProviderOrder.shows (o : ProviderOrder) : IdKind → Bool :=
  showsId o.orderIdShown o.serviceReady

def CheckoutAt.objects : CheckoutAt → List Subscription
  | .looking loaded _ | .posting loaded _ => [loaded]
  | .writing loaded new => [loaded, new]

def RetryAt.objects : RetryAt → List Subscription
  | .looking sub _ _ | .posting sub _ _ => [sub]
  | .writing new => [new]

/-- The row, and what the calls at work have of it. -/
def Entry.objects (e : Entry) : List Subscription :=
  e.row :: (e.checkout.elim [] CheckoutAt.objects ++ e.retry.elim [] RetryAt.objects)

def Entry.Holds (e : Entry) (k : IdKind) (id : Nat) : Prop :=
  ∃ sub ∈ e.objects, sub.idOf k = some id

instance (e : Entry) (k : IdKind) (id : Nat) : Decidable (e.Holds k id) :=
  inferInstanceAs (Decidable (∃ sub ∈ e.objects, _))

def World.Holds (w : World) (s : Nat) (k : IdKind) (id : Nat) : Prop :=
  ∃ e ∈ w.subs[s]?, e.Holds k id

instance (w : World) (s : Nat) (k : IdKind) (id : Nat) : Decidable (w.Holds s k id) :=
  inferInstanceAs (Decidable (∃ e ∈ w.subs[s]?, _))

/-- No id is held by two subscriptions. -/
def World.HoldApart (w : World) : Prop :=
  ∀ s t k id, w.Holds s k id → w.Holds t k id → s = t

/-- The ids are ids of orders of the provider. -/
def World.HoldIssued (w : World) : Prop := ∀ s k id, w.Holds s k id → id < w.provider.length

/-! ## Adopting an order -/

/-- An order that a step adopts. -/
structure Adoption where
  sub : Nat
  id : Nat
  order : ProviderOrder
  deriving Repr, DecidableEq

/-- The order a lookup adopts. -/
def World.adopts (cfg : Config) (w : World) : Label → Option Adoption
  | .checkoutLookup s _ reply =>
    match w.subs[s]? with
    | some ⟨_, some (.looking loaded email), none⟩ =>
      match cfg.productKey loaded.serviceSlug with
      | none => none
      | some key =>
        match w.lookup (loaded.payload key email) reply with
        | some (some (id, o)) => if o.orderIdShown then some ⟨s, id, o⟩ else none
        | _ => none
    | _ => none
  | .retryLookup s _ reply =>
    match w.subs[s]? with
    | some ⟨_, _, some (.looking sub email _)⟩ =>
      match cfg.productKey sub.serviceSlug with
      | none => none
      | some key =>
        match w.lookup (sub.payload key email) reply with
        | some (some (id, o)) => some ⟨s, id, o⟩
        | _ => none
    | _ => none
  | _ => none

/-- The condition on a step: an order that is adopted is held by no other subscription. -/
def AdoptsFree (cfg : Config) (w : World) (l : Label) : Prop :=
  ∀ a ∈ w.adopts cfg l, ∀ t < w.subs.length, t ≠ a.sub →
    ∀ k, a.order.shows k = true → ¬ w.Holds t k a.id

instance (cfg : Config) (w : World) (l : Label) : Decidable (AdoptsFree cfg w l) :=
  inferInstanceAs (Decidable (∀ a ∈ w.adopts cfg l, ∀ t < w.subs.length, _))

/-! ## Where an id comes from -/

variable {o : ProviderOrder} {loaded : Subscription}

section Columns

variable {cfg : Config} {now : Time} {sub new : Subscription} {id i : Nat} {k : IdKind}
  {outcome : PostOutcome}

theorem idOf_schedule (sub : Subscription) (status : SubscriptionStatus) (next : Option Time)
    (review : Bool) (attempts : Nat) (k : IdKind) :
    Subscription.idOf { sub with
      status := status
      nextRetryAt := next
      needsReview := review
      provisionAttempts := attempts } k = sub.idOf k := by
  cases k <;> rfl

theorem idOf_scheduleRetry (sub : Subscription) (k : IdKind) :
    (sub.scheduleRetry cfg now).idOf k = sub.idOf k := by
  unfold Subscription.scheduleRetry
  split_ifs <;> exact idOf_schedule sub _ _ _ _ k

theorem idOf_failed (sub : Subscription) (status : SubscriptionStatus) (review : Bool)
    (k : IdKind) :
    Subscription.idOf { sub.scheduleRetry cfg now with
      status := status
      needsReview := review } k = sub.idOf k :=
  (idOf_schedule _ _ _ _ _ k).trans (idOf_scheduleRetry sub k)

theorem idOf_unexpectedError (sub : Subscription) (k : IdKind) :
    (unexpectedError cfg now sub).idOf k = sub.idOf k := by
  simp only [unexpectedError]
  split_ifs <;> exact (idOf_failed _ _ _ k).trans (idOf_schedule sub _ _ _ _ k)

theorem idOf_markFailed (sub : Subscription) (k : IdKind) :
    (markFailed cfg now sub).idOf k = sub.idOf k := by
  unfold markFailed
  split_ifs <;> exact idOf_failed sub _ _ k

theorem idOf_checkoutStopped {why : Stop} (h : checkoutStopped cfg sub why = some new) (k : IdKind) :
    new.idOf k = sub.idOf k := by
  cases why with
  | manual | needsInput =>
    simp only [checkoutStopped] at h
    split_ifs at h
    cases h
    exact idOf_schedule sub _ _ _ _ k
  | portalError | unexpected => cases h

theorem idOf_retryStopped {searched : Bool} {why : Stop}
    (h : retryStopped cfg now sub searched why = some new) (k : IdKind) :
    new.idOf k = sub.idOf k := by
  cases why with
  | manual | needsInput =>
    simp only [retryStopped] at h
    split_ifs at h
    cases h
    exact idOf_schedule sub _ _ _ _ k
  | portalError =>
    simp only [retryStopped] at h
    split_ifs at h
    cases h
    exact (idOf_scheduleRetry _ k).trans (idOf_schedule sub _ _ _ _ k)
  | unexpected =>
    cases h
    exact idOf_unexpectedError sub k

theorem idOf_withIds (sub : Subscription) (id : Nat) (shown ready : Bool) (k : IdKind) :
    (sub.withIds id shown ready).idOf k =
      if showsId shown ready k = true then some id else sub.idOf k := by
  cases k <;> rfl

theorem idOf_adoptExistingOrder (sub : Subscription) (id : Nat) (o : ProviderOrder) (k : IdKind) :
    (adoptExistingOrder cfg now sub id o).idOf k =
      if o.shows k = true then some id else sub.idOf k := by
  rw [ProviderOrder.shows, ← idOf_withIds]
  simp only [adoptExistingOrder]
  split_ifs
  · exact idOf_schedule _ _ _ _ _ k
  · exact (idOf_scheduleRetry _ k).trans (idOf_schedule _ _ _ _ _ k)

theorem idOf_checkoutAdopt (sub : Subscription) (id : Nat) (hshown : o.orderIdShown = true)
    (k : IdKind) :
    (checkoutAdopt now sub id o).idOf k =
      if o.shows k = true then some id else sub.idOf k := by
  rw [ProviderOrder.shows, ← idOf_withIds, hshown]
  simp only [checkoutAdopt]
  split_ifs <;> exact idOf_schedule _ _ _ _ _ k

theorem idOf_afterPost (h : (afterPost cfg now sub id outcome).idOf k = some i) (payload : Payload)
    (s : Nat) : sub.idOf k = some i ∨ i = id ∧ outcome.order payload s ≠ none := by
  cases outcome with
  | active shown =>
    rw [afterPost, idOf_schedule, idOf_withIds] at h
    split_ifs at h
    · exact .inr ⟨(Option.some.inj h).symm, nofun⟩
    · exact .inl h
  | pending ready shown =>
    rw [afterPost, idOf_scheduleRetry, idOf_schedule, idOf_withIds] at h
    split_ifs at h
    · exact .inr ⟨(Option.some.inj h).symm, nofun⟩
    · exact .inl h
  | lost | refused => exact .inl ((idOf_markFailed sub k).symm.trans h)

theorem idOf_checkoutAfterPost (h : (checkoutAfterPost cfg now sub id outcome).idOf k = some i)
    (payload : Payload) (s : Nat) :
    sub.idOf k = some i ∨ i = id ∧ outcome.order payload s ≠ none := by
  cases outcome with
  | active shown =>
    refine .inr ⟨?_, nofun⟩
    cases k
    · simp only [checkoutAfterPost, Subscription.idOf] at h
      split_ifs at h
      exact (Option.some.inj h).symm
    · exact (Option.some.inj h).symm
  | pending ready shown =>
    refine .inr ⟨?_, nofun⟩
    cases k
    all_goals
      simp only [checkoutAfterPost, Subscription.idOf] at h
      split_ifs at h
      exact (Option.some.inj h).symm
  | lost | refused =>
    simp only [checkoutAfterPost] at h
    split_ifs at h <;> exact .inl ((idOf_schedule sub _ _ _ _ k).symm.trans h)

theorem idOf_flush {row : Subscription} (h : (Subscription.flush loaded new row).idOf k = some i) :
    new.idOf k = some i ∨ row.idOf k = some i := by
  cases k
  all_goals
    simp only [Subscription.idOf, Subscription.flush, flushColumn] at h
    split_ifs at h
    · exact .inr h
    · exact .inl h

theorem idOf_startProvisioning (sub : Subscription) (k : IdKind) :
    sub.startProvisioning.idOf k = sub.idOf k :=
  idOf_schedule sub _ _ _ _ k

end Columns

/-! ## What a step does to who holds an id -/

section Holds

variable {cfg : Config} {w : World} {s t email : Nat} {e e' : Entry} {l : Label} {k : IdKind}
  {id : Nat} {reply : LookupReply}

theorem Entry.holds_row (h : e.row.idOf k = some id) : e.Holds k id :=
  ⟨e.row, List.mem_cons_self, h⟩

theorem Entry.holds_checkout {c : CheckoutAt} {sub : Subscription} (hc : e.checkout = some c)
    (hsub : sub ∈ c.objects) (h : sub.idOf k = some id) : e.Holds k id :=
  ⟨sub, by simp [Entry.objects, hc, hsub], h⟩

theorem Entry.holds_retry {r : RetryAt} {sub : Subscription} (hr : e.retry = some r)
    (hsub : sub ∈ r.objects) (h : sub.idOf k = some id) : e.Holds k id :=
  ⟨sub, by simp [Entry.objects, hr, hsub], h⟩

theorem Entry.holds_setCheckout {c : CheckoutAt}
    (h : Entry.Holds { e with checkout := some c } k id) :
    e.Holds k id ∨ ∃ sub ∈ c.objects, sub.idOf k = some id := by
  obtain ⟨sub, hsub, hid⟩ := h
  simp only [Entry.objects, Option.elim_some, List.mem_cons, List.mem_append] at hsub
  obtain rfl | hsub | hsub := hsub
  · exact .inl (holds_row hid)
  · exact .inr ⟨sub, hsub, hid⟩
  · exact .inl ⟨sub, by simp [Entry.objects, hsub], hid⟩

theorem Entry.holds_setRetry {r : RetryAt} (h : Entry.Holds { e with retry := some r } k id) :
    e.Holds k id ∨ ∃ sub ∈ r.objects, sub.idOf k = some id := by
  obtain ⟨sub, hsub, hid⟩ := h
  simp only [Entry.objects, Option.elim_some, List.mem_cons, List.mem_append] at hsub
  obtain rfl | hsub | hsub := hsub
  · exact .inl (holds_row hid)
  · exact .inl ⟨sub, by simp [Entry.objects, hsub], hid⟩
  · exact .inr ⟨sub, hsub, hid⟩

/-! ### Adoptions -/

theorem adopts_checkout {now : Time} {key : Nat} (hentry : w.subs[s]? = some e)
    (hat : e.checkout = some (.looking loaded email)) (hfree : e.retry = none)
    (hkey : cfg.productKey loaded.serviceSlug = some key)
    (hfound : w.lookup (loaded.payload key email) reply = some (some (id, o)))
    (hshown : o.orderIdShown = true) :
    w.adopts cfg (.checkoutLookup s now reply) = some ⟨s, id, o⟩ := by
  obtain ⟨row, checkout, retry⟩ := e
  obtain rfl : checkout = _ := hat
  obtain rfl : retry = _ := hfree
  simp only [World.adopts, hentry, hkey, hfound]
  exact if_pos hshown

theorem adopts_retry {now : Time} {sub : Subscription} {key : Nat} {forced : Bool}
    (hentry : w.subs[s]? = some e) (hat : e.retry = some (.looking sub email forced))
    (hkey : cfg.productKey sub.serviceSlug = some key)
    (hfound : w.lookup (sub.payload key email) reply = some (some (id, o))) :
    w.adopts cfg (.retryLookup s now reply) = some ⟨s, id, o⟩ := by
  obtain ⟨row, checkout, retry⟩ := e
  obtain rfl : retry = _ := hat
  simp only [World.adopts, hentry, hkey, hfound]

/-- The step adopts order `id` for `s`, and the order's record carries the id. -/
def World.AdoptsId (cfg : Config) (w : World) (l : Label) (s : Nat) (k : IdKind) (id : Nat) : Prop :=
  ∃ a ∈ w.adopts cfg l, a.sub = s ∧ a.id = id ∧ a.order.shows k = true

/-- An id that the entry holds after a move, it held before, or the move created the order, or
adopted it. -/
theorem Moves.holds {orders : List ProviderOrder} {posts : List Post}
    (hentry : w.subs[s]? = some e) (hmoves : Moves cfg w s e l e' orders posts)
    (h : e'.Holds k id) :
    e.Holds k id ∨ (id = w.provider.length ∧ orders ≠ [] ∧ l.sub = some s) ∨
      w.AdoptsId cfg l s k id := by
  cases hmoves with
  | checkoutStops loaded email why new hat hfree hstop =>
    obtain h | ⟨sub, hsub, hid⟩ := Entry.holds_setCheckout h
    · exact .inl h
    · refine .inl (Entry.holds_checkout hat (List.mem_singleton_self loaded) ?_)
      obtain rfl | rfl : sub = loaded ∨ sub = new := by simpa [CheckoutAt.objects] using hsub
      · exact hid
      · exact (idOf_checkoutStopped hstop k).symm.trans hid
  | checkoutMisses _ loaded email hat =>
    obtain h | ⟨sub, hsub, hid⟩ := Entry.holds_setCheckout h
    · exact .inl h
    · exact .inl (Entry.holds_checkout hat hsub hid)
  | checkoutAdopts now reply loaded email key i o hat hfree hkey hfound hshown =>
    obtain h | ⟨sub, hsub, hid⟩ := Entry.holds_setCheckout h
    · exact .inl h
    · obtain rfl | rfl :
          sub = loaded ∨ sub = checkoutAdopt now loaded i o := by
        simpa [CheckoutAt.objects] using hsub
      · exact .inl (Entry.holds_checkout hat (List.mem_singleton_self sub) hid)
      · rw [idOf_checkoutAdopt loaded i hshown] at hid
        split_ifs at hid with hshows
        · obtain rfl := Option.some.inj hid
          exact .inr (.inr ⟨⟨s, i, o⟩, adopts_checkout hentry hat hfree hkey hfound hshown,
            rfl, rfl, hshows⟩)
        · exact .inl (Entry.holds_checkout hat (List.mem_singleton_self loaded) hid)
  | checkoutPosts now outcome loaded email key hat hfree hkey =>
    obtain h | ⟨sub, hsub, hid⟩ := Entry.holds_setCheckout h
    · exact .inl h
    · obtain rfl | rfl : sub = loaded ∨ sub =
          checkoutAfterPost cfg now loaded.startProvisioning w.provider.length outcome := by
        simpa [CheckoutAt.objects] using hsub
      · exact .inl (Entry.holds_checkout hat (List.mem_singleton_self sub) hid)
      · obtain hid | ⟨rfl, hnew⟩ := idOf_checkoutAfterPost hid (loaded.payload key email) s
        · exact .inl (Entry.holds_checkout hat (List.mem_singleton_self loaded)
            ((idOf_startProvisioning loaded k).symm.trans hid))
        · exact .inr (.inl ⟨rfl, by simpa using hnew, rfl⟩)
  | checkoutFails now outcome loaded email hat hfree =>
    obtain h | ⟨sub, hsub, hid⟩ := Entry.holds_setCheckout h
    · exact .inl h
    · refine .inl (Entry.holds_checkout hat (List.mem_singleton_self loaded) ?_)
      obtain rfl | rfl : sub = loaded ∨ sub =
          checkoutAfterPost cfg now loaded.startProvisioning w.provider.length .refused := by
        simpa [CheckoutAt.objects] using hsub
      · exact hid
      · obtain hid | ⟨-, hnew⟩ := idOf_checkoutAfterPost hid (loaded.payload 0 email) s
        · exact (idOf_startProvisioning loaded k).symm.trans hid
        · exact absurd rfl hnew
  | checkoutCommits loaded new hat =>
    obtain ⟨sub, hsub, hid⟩ := h
    simp only [Entry.objects, Option.elim_none, List.nil_append, List.mem_cons] at hsub
    obtain rfl | hsub := hsub
    · obtain hid | hid := idOf_flush hid
      · exact .inl (Entry.holds_checkout hat (by simp [CheckoutAt.objects]) hid)
      · exact .inl (Entry.holds_row hid)
    · exact .inl ⟨sub, by simp [Entry.objects, hsub], hid⟩
  | retryStarts _ sub email forced hl hfree hunlocked hactive hlimit hsub =>
    obtain h | ⟨sub', hsub', hid⟩ := Entry.holds_setRetry h
    · exact .inl h
    · obtain rfl := List.mem_singleton.mp hsub'
      obtain rfl | ⟨now, rfl⟩ := hsub
      · exact .inl (Entry.holds_row hid)
      · exact .inl (Entry.holds_row ((idOf_schedule e.row _ _ _ _ k).symm.trans hid))
  | retryStops _ now sub email forced searched why new hat hstop =>
    obtain h | ⟨sub', hsub', hid⟩ := Entry.holds_setRetry h
    · exact .inl h
    · obtain rfl := List.mem_singleton.mp hsub'
      rw [idOf_retryStopped hstop k] at hid
      obtain hat | hat := hat
      · exact .inl (Entry.holds_retry hat (List.mem_singleton_self sub) hid)
      · exact .inl (Entry.holds_retry hat (List.mem_singleton_self sub) hid)
  | retryMisses now reply sub email key forced hat hkey hreply hmissed =>
    obtain h | ⟨sub', hsub', hid⟩ := Entry.holds_setRetry h
    · exact .inl h
    · exact .inl (Entry.holds_retry hat hsub' hid)
  | retryAdopts now reply sub email key i forced o hat hkey hfound =>
    obtain h | ⟨sub', hsub', hid⟩ := Entry.holds_setRetry h
    · exact .inl h
    · obtain rfl := List.mem_singleton.mp hsub'
      rw [idOf_adoptExistingOrder] at hid
      split_ifs at hid with hshows
      · obtain rfl := Option.some.inj hid
        exact .inr (.inr ⟨⟨s, i, o⟩, adopts_retry hentry hat hkey hfound, rfl, rfl, hshows⟩)
      · exact .inl (Entry.holds_retry hat (List.mem_singleton_self sub) hid)
  | retryPosts now outcome sub email key forced hat hkey =>
    obtain h | ⟨sub', hsub', hid⟩ := Entry.holds_setRetry h
    · exact .inl h
    · obtain rfl := List.mem_singleton.mp hsub'
      obtain hid | ⟨rfl, hnew⟩ := idOf_afterPost hid (sub.payload key email) s
      · exact .inl (Entry.holds_retry hat (List.mem_singleton_self sub)
          ((idOf_startProvisioning sub k).symm.trans hid))
      · exact .inr (.inl ⟨rfl, by simpa using hnew, rfl⟩)
  | retryCommits new hat =>
    obtain ⟨sub, hsub, hid⟩ := h
    simp only [Entry.objects, Option.elim_none, List.append_nil, List.mem_cons] at hsub
    obtain rfl | hsub := hsub
    · exact .inl (Entry.holds_retry hat (List.mem_singleton_self sub) hid)
    · exact .inl ⟨sub, by simp [Entry.objects, hsub], hid⟩

theorem not_holds_captured {user : UserId} {slug plan : Nat} {annually : Bool} :
    ¬ Entry.Holds ⟨.captured user slug plan annually,
      some (.looking (.captured user slug plan annually) email), none⟩ k id := by
  rintro ⟨sub, hsub, hid⟩
  obtain rfl : sub = .captured user slug plan annually := by
    simpa [Entry.objects, CheckoutAt.objects] using hsub
  cases k <;> cases hid

/-- **Where ids come from.** What a subscription holds after a step it held before, or the step
created the order, or adopted it. -/
theorem step_holds (cfg : Config) (w : World) (l : Label) (h : (step cfg w l).Holds t k id) :
    w.Holds t k id ∨
      (id = w.provider.length ∧ id < (step cfg w l).provider.length ∧ l.sub = some t) ∨
      w.AdoptsId cfg l t k id := by
  revert h
  generalize hw' : step cfg w l = w'
  have hdoes := step_does cfg w l
  rw [hw'] at hdoes
  rintro ⟨e', he', hid⟩
  cases hdoes with
  | idle => exact .inl ⟨e', he', hid⟩
  | updates => exact .inl ⟨e', he', hid⟩
  | purchases user slug plan annually email =>
    rw [Option.mem_def, List.getElem?_append] at he'
    split_ifs at he' with ht
    · exact .inl ⟨e', he', hid⟩
    · obtain rfl := List.mem_singleton.mp (List.mem_of_getElem? he')
      exact absurd hid not_holds_captured
  | moves _ s e e₁ orders posts hentry hmoves =>
    by_cases hst : s = t
    · subst hst
      obtain rfl : e₁ = e' := by
        have hs : s < w.subs.length := (List.getElem?_eq_some_iff.mp hentry).choose
        simpa [hs] using he'
      obtain h | ⟨rfl, hne, hsub⟩ | h := hmoves.holds hentry hid
      · exact .inl ⟨e, hentry, h⟩
      · refine .inr (.inl ⟨rfl, ?_, hsub⟩)
        have := List.length_pos_iff.mpr hne
        rw [List.length_append]
        omega
      · exact .inr (.inr h)
    · rw [Option.mem_def, List.getElem?_set_ne hst] at he'
      exact .inl ⟨e', he', hid⟩

/-- **An adoption.** The order is the provider's, and the subscription holds it afterwards; the
other subscriptions are as they were. -/
theorem step_adopts {a : Adoption} (h : w.adopts cfg l = some a) :
    w.provider[a.id]? = some a.order ∧ a.sub < w.subs.length ∧
      ∃ e', step cfg w l = w.put a.sub e' ∧ ∀ k, a.order.shows k = true → e'.Holds k a.id := by
  cases l with
  | checkoutLookup s now reply =>
    simp only [World.adopts] at h
    split at h
    · next row loaded email hentry =>
      split at h
      · cases h
      · next key hkey =>
        split at h
        · next id o hfound =>
          split_ifs at h with hshown
          cases h
          refine ⟨lookup_held hfound, (List.getElem?_eq_some_iff.mp hentry).choose,
            ⟨row, some (.writing loaded (checkoutAdopt now loaded id o)), none⟩, ?_, ?_⟩
          · simp only [step, Label.sub, hentry, Label.isCheckout, checkoutStep, hkey, hfound]
            simp [hshown]
          · intro k hshows
            refine Entry.holds_checkout rfl (List.mem_cons_of_mem loaded (List.mem_singleton_self _)) ?_
            rw [idOf_checkoutAdopt loaded id hshown]
            exact if_pos hshows
        · cases h
    · cases h
  | retryLookup s now reply =>
    simp only [World.adopts] at h
    split at h
    · next row checkout sub email forced hentry =>
      split at h
      · cases h
      · next key hkey =>
        split at h
        · next id o hfound =>
          cases h
          refine ⟨lookup_held hfound, (List.getElem?_eq_some_iff.mp hentry).choose,
            ⟨row, checkout, some (.writing (adoptExistingOrder cfg now sub id o))⟩, ?_, ?_⟩
          · cases reply with
            | orders listed =>
              simp only [step, Label.sub, hentry, Label.isCheckout, retryStep, hkey, hfound]
              rfl
            | failed | malformed => cases hfound
          · intro k hshows
            refine Entry.holds_retry rfl (List.mem_singleton_self _) ?_
            rw [idOf_adoptExistingOrder]
            exact if_pos hshows
        · cases h
    · cases h
  | _ => cases h

/-! ## Orders are held apart -/

theorem World.Holds.lt (h : w.Holds t k id) : t < w.subs.length := by
  obtain ⟨e, he, -⟩ := h
  exact (List.getElem?_eq_some_iff.mp he).choose

theorem provider_length_le (cfg : Config) (w : World) (l : Label) :
    w.provider.length ≤ (step cfg w l).provider.length := by
  have hdoes := step_does cfg w l
  revert hdoes
  generalize step cfg w l = w'
  intro hdoes
  cases hdoes with
  | idle | purchases => exact Nat.le_refl _
  | updates => simp
  | moves => simp

theorem holdIssued_step (h : w.HoldIssued) (l : Label) : (step cfg w l).HoldIssued := by
  intro t k id hid
  have hle := provider_length_le cfg w l
  obtain hold | ⟨-, hlt, -⟩ | ⟨a, ha, -, rfl, -⟩ := step_holds cfg w l hid
  · exact Nat.lt_of_lt_of_le (h t k id hold) hle
  · exact hlt
  · obtain ⟨hlt, -⟩ := List.getElem?_eq_some_iff.mp (step_adopts ha).1
    exact Nat.lt_of_lt_of_le hlt hle

theorem holdApart_step (hissued : w.HoldIssued) (hapart : w.HoldApart) (hok : AdoptsFree cfg w l) :
    (step cfg w l).HoldApart := by
  -- an id that came with this step is held by no other subscription
  have hnew : ∀ s t k id, w.Holds s k id → ¬ w.Holds t k id → (step cfg w l).Holds t k id →
      s = t := by
    intro s t k id hs ht hid
    obtain hold | ⟨rfl, -, -⟩ | ⟨a, ha, rfl, rfl, hshows⟩ := step_holds cfg w l hid
    · exact absurd hold ht
    · exact absurd (hissued s k _ hs) (Nat.lt_irrefl _)
    · by_contra hne
      exact hok a ha s hs.lt hne k hshows hs
  intro s t k id hs ht
  by_cases hs' : w.Holds s k id
  · by_cases ht' : w.Holds t k id
    · exact hapart s t k id hs' ht'
    · exact hnew s t k id hs' ht' ht
  · by_cases ht' : w.Holds t k id
    · exact (hnew t s k id ht' hs' hs).symm
    · obtain hold | ⟨rfl, -, hls⟩ | ⟨a, ha, rfl, rfl, -⟩ := step_holds cfg w l hs
      · exact absurd hold hs'
      · obtain hold | ⟨-, -, hlt⟩ | ⟨b, hb, -, hid, -⟩ := step_holds cfg w l ht
        · exact absurd hold ht'
        · exact Option.some.inj (hls.symm.trans hlt)
        · obtain ⟨hlt, -⟩ := List.getElem?_eq_some_iff.mp (step_adopts hb).1
          omega
      · obtain hold | ⟨hid, -, -⟩ | ⟨b, hb, rfl, -, -⟩ := step_holds cfg w l ht
        · exact absurd hold ht'
        · obtain ⟨hlt, -⟩ := List.getElem?_eq_some_iff.mp (step_adopts ha).1
          omega
        · obtain rfl : a = b := Option.some.inj (ha.symm.trans hb)
          rfl

theorem adoptsFree_of_holdApart (h : (step cfg w l).HoldApart) : AdoptsFree cfg w l := by
  intro a ha t ht hne k hshows hheld
  obtain ⟨-, hlt, e', hstep, he'⟩ := step_adopts ha
  refine hne (h t a.sub k a.id ?_ ?_)
  · obtain ⟨e, he, hid⟩ := hheld
    refine ⟨e, ?_, hid⟩
    rw [hstep, World.put, List.getElem?_set_ne (Ne.symm hne)]
    exact he
  · exact ⟨e', by rw [hstep]; simp [World.put, hlt], he' k hshows⟩

end Holds

/-! ## The committed rows -/

/-- No two rows have the same `provider_order_id` or the same `provider_subscription_id`. -/
def World.RowsApart (w : World) : Prop :=
  ∀ (s t : Nat) (e f : Entry), w.subs[s]? = some e → w.subs[t]? = some f →
    (∃ id, e.row.providerOrderId = some id ∧ f.row.providerOrderId = some id) ∨
      (∃ id, e.row.providerSubscriptionId = some id ∧ f.row.providerSubscriptionId = some id) →
    s = t

theorem World.HoldApart.rows {w : World} (h : w.HoldApart) : w.RowsApart := by
  rintro s t e f he hf (⟨id, hs, ht⟩ | ⟨id, hs, ht⟩)
  · exact h s t .order id ⟨e, he, Entry.holds_row hs⟩ ⟨f, hf, Entry.holds_row ht⟩
  · exact h s t .service id ⟨e, he, Entry.holds_row hs⟩ ⟨f, hf, Entry.holds_row ht⟩

theorem holdIssued_init : World.init.HoldIssued := by
  rintro s k id ⟨e, he, -⟩
  cases he

theorem holdApart_init : World.init.HoldApart := by
  rintro s t k id ⟨e, he, -⟩
  cases he

/-- **Holding apart is exactly adopting what is free**, over every run: every state reached holds
the orders apart, in the rows and in what is about to be written to them, if and only if every
order adopted was held by no other subscription. -/
theorem holdApart_iff (cfg : Config) (ls : List Label) :
    Run.AllSteps (step cfg) (fun _ _ w' => w'.HoldApart) .init ls ↔
      Run.Meets (step cfg) (AdoptsFree cfg) .init ls := by
  constructor
  · intro hall
    rw [Run.Meets, Run.allSteps_iff]
    rw [Run.allSteps_iff] at hall
    exact fun pre l post heq => adoptsFree_of_holdApart (hall pre l post heq)
  · refine Run.allSteps_of_inv (P := fun w => w.HoldIssued ∧ w.HoldApart) ?_ ?_
      ⟨holdIssued_init, holdApart_init⟩
    · exact fun w l h hok => ⟨holdIssued_step h.1 l, holdApart_step h.1 h.2 hok⟩
    · exact fun w l h hok => holdApart_step h.1 h.2 hok

/-- **Orders are not shared.** In every run of purchases, checkouts, ticks and admin retries in
which every adopted order was held by no other subscription, no two rows ever have the same order
or service of the provider. -/
theorem orders_not_shared (cfg : Config) (ls : List Label)
    (hls : Run.Meets (step cfg) (AdoptsFree cfg) .init ls) :
    Run.AllSteps (step cfg) (fun _ _ w' => w'.RowsApart) .init ls := by
  rw [Run.allSteps_iff]
  have hall := (Run.allSteps_iff _ _).mp ((holdApart_iff cfg ls).mpr hls)
  exact fun pre l post heq => (hall pre l post heq).rows

/-- One mapped service and five attempts. -/
def oneService : Config := ⟨5, fun _ => some 1⟩

/-- Two users buy the service; the first order's answer is lost, and a retry adopts the order. -/
def twoUsersRun : List Label :=
  [.purchase 1 7 0 false 1, .checkoutLookup 0 0 (.orders []), .checkoutPost 0 0 true
      (.lost .active true true), .checkoutCommit 0,
    .purchase 2 7 0 false 2, .checkoutLookup 1 0 (.orders []), .checkoutPost 1 0 true
      (.active true), .checkoutCommit 1,
    .tickStart 0 400 1, .retryLookup 0 400 (.orders [0]), .retryCommit 0]

theorem twoUsersRun_not_shared :
    Run.AllSteps (step oneService) (fun _ _ w' => w'.RowsApart) .init twoUsersRun :=
  orders_not_shared oneService twoUsersRun (by decide)

/-- A user buys the service twice, in two payments. -/
def sameUserRun : List Label :=
  [.purchase 1 7 0 false 1, .checkoutLookup 0 0 (.orders []), .checkoutPost 0 0 true (.active true),
    .checkoutCommit 0, .purchase 1 7 0 false 1, .checkoutLookup 1 0 (.orders [0]),
    .checkoutCommit 1]

/-- **Both subscriptions have the one order.** -/
theorem second_purchase_shares_order :
    ¬ Run.AllSteps (step oneService) (fun _ _ w' => w'.RowsApart) .init sameUserRun := by
  intro h
  have hlast := (Run.allSteps_iff _ _).mp h (sameUserRun.take 6) _ _ rfl
  exact absurd (hlast 0 1 _ _ rfl rfl (.inl ⟨0, by decide, by decide⟩)) (by decide)

end Deltapreneur.Provisioning

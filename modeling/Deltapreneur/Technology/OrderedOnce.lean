import Deltapreneur.Technology.SharedOrders

/-!
# How often a subscription is ordered

`POST /orders` is not idempotent, so every attempt first looks for the order of an earlier one
(`technology_subscription_retry_service.py:260-272`, `cart_checkout_service.py:3066-3087`). Two
things break this: `list_orders` answers `[]` when `GET /orders` fails (`client.py:419-435`), and
the checkout goes on with the object it has committed, which a tick may have worked on since.

* `OrdersOnce` is what a step must not do wrong.
* `SafeAttempt` is the condition on a step: a retry's lookup fails only when the provider holds no
  order made for that subscription, and the checkout writes only to a row that is still
  `PAYMENT_CAPTURED`, so that no retry has committed since.
* `Standing` is the invariant of one subscription: what has been sent for it and what the provider
  holds of it, by where the checkout and the retry of it stand.

Results: `move_ok` (every move keeps the subscription standing and orders nothing twice),
`good_does` for the whole system, `ordered_once` for runs, and `failed_lookup_orders_twice`.
-/

namespace Deltapreneur.Provisioning

open UnitOfWork

/-! ## What has been sent for a subscription -/

/-- The `POST /orders` sent for `s`. -/
def World.sent (w : World) (s : Nat) : List Post := w.posts.filter fun p => p.sub = s

/-- What the orders ask for that the provider holds and that were created for `s`. -/
def World.made (w : World) (s : Nat) : List Payload :=
  (w.provider.filter fun o => o.createdFor = s).map (·.payload)

/-- The number of attempts no admin has forced. -/
def unforced (sent : List Post) : Nat := sent.countP fun p => p.forced = false

/-! ## One step -/

/-- What a step must not do wrong. -/
structure OrdersOnce (cfg : Config) (w w' : World) : Prop where
  /-- No order is asked for that the provider already holds for the subscription. -/
  fresh : ∀ p, w'.posts = p :: w.posts → p.payload ∉ w.made p.sub
  /-- The number of attempts is bounded. -/
  bounded : ∀ s, unforced (w'.sent s) ≤ cfg.maxRetries
  /-- Nothing is ordered for an active subscription. -/
  unprovisioned : ∀ p, w'.posts = p :: w.posts → ∀ e ∈ w.subs[p.sub]?, e.row.status ≠ .active
  /-- An active subscription stays active. -/
  active : ∀ s : Nat, ∀ e ∈ w.subs[s]?, e.row.status = .active →
    ∀ e' ∈ w'.subs[s]?, e'.row.status = .active

/-! ## The condition on a step -/

/-- The checkout of `s`, when it gets to write, finds the row as it has committed it. -/
def RowUntouched (w : World) (s : Nat) : Prop :=
  ∀ e ∈ w.subs[s]?, e.checkout ≠ none → e.retry = none → e.row.status = .paymentCaptured

/-- A retry at `r` has an order of its own to find. -/
def RetryAt.Ordered (cfg : Config) (made : List Payload) : RetryAt → Prop
  | .looking sub email _ => ∃ key ∈ cfg.productKey sub.serviceSlug, sub.payload key email ∈ made
  | _ => False

/-- The condition on a step. -/
def SafeAttempt (cfg : Config) (w : World) : Label → Prop
  | .checkoutStop s _ | .checkoutPost s _ _ _ => RowUntouched w s
  | .checkoutLookup s now reply =>
    w.adopts cfg (.checkoutLookup s now reply) ≠ none → RowUntouched w s
  | .retryLookup s _ reply =>
    reply = .failed → ∀ e ∈ w.subs[s]?, ∀ r ∈ e.retry, ¬ r.Ordered cfg (w.made s)
  | _ => True

instance (w : World) (s : Nat) : Decidable (RowUntouched w s) :=
  inferInstanceAs (Decidable (∀ e ∈ w.subs[s]?, _ → _))

instance (cfg : Config) (made : List Payload) (r : RetryAt) : Decidable (r.Ordered cfg made) :=
  match r with
  | .looking sub _ _ =>
    inferInstanceAs (Decidable (∃ key ∈ cfg.productKey sub.serviceSlug, _))
  | .posting _ _ _ | .writing _ => inferInstanceAs (Decidable False)

instance (cfg : Config) (w : World) (l : Label) : Decidable (SafeAttempt cfg w l) := by
  unfold SafeAttempt
  split <;> infer_instance

/-! ## The invariant of a subscription -/

/-- The checkout has not written, and has the row as it was committed. -/
def Waits : Option CheckoutAt → Prop
  | none => True
  | some (.looking loaded _) | some (.posting loaded _) =>
    loaded.status = .paymentCaptured ∧ loaded.provisionAttempts = 0
  | some (.writing _ _) => False

/-- How a subscription stands, when `sent` has been sent for it and the provider holds `made`. -/
inductive Standing (cfg : Config) (sent : List Post) (made : List Payload) : Entry → Prop
  | free (row : Subscription) (checkout : Option CheckoutAt) (hwaits : Waits checkout)
      (huntouched : row.status = .paymentCaptured → sent = [] ∧ made = [])
      (hcount : unforced sent ≤ min cfg.limit row.provisionAttempts) :
      Standing cfg sent made ⟨row, checkout, none⟩
  | writing (row loaded new : Subscription) (hrow : row.status = .paymentCaptured)
      (hloaded : loaded.status = .paymentCaptured ∧ loaded.provisionAttempts = 0)
      (hnew : new.status ≠ .paymentCaptured)
      (hcount : unforced sent ≤ min cfg.limit new.provisionAttempts) :
      Standing cfg sent made ⟨row, some (.writing loaded new), none⟩
  | looking (row : Subscription) (checkout : Option CheckoutAt) (sub : Subscription) (email : Nat)
      (forced : Bool) (hwaits : Waits checkout) (hactive : row.status ≠ .active)
      (hcount : unforced sent ≤ min cfg.limit sub.provisionAttempts)
      (hlimit : forced = true ∨ sub.provisionAttempts < cfg.limit) :
      Standing cfg sent made ⟨row, checkout, some (.looking sub email forced)⟩
  | posting (row : Subscription) (checkout : Option CheckoutAt) (sub : Subscription) (email : Nat)
      (forced : Bool) (hwaits : Waits checkout) (hactive : row.status ≠ .active)
      (hcount : unforced sent ≤ min cfg.limit sub.provisionAttempts)
      (hlimit : forced = true ∨ sub.provisionAttempts < cfg.limit)
      (hnew : ∀ key ∈ cfg.productKey sub.serviceSlug, sub.payload key email ∉ made) :
      Standing cfg sent made ⟨row, checkout, some (.posting sub email forced)⟩
  | retried (row : Subscription) (checkout : Option CheckoutAt) (new : Subscription)
      (hwaits : Waits checkout) (hactive : row.status ≠ .active)
      (hnew : new.status ≠ .paymentCaptured)
      (hcount : unforced sent ≤ min cfg.limit new.provisionAttempts) :
      Standing cfg sent made ⟨row, checkout, some (.writing new)⟩

/-! ## The columns of the schedule -/

section Columns

variable {cfg : Config} {now : Time} {sub new : Subscription} {id : Nat} {o : ProviderOrder}
  {outcome : PostOutcome}

theorem one_le_limit (cfg : Config) : 1 ≤ cfg.limit := Nat.le_max_left 1 cfg.maxRetries

@[simp] theorem attempts_scheduleRetry (sub : Subscription) :
    (sub.scheduleRetry cfg now).provisionAttempts = sub.provisionAttempts := by
  unfold Subscription.scheduleRetry
  split_ifs <;> rfl

@[simp] theorem status_scheduleRetry (sub : Subscription) :
    (sub.scheduleRetry cfg now).status = sub.status := by
  unfold Subscription.scheduleRetry
  split_ifs <;> rfl

@[simp] theorem attempts_startProvisioning (sub : Subscription) :
    sub.startProvisioning.provisionAttempts = sub.provisionAttempts + 1 := rfl

theorem status_checkoutStopped {why : Stop} (h : checkoutStopped cfg sub why = some new) :
    new.status ≠ .paymentCaptured := by
  cases why with
  | manual | needsInput =>
    simp only [checkoutStopped] at h
    split_ifs at h
    cases h
    simp [markManualFulfillment, Subscription.needsInput]
  | portalError | unexpected => cases h

theorem status_checkoutAdopt : (checkoutAdopt now sub id o).status ≠ .paymentCaptured := by
  simp only [checkoutAdopt]
  split_ifs <;> simp

theorem checkoutAfterPost_spec (cfg : Config) (now : Time) (sub : Subscription) (id : Nat)
    (outcome : PostOutcome) :
    (checkoutAfterPost cfg now sub id outcome).status ≠ .paymentCaptured ∧
      (checkoutAfterPost cfg now sub id outcome).provisionAttempts = sub.provisionAttempts := by
  cases outcome with
  | active | pending => simp [checkoutAfterPost]
  | lost | refused =>
    simp only [checkoutAfterPost]
    split_ifs <;> simp

theorem retryStopped_spec {searched : Bool} {why : Stop}
    (h : retryStopped cfg now sub searched why = some new) :
    new.status ≠ .paymentCaptured ∧
      (sub.provisionAttempts ≤ new.provisionAttempts ∨ new.provisionAttempts = cfg.limit) := by
  cases why with
  | manual | needsInput | portalError =>
    simp only [retryStopped] at h
    split_ifs at h
    cases h
    simp [markManualFulfillment, Subscription.needsInput]
  | unexpected =>
    cases h
    have hle := Nat.le_max_left sub.provisionAttempts 1
    simp only [unexpectedError]
    split_ifs <;> simp [hle]

theorem adoptExistingOrder_spec (cfg : Config) (now : Time) (sub : Subscription) (id : Nat)
    (o : ProviderOrder) :
    (adoptExistingOrder cfg now sub id o).status ≠ .paymentCaptured ∧
      (adoptExistingOrder cfg now sub id o).provisionAttempts = sub.provisionAttempts := by
  simp only [adoptExistingOrder]
  split_ifs <;> simp [Subscription.withIds]

theorem afterPost_spec (cfg : Config) (now : Time) (sub : Subscription) (id : Nat)
    (outcome : PostOutcome) :
    (afterPost cfg now sub id outcome).status ≠ .paymentCaptured ∧
      (afterPost cfg now sub id outcome).provisionAttempts = sub.provisionAttempts := by
  cases outcome with
  | active | pending => simp [afterPost, Subscription.withIds]
  | lost | refused =>
    simp only [afterPost, markFailed]
    split_ifs <;> simp

end Columns

/-! ## One move -/

section Move

variable {cfg : Config} {w : World} {s : Nat} {e e' : Entry} {l : Label}
  {orders : List ProviderOrder} {posts : List Post} {sent : List Post} {made : List Payload}

theorem mem_made {want : Payload} (h : want ∈ w.made s) :
    ∃ (i : Nat) (o : ProviderOrder), w.provider[i]? = some o ∧ o.payload = want := by
  obtain ⟨o, ho, heq⟩ := List.mem_map.mp h
  obtain ⟨i, hi⟩ := List.mem_iff_getElem?.mp (List.mem_filter.mp ho).1
  exact ⟨i, o, hi, heq⟩

theorem not_mem_made {want : Payload} {listed : List Nat}
    (h : w.lookup want (.orders listed) = some none) : want ∉ w.made s := by
  intro hmem
  obtain ⟨i, o, ho, hwant⟩ := mem_made hmem
  exact lookup_finds h ho hwant rfl

theorem Standing.waits (h : Standing cfg sent made e) (hunlocked : e.lockedByCheckout = false) :
    Waits e.checkout := by
  cases h with
  | free row checkout hwaits => exact hwaits
  | writing => cases hunlocked
  | looking row checkout sub email forced hwaits => exact hwaits
  | posting row checkout sub email forced hwaits => exact hwaits
  | retried row checkout new hwaits => exact hwaits

theorem Standing.setCheckout {c : Option CheckoutAt} (h : Standing cfg sent made e)
    (hunlocked : e.lockedByCheckout = false) (hc : Waits c) :
    Standing cfg sent made { e with checkout := c } := by
  cases h with
  | free row checkout hwaits huntouched hcount => exact .free row c hc huntouched hcount
  | writing => cases hunlocked
  | looking row checkout sub email forced hwaits hactive hcount hlimit =>
    exact .looking row c sub email forced hc hactive hcount hlimit
  | posting row checkout sub email forced hwaits hactive hcount hlimit hnew =>
    exact .posting row c sub email forced hc hactive hcount hlimit hnew
  | retried row checkout new hwaits hactive hnew hcount =>
    exact .retried row c new hc hactive hnew hcount

theorem Standing.first (h : Standing cfg sent made e) (hunlocked : e.lockedByCheckout = false)
    (hfree : e.retry = none) (hrow : e.row.status = .paymentCaptured) : sent = [] ∧ made = [] := by
  cases h with
  | free row checkout hwaits huntouched hcount => exact huntouched hrow
  | writing => cases hunlocked
  | looking | posting | retried => cases hfree

theorem Standing.write {loaded new : Subscription}
    (hloaded : loaded.status = .paymentCaptured ∧ loaded.provisionAttempts = 0)
    (hfree : e.retry = none) (hrow : e.row.status = .paymentCaptured)
    (hnew : new.status ≠ .paymentCaptured)
    (hcount : unforced sent ≤ min cfg.limit new.provisionAttempts) :
    Standing cfg sent made { e with checkout := some (.writing loaded new) } := by
  obtain ⟨row, checkout, retry⟩ := e
  obtain rfl : retry = none := hfree
  exact .writing row loaded new hrow hloaded hnew hcount

/-- What a move leaves, and what it sends. -/
structure MoveOk (cfg : Config) (w : World) (s : Nat) (e e' : Entry) (orders : List ProviderOrder)
    (posts : List Post) : Prop where
  standing : Standing cfg (posts ++ w.sent s) (w.made s ++ orders.map (·.payload)) e'
  fresh : ∀ p ∈ posts, p.sub = s ∧ p.payload ∉ w.made s ∧ e.row.status ≠ .active
  own : ∀ o ∈ orders, o.createdFor = s
  active : e.row.status = .active → e'.row.status = .active

theorem MoveOk.quiet (hstanding : Standing cfg (w.sent s) (w.made s) e')
    (hactive : e.row.status = .active → e'.row.status = .active) : MoveOk cfg w s e e' [] [] where
  standing := by simpa using hstanding
  fresh := by simp
  own := by simp
  active := hactive

theorem order_own {outcome : PostOutcome} {payload : Payload} :
    ∀ o ∈ (outcome.order payload s).toList, o.createdFor = s := by
  cases outcome <;> simp [PostOutcome.order]

/-- **Every move that meets the condition** keeps the subscription standing, and orders nothing
that is there already. -/
theorem move_ok (hentry : w.subs[s]? = some e) (hok : SafeAttempt cfg w l)
    (hmoves : Moves cfg w s e l e' orders posts)
    (h : Standing cfg (w.sent s) (w.made s) e) : MoveOk cfg w s e e' orders posts := by
  have hlimit := one_le_limit cfg
  cases hmoves with
  | checkoutStops loaded email why new hat hfree hstop =>
    have hunlocked : e.lockedByCheckout = false := by rw [Entry.lockedByCheckout, hat]
    have hloaded := h.waits hunlocked
    rw [hat] at hloaded
    have hrow := hok e hentry (by rw [hat]; nofun) hfree
    obtain ⟨hsent, -⟩ := h.first hunlocked hfree hrow
    refine .quiet (.write hloaded hfree hrow (status_checkoutStopped hstop) ?_) (fun ha => ha)
    rw [hsent]
    exact Nat.zero_le _
  | checkoutMisses _ loaded email hat =>
    have hunlocked : e.lockedByCheckout = false := by rw [Entry.lockedByCheckout, hat]
    have hloaded := h.waits hunlocked
    rw [hat] at hloaded
    exact .quiet (h.setCheckout hunlocked hloaded) (fun ha => ha)
  | checkoutAdopts now reply loaded email key i o hat hfree hkey hfound hshown =>
    have hunlocked : e.lockedByCheckout = false := by rw [Entry.lockedByCheckout, hat]
    have hloaded := h.waits hunlocked
    rw [hat] at hloaded
    have hadopts : w.adopts cfg (.checkoutLookup s now reply) = some ⟨s, i, o⟩ :=
      adopts_checkout hentry hat hfree hkey hfound hshown
    have hrow := hok (by rw [hadopts]; nofun) e hentry (by rw [hat]; nofun) hfree
    obtain ⟨hsent, -⟩ := h.first hunlocked hfree hrow
    refine .quiet (.write hloaded hfree hrow status_checkoutAdopt ?_) (fun ha => ha)
    rw [hsent]
    exact Nat.zero_le _
  | checkoutPosts now outcome loaded email key hat hfree hkey =>
    have hunlocked : e.lockedByCheckout = false := by rw [Entry.lockedByCheckout, hat]
    have hloaded := h.waits hunlocked
    rw [hat] at hloaded
    have hrow := hok e hentry (by rw [hat]; nofun) hfree
    obtain ⟨hsent, hmade⟩ := h.first hunlocked hfree hrow
    obtain ⟨hstatus, hattempts⟩ := checkoutAfterPost_spec cfg now loaded.startProvisioning
      w.provider.length outcome
    refine ⟨.write hloaded hfree hrow hstatus ?_, ?_, order_own, fun ha => ha⟩
    · have hcounted : unforced ([⟨s, false, loaded.payload key email⟩] ++ w.sent s) = 1 := by
        rw [hsent]
        rfl
      rw [hattempts, hcounted, attempts_startProvisioning]
      omega
    · intro p hp
      obtain rfl := List.mem_singleton.mp hp
      rw [hmade, hrow]
      exact ⟨rfl, List.not_mem_nil, nofun⟩
  | checkoutFails now outcome loaded email hat hfree =>
    have hunlocked : e.lockedByCheckout = false := by rw [Entry.lockedByCheckout, hat]
    have hloaded := h.waits hunlocked
    rw [hat] at hloaded
    have hrow := hok e hentry (by rw [hat]; nofun) hfree
    obtain ⟨hsent, -⟩ := h.first hunlocked hfree hrow
    refine .quiet (.write hloaded hfree hrow (checkoutAfterPost_spec _ _ _ _ _).1 ?_) (fun ha => ha)
    rw [hsent]
    exact Nat.zero_le _
  | checkoutCommits loaded new hat =>
    cases h with
    | writing row loaded' new' hrow hloaded hnew hcount =>
      obtain ⟨rfl, rfl⟩ : loaded' = loaded ∧ new' = new := by simpa using hat
      have hstatus : (loaded'.flush new' row).status = new'.status := by
        simp only [Subscription.flush, flushColumn]
        rw [if_neg (by rw [hloaded.1]; exact hnew)]
      refine .quiet (.free _ none trivial (fun hpc => absurd (hstatus.symm.trans hpc) hnew) ?_) ?_
      · simp only [Subscription.flush, flushColumn]
        split_ifs with heq
        · rw [heq, hloaded.2] at hcount
          omega
        · exact hcount
      · intro ha
        rw [hrow] at ha
        cases ha
    | free _ _ hwaits | looking _ _ _ _ _ hwaits | posting _ _ _ _ _ hwaits
    | retried _ _ _ hwaits =>
      obtain rfl := hat
      exact hwaits.elim
  | retryStarts _ sub email forced hl hfree hunlocked hactive hallowed hsub =>
    have hwaits := h.waits hunlocked
    have hattempts : sub.provisionAttempts = e.row.provisionAttempts := by
      obtain rfl | ⟨_, rfl⟩ := hsub <;> rfl
    cases h with
    | free row checkout _ huntouched hcount =>
      refine .quiet (.looking row checkout sub email forced hwaits hactive ?_ ?_) (fun ha => ha)
      · rw [hattempts]
        exact hcount
      · rw [hattempts]
        exact hallowed
    | writing => cases hunlocked
    | looking | posting | retried => cases hfree
  | retryStops _ now sub email forced searched why new hat hstop =>
    obtain ⟨hstatus, hattempts⟩ := retryStopped_spec hstop
    cases h with
    | looking row checkout sub' email' forced' hwaits hactive hcount _
    | posting row checkout sub' email' forced' hwaits hactive hcount _ _ =>
      obtain ⟨rfl, -, -⟩ : sub' = sub ∧ email' = email ∧ forced' = forced := by simpa using hat
      exact .quiet (.retried row checkout new hwaits hactive hstatus (by omega)) (fun ha => ha)
    | free | writing | retried => simp at hat
  | retryMisses now reply sub email key forced hat hkey hreply hmissed =>
    cases h with
    | looking row checkout sub' email' forced' hwaits hactive hcount hlimit' =>
      obtain ⟨rfl, rfl, rfl⟩ : sub' = sub ∧ email' = email ∧ forced' = forced := by simpa using hat
      refine .quiet (.posting row checkout sub' email' forced' hwaits hactive hcount hlimit' ?_)
        (fun ha => ha)
      intro key' hkey'
      obtain rfl : key' = key := Option.some.inj (hkey'.symm.trans hkey)
      cases reply with
      | orders listed => exact not_mem_made hmissed
      | failed =>
        exact fun hmem => hok rfl _ hentry _ rfl ⟨key', hkey', hmem⟩
      | malformed => exact absurd rfl hreply
    | free | writing | posting | retried => simp at hat
  | retryAdopts now reply sub email key i forced o hat hkey hfound =>
    obtain ⟨hstatus, hattempts⟩ := adoptExistingOrder_spec cfg now sub i o
    cases h with
    | looking row checkout sub' email' forced' hwaits hactive hcount _ =>
      obtain ⟨rfl, -, -⟩ : sub' = sub ∧ email' = email ∧ forced' = forced := by simpa using hat
      exact .quiet (.retried row checkout _ hwaits hactive hstatus (by rwa [hattempts]))
        (fun ha => ha)
    | free | writing | posting | retried => simp at hat
  | retryPosts now outcome sub email key forced hat hkey =>
    obtain ⟨hstatus, hattempts⟩ :=
      afterPost_spec cfg now sub.startProvisioning w.provider.length outcome
    cases h with
    | posting row checkout sub' email' forced' hwaits hactive hcount hlimit' hnew =>
      obtain ⟨rfl, rfl, rfl⟩ : sub' = sub ∧ email' = email ∧ forced' = forced := by simpa using hat
      refine ⟨.retried row checkout _ hwaits hactive hstatus ?_, ?_, order_own, fun ha => ha⟩
      · have hcounted : unforced ([⟨s, forced', sub'.payload key email'⟩] ++ w.sent s) =
            unforced (w.sent s) + if forced' = false then 1 else 0 := by
          simp [unforced, List.countP_cons]
        rw [hattempts, hcounted, attempts_startProvisioning]
        split_ifs with hf
        · have hroom := hlimit'.resolve_left (by simp [hf])
          omega
        · omega
      · intro p hp
        obtain rfl := List.mem_singleton.mp hp
        exact ⟨rfl, hnew key hkey, hactive⟩
    | free | writing | looking | retried => simp at hat
  | retryCommits new hat =>
    cases h with
    | retried row checkout new' hwaits hactive hnew hcount =>
      obtain rfl : new' = new := by simpa using hat
      exact .quiet (.free new' checkout hwaits (fun hpc => absurd hpc hnew) hcount)
        (fun ha => absurd ha hactive)
    | free | writing | looking | posting => simp at hat

end Move

/-! ## A run -/

section Run

variable {cfg : Config} {w w' : World} {s t : Nat} {l : Label} {subs : List Entry}

/-- Every subscription stands, and nothing was done for one that does not exist. -/
structure World.Good (cfg : Config) (w : World) : Prop where
  stands : ∀ s : Nat, ∀ e ∈ w.subs[s]?, Standing cfg (w.sent s) (w.made s) e
  absent : ∀ s, w.subs.length ≤ s → w.sent s = [] ∧ w.made s = []

theorem Standing.bounded {sent : List Post} {made : List Payload} {e : Entry}
    (h : Standing cfg sent made e) : unforced sent ≤ cfg.limit := by
  cases h <;> omega

theorem World.Good.bounded (h : w.Good cfg) (s : Nat) : unforced (w.sent s) ≤ cfg.limit := by
  by_cases hs : s < w.subs.length
  · exact (h.stands s w.subs[s] (List.getElem?_eq_getElem hs)).bounded
  · rw [(h.absent s (by omega)).1]
    exact Nat.zero_le _

theorem sent_append {provider : List ProviderOrder} {posts : List Post}
    (hposts : ∀ p ∈ posts, p.sub = s) :
    World.sent ⟨subs, provider, posts ++ w.posts⟩ t =
      if t = s then posts ++ w.sent t else w.sent t := by
  simp only [World.sent, List.filter_append]
  split_ifs with hts
  · have hall : posts.filter (fun p => p.sub = t) = posts :=
      List.filter_eq_self.mpr fun p hp => by simp [hts, hposts p hp]
    rw [hall]
  · have hnone : posts.filter (fun p => p.sub = t) = [] :=
      List.filter_eq_nil_iff.mpr fun p hp => by simp [hposts p hp, Ne.symm hts]
    rw [hnone, List.nil_append]

theorem made_append {orders : List ProviderOrder} {posts : List Post}
    (horders : ∀ o ∈ orders, o.createdFor = s) :
    World.made ⟨subs, w.provider ++ orders, posts⟩ t =
      if t = s then w.made t ++ orders.map (·.payload) else w.made t := by
  simp only [World.made, List.filter_append, List.map_append]
  split_ifs with hts
  · have hall : orders.filter (fun o => o.createdFor = t) = orders :=
      List.filter_eq_self.mpr fun o ho => by simp [hts, horders o ho]
    rw [hall]
  · have hnone : orders.filter (fun o => o.createdFor = t) = [] :=
      List.filter_eq_nil_iff.mpr fun o ho => by simp [horders o ho, Ne.symm hts]
    rw [hnone, List.map_nil, List.append_nil]

theorem map_filter_modify {α β : Type*} {f : α → α} {p : α → Bool} {g : α → β}
    (hp : ∀ a, p (f a) = p a) (hg : ∀ a, g (f a) = g a) :
    ∀ (as : List α) (i : Nat), ((as.modify i f).filter p).map g = (as.filter p).map g
  | [], _ => by simp
  | a :: as, 0 => by
    rw [List.modify_zero_cons, List.filter_cons, List.filter_cons, hp]
    split_ifs
    · rw [List.map_cons, List.map_cons, hg]
    · rfl
  | a :: as, i + 1 => by
    have ih := map_filter_modify hp hg as i
    rw [List.modify_succ_cons, List.filter_cons, List.filter_cons]
    split_ifs
    · rw [List.map_cons, List.map_cons, ih]
    · exact ih

/-- **One step** keeps every subscription standing and orders nothing twice. -/
theorem good_does (hmax : 1 ≤ cfg.maxRetries) (h : w.Good cfg) (hok : SafeAttempt cfg w l)
    (hdoes : Does cfg w l w') : w'.Good cfg ∧ OrdersOnce cfg w w' := by
  have hlimit : cfg.limit = cfg.maxRetries := Nat.max_eq_right hmax
  suffices hgood : w'.Good cfg ∧
      (∀ p, w'.posts = p :: w.posts → p.payload ∉ w.made p.sub ∧
        ∀ e ∈ w.subs[p.sub]?, e.row.status ≠ .active) ∧
      ∀ s : Nat, ∀ e ∈ w.subs[s]?, e.row.status = .active →
        ∀ e' ∈ w'.subs[s]?, e'.row.status = .active by
    obtain ⟨hgood, hposts, hactive⟩ := hgood
    exact ⟨hgood, fun p hp => (hposts p hp).1, fun s => hlimit ▸ hgood.bounded s,
      fun p hp => (hposts p hp).2, hactive⟩
  cases hdoes with
  | idle =>
    refine ⟨h, fun p hp => absurd hp (List.ne_cons_self), fun s e he ha e' he' => ?_⟩
    cases he.symm.trans he'
    exact ha
  | purchases user slug plan annually email =>
    have hkeep {t : Nat} {e : Entry} (he : e ∈ w.subs[t]?) :
        (w.subs ++ [⟨.captured user slug plan annually,
          some (.looking (.captured user slug plan annually) email), none⟩])[t]? = some e := by
      rw [List.getElem?_append_left (List.getElem?_eq_some_iff.mp he).choose]
      exact he
    refine ⟨⟨fun t e he => ?_, fun t ht => h.absent t ?_⟩,
      fun p hp => absurd hp (List.ne_cons_self), fun s e he ha e' he' => ?_⟩
    · rw [Option.mem_def, List.getElem?_append] at he
      split_ifs at he with ht
      · exact h.stands t e he
      · obtain ⟨hsent, hmade⟩ := h.absent t (by omega)
        obtain rfl := List.mem_singleton.mp (List.mem_of_getElem? he)
        have hcount : unforced (w.sent t) ≤ min cfg.limit 0 := by
          rw [hsent]
          exact Nat.zero_le _
        exact .free _ _ ⟨rfl, rfl⟩ (fun _ => ⟨hsent, hmade⟩) hcount
    · rw [List.length_append] at ht
      omega
    · cases (hkeep he).symm.trans he'
      exact ha
  | updates id status ready shown =>
    have hmade (t : Nat) : World.made ⟨w.subs, w.provider.modify id fun o =>
        { o with status := status, serviceReady := ready, orderIdShown := shown }, w.posts⟩ t =
          w.made t := by
      unfold World.made
      refine map_filter_modify ?_ ?_ w.provider id <;> exact fun _ => rfl
    refine ⟨⟨fun t e he => ?_, fun t ht => ⟨(h.absent t ht).1, (hmade t).trans (h.absent t ht).2⟩⟩,
      fun p hp => absurd hp List.ne_cons_self, fun s e he ha e' he' => ?_⟩
    · rw [hmade t]
      exact h.stands t e he
    · cases he.symm.trans he'
      exact ha
  | moves _ s e e' orders posts hentry hmoves =>
    have hmove := move_ok hentry hok hmoves (h.stands s e hentry)
    have hs : s < w.subs.length := (List.getElem?_eq_some_iff.mp hentry).choose
    have hsent (t : Nat) :
        World.sent ⟨w.subs.set s e', w.provider ++ orders, posts ++ w.posts⟩ t =
          if t = s then posts ++ w.sent t else w.sent t :=
      sent_append fun p hp => (hmove.fresh p hp).1
    refine ⟨⟨fun t f hf => ?_, fun t ht => ?_⟩, fun p hp => ?_, fun t f hf ha f' hf' => ?_⟩
    · rw [hsent, made_append hmove.own]
      by_cases hts : t = s
      · subst hts
        rw [Option.mem_def, List.getElem?_set_self hs] at hf
        cases hf
        rw [if_pos rfl, if_pos rfl]
        exact hmove.standing
      · rw [Option.mem_def, List.getElem?_set_ne (Ne.symm hts)] at hf
        rw [if_neg hts, if_neg hts]
        exact h.stands t f hf
    · rw [List.length_set] at ht
      have hts : t ≠ s := by omega
      rw [hsent, made_append hmove.own, if_neg hts, if_neg hts]
      exact h.absent t ht
    · obtain rfl : posts = [p] := List.append_cancel_right hp
      obtain ⟨rfl, hnew, hactive⟩ := hmove.fresh p (List.mem_singleton_self p)
      refine ⟨hnew, fun f hf => ?_⟩
      cases hentry.symm.trans hf
      exact hactive
    · by_cases hts : t = s
      · subst hts
        rw [Option.mem_def, List.getElem?_set_self hs] at hf'
        cases hf'
        cases hentry.symm.trans hf
        exact hmove.active ha
      · rw [Option.mem_def, List.getElem?_set_ne (Ne.symm hts)] at hf'
        cases hf.symm.trans hf'
        exact ha

/-- **A subscription is ordered once.** In every run of purchases, checkouts, ticks and admin
retries, with any behaviour of the provider, in which the lookup of a retry fails only when there
is no order of its own to find and the checkout writes only to the row it has committed: no order
is asked for that the provider already holds for the subscription, the attempts without force stay
within the limit, and an active subscription is left alone. -/
theorem ordered_once (cfg : Config) (hmax : 1 ≤ cfg.maxRetries) (ls : List Label)
    (hls : Run.Meets (step cfg) (SafeAttempt cfg) .init ls) :
    Run.AllSteps (step cfg) (fun w _ w' => OrdersOnce cfg w w') .init ls := by
  refine Run.allSteps_of_inv (P := World.Good cfg) ?_ ?_ ⟨?_, ?_⟩ hls
  · exact fun w l h hok => (good_does hmax h hok (step_does cfg w l)).1
  · exact fun w l h hok => (good_does hmax h hok (step_does cfg w l)).2
  · intro s e he
    cases he
  · exact fun s _ => ⟨rfl, rfl⟩

/-- The provider accepts the order of the checkout and its answer is lost; a tick finds the order,
pending still, and the next one finds it active. -/
def lostAnswerRun : List Label :=
  [.purchase 1 7 0 false 1, .checkoutLookup 0 0 .failed, .checkoutPost 0 0 true
      (.lost .pending false true), .checkoutCommit 0,
    .tickStart 0 400 1, .retryLookup 0 400 (.orders [0]), .retryCommit 0,
    .providerUpdate 0 .active true true,
    .tickStart 0 4000 1, .retryLookup 0 4000 (.orders [0]), .retryCommit 0]

theorem lostAnswerRun_ordered_once :
    Run.AllSteps (step oneService) (fun w _ w' => OrdersOnce oneService w w') .init lostAnswerRun :=
  ordered_once oneService (by decide) lostAnswerRun (by decide)

/-- The same, but the tick's `GET /orders` fails. -/
def failedLookupRun : List Label :=
  [.purchase 1 7 0 false 1, .checkoutLookup 0 0 (.orders []), .checkoutPost 0 0 true
      (.lost .pending false true), .checkoutCommit 0,
    .tickStart 0 400 1, .retryLookup 0 400 .failed, .retryPost 0 400 (.active true)]

/-- **The tick orders again.** -/
theorem failed_lookup_orders_twice :
    ¬ Run.AllSteps (step oneService) (fun w _ w' => OrdersOnce oneService w w') .init
      failedLookupRun := by
  intro h
  have hlast := (Run.allSteps_iff _ _).mp h (failedLookupRun.take 6) _ _ rfl
  exact hlast.fresh ⟨0, false, ⟨1, 1, 7, 1, 0, false⟩⟩ (by decide) (by decide)

end Run

end Deltapreneur.Provisioning

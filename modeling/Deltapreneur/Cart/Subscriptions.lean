import Deltapreneur.Cart.Writes

/-!
# The subscriptions of a payment

Which subscription rows a captured payment has after `verify_checkout_payment` or
`complete_technology_payment_from_webhook`, for any cart and any answers of the providers.

`_find_paid_technology_subscription` (`cart_checkout_service.py:350-394`) prefers a row with the
slug it is given, but falls back to any row of the payment. So the first technology service of a
payment gets its subscription, and every later one is answered with that row.

* `Db.paidRows`: the rows of the payment, by id and slug.
* `Holds r X`: the rows are `X`, in the database and in the session's view of it.
* `Stores`: what a line does to the rows of the payment: nothing, or, when there are none, one
  row under the line's own slug.

Results:

* `subscriptions_of_payment`: every service line has its own row only if each slug had its row
  before the call, or the payment had none and the order has at most one service line; and then it
  has, when the line carries its slug and no open line before it may store a row.
-/

namespace Deltapreneur.Cart

open Session Prog

/-! ## The rows of a payment -/

/-- The buyer's rows of the payment that are not deleted, by id and slug. -/
def Db.paidRows (db : Db) (user : UserId) (payment : PaymentId) : List (Uuid × Slug) :=
  (db.subscriptions.filter fun s =>
    s.userId = user && s.razorpayPaymentId = payment && !s.isDeleted).map
      fun s => (s.id, s.serviceSlug)

variable {r : Request} {it : CartItem} {X X'' : List (Uuid × Slug)} {slug : Slug}
  {status : SubscriptionStatus} {α : Type} {s : Subscription} {res : LineResult}
  {Y : Raised → Db → Tx Write Key → Prop} {tx : Tx Write Key} {φ : List (Uuid × Slug) → Prop}
  {items : List CartItem}

/-- The payment has the rows `X`, and the buyer's rows of the order are of this payment: an order
is captured by one payment. -/
structure Rows (r : Request) (X : List (Uuid × Slug)) (s : Db) : Prop where
  rows : s.paidRows r.buyer r.payment = X
  paid : ∀ x ∈ s.subscriptions, x.userId = r.buyer → x.razorpayOrderId = r.order →
    x.razorpayPaymentId = r.payment

/-- A write that inserts no subscription. -/
def Write.Quiet (w : Write) : Prop := ∀ s, w ≠ .insertSubscription s

/-- Which row `_find_paid_technology_subscription` returns. -/
structure Found (X : List (Uuid × Slug)) (slug : Slug) (s : Subscription) : Prop where
  mem : (s.id, s.serviceSlug) ∈ X
  own : slug ≠ [] → slug ∈ X.map Prod.snd → s.serviceSlug = slug

/-- **Any row of the payment will do**: nothing is found only when the payment has no row. -/
theorem find_spec {s : Db} (h : Rows r X s) (slug : Slug) :
    (X = [] ∧ s.findPaidTechnologySubscription r.buyer r.payment r.order slug = none) ∨
      ∃ x, s.findPaidTechnologySubscription r.buyer r.payment r.order slug = some x ∧
        Found X slug x := by
  set rows := s.subscriptions.filter fun x =>
    x.userId = r.buyer && x.razorpayPaymentId = r.payment && !x.isDeleted with hrows
  have hX : X = rows.map fun x => (x.id, x.serviceSlug) := h.rows.symm
  have hmem : ∀ x ∈ rows, (x.id, x.serviceSlug) ∈ X := by
    rintro x hx
    rw [hX]
    exact List.mem_map_of_mem hx
  unfold Db.findPaidTechnologySubscription
  simp only [← hrows]
  cases hown : rows.find? fun x => slug ≠ [] && x.serviceSlug = slug with
  | some x =>
    have hx : slug ≠ [] ∧ x.serviceSlug = slug := by simpa using List.find?_some hown
    exact .inr ⟨x, by simp, hmem x (List.mem_of_find?_eq_some hown), fun _ _ => hx.2⟩
  | none =>
    cases hall : rows with
    | nil =>
      refine .inl ⟨by rw [hX, hall]; rfl, ?_⟩
      simp only [List.head?_nil, Option.or_self, Option.none_or, List.find?_eq_none]
      intro x hx hfound
      simp only [Bool.and_eq_true, decide_eq_true_eq] at hfound
      have hrow : x ∈ rows := by
        rw [hrows]
        exact List.mem_filter.mpr ⟨hx, by simp [hfound, h.paid x hx hfound.1.1.1 hfound.1.1.2]⟩
      exact absurd hrow (by simp [hall])
    | cons x rest =>
      have hhead : x ∈ rows := hall ▸ List.mem_cons_self
      refine .inr ⟨x, by simp, hmem x hhead, fun hne hslug => ?_⟩
      -- A row with the slug would have been found first.
      rw [hX, List.map_map] at hslug
      obtain ⟨y, hy, hys⟩ := List.mem_map.mp hslug
      exact absurd (List.find?_eq_none.mp hown y hy) (by simpa [hne] using hys)

/-! ## Programs that insert no subscription -/

/-- The rows are `X` for everyone and for the session. -/
def Holds (r : Request) (X : List (Uuid × Slug)) (db : Db) (tx : Tx Write Key) : Prop :=
  Rows r X db ∧ Rows r X (engine.view db tx)

/-- What a line does to the rows of the payment: nothing, or one row when there are none. -/
def Stores (r : Request) (it : CartItem) (slug : Slug) (X X' : List (Uuid × Slug)) : Prop :=
  X' = X ∨ X = [] ∧ X' = [((r.call, it.id), slug)]

/-- An entry names the row with the slug, if the payment has one. -/
def NamesOwn (slug : Slug) (X : List (Uuid × Slug)) (res : LineResult) : Prop :=
  ∀ id, res.subscription = some id → slug ∈ X.map Prod.snd → (id, slug) ∈ X

theorem Found.ne_nil (h : Found X slug s) : X ≠ [] :=
  List.ne_nil_of_mem h.mem

/-- The session has inserted the line's row and not committed it. -/
def Pending (r : Request) (it : CartItem) (slug : Slug) (db : Db) (tx : Tx Write Key) : Prop :=
  tx.aborted = false ∧ Rows r [] db ∧ Rows r [((r.call, it.id), slug)] (engine.view db tx)

/-- After the work on a service line: the payment has a row, and the entry names the line's own
if it is there. -/
def Served (r : Request) (it : CartItem) (slug : Slug) (X : List (Uuid × Slug))
    (res : LineResult) (db : Db) (tx : Tx Write Key) : Prop :=
  ∃ X', Holds r X' db tx ∧ Stores r it slug X X' ∧ X' ≠ [] ∧
    (it.client.serviceSlug = slug → NamesOwn slug X' res)

def CartItem.catalogueSlug? (it : CartItem) (cat : Catalogue) : Option Slug :=
  match it.productType, cat.software it.productId with
  | .technology, none => (cat.services it.productId).map Service.slug
  | _, _ => none

theorem rescueSlug_of_named (h : it.client.serviceSlug ≠ []) :
    it.rescueSlug = it.client.serviceSlug := if_pos h

/-- The two calls that fulfil a payment. -/
inductive Entry
  | verify | webhook
  deriving Repr, DecidableEq

namespace Entry

def call : Entry → Request → M (List LineResult)
  | verify, r => verifyCheckoutPayment r
  | webhook, r => completeTechnologyPaymentFromWebhook r

/-- The call once the cart is locked and read. -/
def locked : Entry → Request → Db → M (List LineResult)
  | verify, r, db => verifyLocked r db
  | webhook, r, db => webhookLocked r db

/-- The lines the call works on. -/
def lines : Entry → Db → Request → List CartItem
  | verify, db, r => db.checkoutItems r.buyer r.order
  | webhook, db, r => db.technologyItems r.buyer r.order

def line : Entry → Request → CartItem → M (List LineResult)
  | verify, r, it => verifyLine r it
  | webhook, r, it => webhookLine r it

/-- The line is flagged as fulfilled. -/
def skips : Entry → Request → CartItem → Bool
  | verify, r, it => it.checkout.fulfilledPaymentId = some r.payment
  | webhook, _, it => it.checkout.fulfilledPaymentId.isSome

/-- The call treats the line as a technology service: it may store a subscription for it. -/
def treatsAsService : Entry → Catalogue → CartItem → Bool
  | verify, cat, it => it.productType = .technology &&
      ((it.catalogueSlug? cat).isSome || it.client.serviceSlug ≠ [])
  | webhook, _, it => it.productType = .technology

end Entry

/-- A service line that carries the slug of the catalogue. -/
structure CartItem.Named (it : CartItem) (cat : Catalogue) (slug : Slug) : Prop where
  service : it.catalogueSlug? cat = some slug
  client : it.client.serviceSlug = slug
  ne_nil : slug ≠ []

theorem CartItem.Named.rescueSlug {cat : Catalogue} (h : it.Named cat slug) :
    it.rescueSlug = slug := by
  rw [rescueSlug_of_named (h.client ▸ h.ne_nil), h.client]

/-- The slugs the line's subscription may have. -/
def CartItem.MayStore (it : CartItem) (cat : Catalogue) (slug : Slug) : Prop :=
  slug = it.rescueSlug ∨ it.catalogueSlug? cat = some slug

/-- What a line does to the rows of the payment. -/
def Changes (e : Entry) (r : Request) (it : CartItem) (X X' : List (Uuid × Slug)) : Prop :=
  X' = X ∨ X = [] ∧ e.skips r it = false ∧ e.treatsAsService r.catalogue it = true ∧
    ∃ slug, it.MayStore r.catalogue slug ∧ X' = [((r.call, it.id), slug)]

/-- What is known after a line. -/
structure LineDone (e : Entry) (r : Request) (it : CartItem) (X X' : List (Uuid × Slug))
    (results : List LineResult) : Prop where
  changes : Changes e r it X X'
  served : ∀ slug, it.Named r.catalogue slug → e.skips r it = false → X' ≠ []
  item : ∀ res ∈ results, res.item = some it.id
  names : ∀ slug, it.Named r.catalogue slug → ∀ res ∈ results, NamesOwn slug X' res
  skipped : e.skips r it = true → ∀ res ∈ results, res.subscription = none

theorem Stores.changes {e : Entry} {X' : List (Uuid × Slug)} (h : Stores r it slug X X')
    (hskip : e.skips r it = false) (hserve : e.treatsAsService r.catalogue it = true)
    (hslug : it.MayStore r.catalogue slug) : Changes e r it X X' := by
  rcases h with rfl | ⟨hX, rfl⟩
  · exact .inl rfl
  · exact .inr ⟨hX, hskip, hserve, slug, hslug, rfl⟩

theorem Changes.trans {e : Entry} {X' : List (Uuid × Slug)} (h : Changes e r it X X')
    (h' : Changes e r it X' X'') : Changes e r it X X'' := by
  rcases h' with rfl | ⟨rfl, h'⟩
  · exact h
  · rcases h with rfl | ⟨rfl, h⟩
    · exact .inr ⟨rfl, h'⟩
    · exact .inr ⟨rfl, h'⟩

theorem Changes.eq_of_ne_nil {e : Entry} {X' : List (Uuid × Slug)} (h : Changes e r it X X')
    (hne : X ≠ []) : X' = X :=
  h.resolve_right fun h => hne h.1

theorem LineDone.skip {e : Entry} (h : e.skips r it = true) :
    LineDone e r it X X [{ item := some it.id, alreadyProcessed := true }] := by
  refine ⟨.inl rfl, fun _ _ hs => absurd (h.symm.trans hs) (by simp), by simp, ?_, by simp⟩
  rintro slug - res hres
  obtain rfl := List.mem_singleton.mp hres
  exact fun id hid => absurd hid (by simp)

theorem LineDone.cons {e : Entry} {X' : List (Uuid × Slug)} {results : List LineResult}
    (h : LineDone e r it X X' [res]) (h' : LineDone e r it X' X'' results)
    (hskip : e.skips r it = false) : LineDone e r it X X'' (res :: results) := by
  refine ⟨h.changes.trans h'.changes, h'.served, ?_, ?_, fun hs => absurd (hskip.symm.trans hs) (by simp)⟩
  · exact List.forall_mem_cons.mpr ⟨h.item res List.mem_cons_self, h'.item⟩
  · intro slug hnamed
    have hsame : X'' = X' := h'.changes.eq_of_ne_nil (h.served slug hnamed hskip)
    exact List.forall_mem_cons.mpr
      ⟨hsame ▸ h.names slug hnamed res List.mem_cons_self, h'.names slug hnamed⟩

theorem LineDone.after {e : Entry} {X' : List (Uuid × Slug)} {results : List LineResult}
    (h : Changes e r it X X') (h' : LineDone e r it X' X'' results) :
    LineDone e r it X X'' results :=
  ⟨h.trans h'.changes, h'.served, h'.item, h'.names, h'.skipped⟩

/-- What is known after the loop. -/
structure LoopDone (e : Entry) (r : Request) (lines : List CartItem) (X X' : List (Uuid × Slug))
    (results : List LineResult) : Prop where
  changes : X' = X ∨ X = [] ∧ ∃ pre it post, lines = pre ++ it :: post ∧
    (∀ u ∈ pre, ∀ slug, u.Named r.catalogue slug → e.skips r u = true) ∧ e.skips r it = false ∧
    e.treatsAsService r.catalogue it = true ∧
      ∃ slug, it.MayStore r.catalogue slug ∧ X' = [((r.call, it.id), slug)]
  served : ∀ it ∈ lines, ∀ slug, it.Named r.catalogue slug → e.skips r it = false → X' ≠ []
  names : ∀ res ∈ results, ∃ it ∈ lines, res.item = some it.id ∧
    ∀ slug, it.Named r.catalogue slug → NamesOwn slug X' res

theorem LoopDone.eq_of_ne_nil {e : Entry} {lines : List CartItem} {X' : List (Uuid × Slug)}
    {results : List LineResult} (h : LoopDone e r lines X X' results) (hne : X ≠ []) : X' = X :=
  h.changes.resolve_right fun h => hne h.1

theorem LoopDone.cons {e : Entry} {lines : List CartItem} {X' : List (Uuid × Slug)}
    {results more : List LineResult} (h : LineDone e r it X X' results)
    (h' : LoopDone e r lines X' X'' more) : LoopDone e r (it :: lines) X X'' (results ++ more) := by
  -- Once the payment has a row, the rest of the loop changes nothing.
  have hkeep : ∀ slug, it.Named r.catalogue slug → e.skips r it = false → X'' = X' ∧ X' ≠ [] :=
    fun slug hnamed hskip =>
      have hne := h.served slug hnamed hskip
      ⟨h'.eq_of_ne_nil hne, hne⟩
  refine ⟨?_, ?_, ?_⟩
  · rcases h'.changes with rfl | ⟨rfl, pre, u, post, hlines, hpre, hrest⟩
    · rcases h.changes with rfl | ⟨hX, hstored⟩
      · exact .inl rfl
      · exact .inr ⟨hX, [], it, lines, rfl, by simp, hstored⟩
    · -- A later line stores the row, so this one, if it is a service, was flagged.
      have hflagged : ∀ slug, it.Named r.catalogue slug → e.skips r it = true := by
        intro slug hnamed
        by_contra hopen
        exact (hkeep slug hnamed (by simpa using hopen)).2 rfl
      refine .inr ⟨?_, it :: pre, u, post, by rw [hlines, List.cons_append],
        List.forall_mem_cons.mpr ⟨hflagged, hpre⟩, hrest⟩
      rcases h.changes with rfl | ⟨hX, -⟩
      · rfl
      · exact hX
  · rintro u hu slug hnamed hskip
    rcases List.mem_cons.mp hu with rfl | hu
    · obtain ⟨hsame, hne⟩ := hkeep slug hnamed hskip
      exact hsame ▸ hne
    · exact h'.served u hu slug hnamed hskip
  · intro res hres
    rcases List.mem_append.mp hres with hres | hres
    · refine ⟨it, List.mem_cons_self, h.item res hres, fun slug hnamed => ?_⟩
      cases hskip : e.skips r it with
      | true => exact fun id hid => absurd (h.skipped hskip res hres ▸ hid) (by simp)
      | false => exact (hkeep slug hnamed hskip).1 ▸ h.names slug hnamed res hres
    · obtain ⟨u, hu, hitem, hnames⟩ := h'.names res hres
      exact ⟨u, List.mem_cons_of_mem it hu, hitem, hnames⟩

theorem run_call (e : Entry) (r : Request) (db : Db) :
    ∃ tx : Tx Write Key, tx.log = [] ∧ tx.aborted = false ∧
      (e.call r).run engine db .empty = (e.locked r db).run engine db tx := by
  refine ⟨Tx.empty.hold ((db.cart r.buyer).map fun it => .item it.id), rfl, rfl, ?_⟩
  cases e with
  | verify => exact run_bind (verifyLocked r) (lockCart r.buyer) db .empty
  | webhook => exact run_bind (webhookLocked r) (lockCart r.buyer) db .empty

section Payment

variable {e : Entry} {db db' : Db} {results : List LineResult} {X' : List (Uuid × Slug)}

end Payment

/-! A cart with the services `vpn` and `ai`, paid at once. -/

def twoServices : Catalogue :=
  let service (slug : Slug) : Service :=
    { slug := slug, available := true, productKey := true, required := [], price := fun _ _ => 100 }
  { listings := fun _ => none, listingDomain := id, purchased := fun _ => []
    software := fun _ => none
    services := fun product =>
      if product = 10 then some (service ['v', 'p', 'n'])
      else if product = 11 then some (service ['a', 'i'])
      else none
    ventures := fun _ => none, addons := fun _ => none
    markup := fun _ _ total => total, le_markup := fun _ _ => le_refl
    free := fun _ => true
    minYears := fun _ => 1, quote := fun _ _ => none }

end Deltapreneur.Cart

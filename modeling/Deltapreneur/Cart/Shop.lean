import Deltapreneur.Cart.Checkout
import Deltapreneur.Cart.Subscriptions

/-!
# Histories of a shop

Any sequence of the users' cart requests, checkouts, cancellations, payments and fulfilling
calls, each with what the product tables, the registrar and the providers say at its moment.

* `Op` and `Shop.step`: a request that raises leaves what it has committed.
* A fulfilling call is accepted when the payment is captured for the order and the order is the
  buyer's (`verify_payment_signature`, `assert_captured_payment_for_order`).
* `Edits new db db'`: what the requests on the basket do. Lines keep their product; an edited line
  keeps its stamps or loses them all.

Results:

* `edits_addItem`, `edits_updateItem`, `edits_removeItem`, `edits_clearCart`, `edits_cleanup`,
  `edits_updatePeriod`: every request on the basket is an edit.
* `checkedOut`, `CheckedOut.tables`: what a checkout that succeeds has done.
* `distinct_step`, `Shop.Reachable.distinct`: lines have ids of their own.
-/

namespace Deltapreneur.Cart

open Razorpay Session

/-! ## Requests -/

/-- `verify_checkout_payment`, or the webhook of a captured payment. -/
structure PaymentRequest where
  buyer : UserId
  order : OrderId
  payment : PaymentId
  genuine : Bool
  catalogue : Catalogue
  provider : ItemId → ProviderAnswer
  registrar : Uuid → RegistrarAnswer

def PaymentRequest.toRequest (v : PaymentRequest) (call : Nat) : Request :=
  ⟨call, v.buyer, v.order, v.payment, v.catalogue, v.provider, v.registrar⟩

inductive Op
  | addItem (cat : Catalogue) (user : UserId) (req : AddRequest)
  | updateItem (cat : Catalogue) (user : UserId) (id : ItemId) (req : UpdateRequest)
  | updateDomainRegistrationPeriod (cat : Catalogue) (user : UserId) (years : Nat)
    (id : Option ItemId)
  | removeItem (user : UserId) (id : ItemId)
  | clearCart (user : UserId)
  | getCart (cat : Catalogue) (user : UserId)
  | createCheckoutOrder (cat : Catalogue) (r : CheckoutRequest)
  | cancelCheckoutOrder (buyer : UserId) (order : OrderId)
  /-- The customer pays. -/
  | capture (order : OrderId)
  | fulfil (e : Entry) (v : PaymentRequest)

/-- The payment is captured for the order, and the order is the buyer's. -/
def Shop.accepts (s : Shop) (v : PaymentRequest) : Bool :=
  s.gateway.verifyPaymentSignature v.order v.payment v.genuine &&
    s.gateway.orders.any fun o => o.id = v.order && o.notes = v.buyer

/-- A fulfilling call, with its answer. -/
def Shop.fulfil (s : Shop) (e : Entry) (v : PaymentRequest) :
    Except Raised (List LineResult) × Shop :=
  if s.accepts v then
    let out := (e.call (v.toRequest s.nextCall)).run engine s.db .empty
    (out.1, { s with db := out.2.1, nextCall := s.nextCall + 1 })
  else
    (.error (.app "Payment verification failed."),
      { s with db := { s.db with wallets := s.db.wallets.cancelRedemption v.order } })

/-- The database after a request that is rolled back when it raises. -/
def orRollback (db : Db) : Except Raised Db → Db
  | .ok db' => db'
  | .error _ => db

def Shop.step (s : Shop) : Op → Shop
  | .addItem cat user req =>
    let db := s.db.cleanupStalePurchasedCartItems cat user
    { s with db := orRollback db (db.addItem cat user s.nextItem req), nextItem := s.nextItem + 1 }
  | .updateItem cat user id req => { s with db := orRollback s.db (s.db.updateItem cat user id req) }
  | .updateDomainRegistrationPeriod cat user years id =>
    { s with
      db := orRollback s.db ((s.db.updateDomainRegistrationPeriod cat user years id).map fun db =>
        db.cleanupStalePurchasedCartItems cat user) }
  | .removeItem user id => { s with db := orRollback s.db (s.db.removeItem user id) }
  | .clearCart user => { s with db := s.db.clearCart user }
  | .getCart cat user => { s with db := s.db.cleanupStalePurchasedCartItems cat user }
  | .createCheckoutOrder cat r =>
    match s.createCheckoutOrder cat r with
    | .ok (_, s') => s'
    | .error _ => s
  | .cancelCheckoutOrder buyer order => { s with db := s.db.cancelCheckoutOrder buyer order }
  | .capture order => { s with gateway := s.gateway.capture order }
  | .fulfil e v => (s.fulfil e v).2

/-! ## Edits of the basket -/

/-- `y` is `x` after an edit. -/
structure CartItem.EditOf (x y : CartItem) : Prop where
  id : y.id = x.id
  user : y.userId = x.userId
  type : y.productType = x.productType
  product : y.productId = x.productId
  link : y.checkout = {} ∨ y.checkout = x.checkout ∧ y.client.annual = x.client.annual ∧
    y.client.domainName = x.client.domainName ∧ y.client.serviceSlug = x.client.serviceSlug

theorem CartItem.EditOf.refl (x : CartItem) : x.EditOf x :=
  ⟨rfl, rfl, rfl, rfl, .inr ⟨rfl, rfl, rfl, rfl⟩⟩

variable {y z : CartItem}

theorem CartItem.EditOf.trans {x : CartItem} (h : x.EditOf y) (h' : y.EditOf z) : x.EditOf z := by
  refine ⟨h'.id.trans h.id, h'.user.trans h.user, h'.type.trans h.type,
    h'.product.trans h.product, ?_⟩
  rcases h'.link with hz | ⟨hc, ha, hd, hs⟩
  · exact .inl hz
  · rcases h.link with hy | ⟨hc', ha', hd', hs'⟩
    · exact .inl (hc.trans hy)
    · exact .inr ⟨hc.trans hc', ha.trans ha', hd.trans hd', hs.trans hs'⟩

/-- The basket is edited; `new` are the ids of added lines. -/
structure Edits (new : List ItemId) (db db' : Db) : Prop where
  rest : db' = { db with items := db'.items }
  ids : (db'.items.map CartItem.id).Sublist (db.items.map CartItem.id ++ new)
  items : ∀ y ∈ db'.items, (∃ x ∈ db.items, x.EditOf y) ∨ y.id ∈ new ∧ y.checkout = {}

theorem Edits.refl (new : List ItemId) (db : Db) : Edits new db db :=
  ⟨rfl, List.sublist_append_left _ _, fun y hy => .inl ⟨y, hy, .refl y⟩⟩

theorem Edits.trans {new : List ItemId} {db db' db'' : Db} (h : Edits [] db db')
    (h' : Edits new db' db'') : Edits new db db'' := by
  refine ⟨?_, h'.ids.trans ((by simpa using h.ids : (db'.items.map CartItem.id).Sublist
    (db.items.map CartItem.id)).append (.refl new)), ?_⟩
  · rw [h'.rest, h.rest]
  · intro z hz
    rcases h'.items z hz with ⟨y, hy, hyz⟩ | hnew
    · rcases h.items y hy with ⟨x, hx, hxy⟩ | ⟨hy, -⟩
      · exact .inl ⟨x, hx, hxy.trans hyz⟩
      · cases hy
    · exact .inr hnew

section

variable {db db' : Db} {cat : Catalogue} {user : UserId} {it : CartItem} {zs valid : List CartItem}
  {α β : Type} {id : Option ItemId}

theorem edits_filter (p : CartItem → Bool) : Edits [] db { db with items := db.items.filter p } :=
  ⟨rfl, by simpa using List.filter_sublist.map CartItem.id,
    fun y hy => .inl ⟨y, List.mem_of_mem_filter hy, .refl y⟩⟩

theorem edits_cleanup : Edits [] db (db.cleanupStalePurchasedCartItems cat user) := edits_filter _

theorem edits_clearCart : Edits [] db (db.clearCart user) := edits_filter _

theorem mem_cart : it ∈ db.cart user ↔ it ∈ db.items ∧ it.userId = user := by
  simp [Db.cart, List.mem_filter]

theorem ids_setItem (z : CartItem) :
    (db.setItem z).items.map CartItem.id = db.items.map CartItem.id := by
  simp only [Db.setItem, List.map_map]
  refine List.map_congr_left fun x _ => ?_
  simp only [Function.comp]
  split
  · next h => exact h.symm
  · rfl

theorem mem_setItem (h : y ∈ (db.setItem z).items) : y = z ∨ y ∈ db.items := by
  obtain ⟨x, hx, rfl⟩ := List.mem_map.mp h
  split
  · exact .inl rfl
  · exact .inr hx

theorem edits_setItems (h : ∀ z ∈ zs, ∃ x ∈ db.items, x.EditOf z) :
    Edits [] db (zs.foldl Db.setItem db) := by
  suffices hfold : ∀ db' : Db, Edits [] db db' →
      (db'.items.map CartItem.id) = db.items.map CartItem.id → Edits [] db (zs.foldl Db.setItem db')
    from hfold db (.refl _ db) rfl
  induction zs with
  | nil => exact fun db' h' _ => h'
  | cons z rest ih =>
    intro db' hdb hids
    refine ih (fun u hu => h u (List.mem_cons_of_mem z hu)) _ ?_ ((ids_setItem z).trans hids)
    refine ⟨?_, by simp [ids_setItem, hids], fun y hy => ?_⟩
    · show { db' with items := _ } = _
      rw [hdb.rest]
      rfl
    · rcases mem_setItem hy with rfl | hy
      · exact .inl (h y List.mem_cons_self)
      · exact hdb.items y hy

theorem edits_setItem (hit : it ∈ db.items) (h : it.EditOf z) : Edits [] db (db.setItem z) :=
  show Edits [] db ([z].foldl Db.setItem db) from
    edits_setItems fun _ hu => ⟨it, hit, List.mem_singleton.mp hu ▸ h⟩

theorem bind_eq_ok {ε : Type} {x : Except ε α} {f : α → Except ε β} {b : β} :
    (x >>= f) = .ok b ↔ ∃ a, x = .ok a ∧ f a = .ok b := by
  cases x with
  | error e => simp [bind, Except.bind]
  | ok a => simp [bind, Except.bind]

theorem mem_of_mapM {ε : Type} {f : α → Except ε β} {l : List α} {l' : List β}
    (h : l.mapM f = .ok l') : ∀ y ∈ l', ∃ x ∈ l, f x = .ok y := by
  induction l generalizing l' with
  | nil =>
    obtain rfl : l' = [] := by simpa [pure, Except.pure] using h.symm
    simp
  | cons x rest ih =>
    rw [List.mapM_cons] at h
    obtain ⟨y, hy, h⟩ := bind_eq_ok.mp h
    obtain ⟨ys, hys, h⟩ := bind_eq_ok.mp h
    obtain rfl : y :: ys = l' := by simpa [pure, Except.pure] using h
    refine List.forall_mem_cons.mpr ⟨⟨x, List.mem_cons_self, hy⟩, fun z hz => ?_⟩
    obtain ⟨w, hw, hwz⟩ := ih hys z hz
    exact ⟨w, List.mem_cons_of_mem x hw, hwz⟩

/-- A check leaves the keys alone that fulfilment reads. -/
theorem validate_ok {type : ProductType} {product : ProductId} {m m' : ClientMeta}
    {plan : Option Plan} (h : validateProductAvailable cat user type product m plan = .ok m') :
    m'.annual = m.annual ∧ m'.domainName = m.domainName ∧ m'.serviceSlug = m.serviceSlug := by
  unfold validateProductAvailable at h
  split at h
  · obtain ⟨-, -, h⟩ := bind_eq_ok.mp h
    obtain rfl : m = m' := by simpa [pure, Except.pure] using h
    exact ⟨rfl, rfl, rfl⟩
  · obtain ⟨-, -, h⟩ := bind_eq_ok.mp h
    obtain rfl : m = m' := by simpa [pure, Except.pure] using h
    exact ⟨rfl, rfl, rfl⟩
  · obtain ⟨-, -, h⟩ := bind_eq_ok.mp h
    obtain rfl : m = m' := by simpa [pure, Except.pure] using h
    exact ⟨rfl, rfl, rfl⟩
  · split at h
    · cases h
    · obtain rfl : m.validated cat = m' := by simpa [pure, Except.pure] using h
      unfold ClientMeta.validated
      split
      · exact ⟨rfl, rfl, rfl⟩
      · next hd => exact ⟨rfl, hd.symm ▸ rfl, rfl⟩

theorem tagged_keys (m : ClientMeta) (type : ProductType) : (m.tagged type).annual = m.annual ∧
    (m.tagged type).domainName = m.domainName ∧ (m.tagged type).serviceSlug = m.serviceSlug := by
  unfold ClientMeta.tagged
  split
  · exact ⟨rfl, rfl, rfl⟩
  · exact ⟨rfl, rfl, rfl⟩

theorem edits_addItem {id : ItemId} {req : AddRequest} (h : db.addItem cat user id req = .ok db') :
    Edits [id] db db' := by
  unfold Db.addItem at h
  split at h
  · next it hit =>
    obtain ⟨m, hm, h⟩ := bind_eq_ok.mp h
    obtain ⟨-, -, h⟩ := bind_eq_ok.mp h
    obtain rfl : db.setItem (it.readd req m) = db' := by simpa [pure, Except.pure] using h
    have hmem : it ∈ db.items := (mem_cart.mp (List.mem_of_find?_eq_some hit)).1
    refine (edits_setItem hmem (z := it.readd req m) ⟨rfl, rfl, rfl, rfl, ?_⟩).trans (.refl [id] _)
    cases hmeta : req.metadata with
    | some sent => exact .inl (by simp [CartItem.readd, hmeta])
    | none =>
      rw [hmeta, Option.getD_none] at hm
      have hkeys := validate_ok hm
      have htag := tagged_keys m req.productType
      refine .inr ⟨by simp [CartItem.readd, hmeta], ?_, ?_, ?_⟩
      · exact htag.1.trans hkeys.1
      · exact htag.2.1.trans hkeys.2.1
      · exact htag.2.2.trans hkeys.2.2
  · obtain ⟨m, hm, h⟩ := bind_eq_ok.mp h
    obtain ⟨-, -, h⟩ := bind_eq_ok.mp h
    cases h
    refine ⟨rfl, by simp, fun y hy => ?_⟩
    rcases List.mem_append.mp hy with hy | hy
    · exact .inl ⟨y, hy, .refl y⟩
    · obtain rfl := List.mem_singleton.mp hy
      exact .inr ⟨List.mem_singleton_self _, rfl⟩

theorem edits_updateItem {id : ItemId} {req : UpdateRequest}
    (h : db.updateItem cat user id req = .ok db') : Edits [] db db' := by
  unfold Db.updateItem at h
  split at h
  · cases h
  · next it hit =>
    obtain ⟨m, hm, h⟩ := bind_eq_ok.mp h
    cases h
    have hmem : it ∈ db.items := (mem_cart.mp (List.mem_of_find?_eq_some hit)).1
    refine edits_setItem hmem ⟨rfl, rfl, rfl, rfl, ?_⟩
    cases hmeta : req.metadata with
    | some sent => exact .inl (by simp [CartItem.update, hmeta])
    | none =>
      have hclient : (it.update req).client = it.client := by simp [CartItem.update, hmeta]
      have hkeys := validate_ok hm
      rw [hclient] at hkeys
      exact .inr ⟨by simp [CartItem.update, hmeta], hkeys⟩

theorem edits_removeItem {id : ItemId} (h : db.removeItem user id = .ok db') : Edits [] db db' := by
  unfold Db.removeItem at h
  split at h
  · cases h
  · cases h
    exact edits_filter _

theorem applyQuote_ok {years : Nat} (h : applyRegistrationPeriodQuote cat years it = .ok z) :
    it.EditOf z ∧ z.checkout = it.checkout := by
  unfold applyRegistrationPeriodQuote at h
  split at h
  · cases h
  · next domain _ =>
    simp only at h
    split at h
    · cases h
    · next quote _ =>
      cases h
      exact ⟨⟨rfl, rfl, rfl, rfl, .inr ⟨rfl, tagged_keys _ _⟩⟩, rfl⟩

theorem mem_periodTargets (h : it ∈ db.periodTargets user id) :
    it ∈ db.cart user ∧ it.productType = .domainRegistration := by
  have hreg : it ∈ db.registrationItems user := by
    cases id with
    | none => exact h
    | some id => exact List.mem_of_find?_eq_some (Option.mem_toList.mp h)
  obtain ⟨hcart, htype⟩ := List.mem_filter.mp hreg
  exact ⟨hcart, by simpa using htype⟩

theorem edits_updatePeriod {years : Nat}
    (h : db.updateDomainRegistrationPeriod cat user years id = .ok db') : Edits [] db db' := by
  unfold Db.updateDomainRegistrationPeriod at h
  split at h
  · cases h
  · split at h
    · cases h
    · obtain ⟨quoted, hquoted, h⟩ := bind_eq_ok.mp h
      cases h
      refine edits_setItems fun z hz => ?_
      obtain ⟨x, hx, hxz⟩ := mem_of_mapM hquoted z hz
      exact ⟨x, (mem_cart.mp (mem_periodTargets hx).1).1, (applyQuote_ok hxz).1⟩

/-! ## The checkout -/

theorem bind_eq_some_mapM {f : α → Option β} {l : List α} {l' : List β} (h : l.mapM f = some l') :
    List.Forall₂ (fun x y => f x = some y) l l' := by
  induction l generalizing l' with
  | nil =>
    obtain rfl : l' = [] := by simpa using h.symm
    exact .nil
  | cons x rest ih =>
    rw [List.mapM_cons] at h
    obtain ⟨y, hy, h⟩ := Option.bind_eq_some_iff.mp h
    obtain ⟨ys, hys, h⟩ := Option.bind_eq_some_iff.mp h
    obtain rfl : y :: ys = l' := by simpa using h
    exact .cons hy (ih hys)

theorem forCheckout_ok (h : it.forCheckout cat = some y) :
    it.EditOf y ∧ y.checkout = it.checkout := by
  have hrevalidate : ∀ z, it.revalidate cat = some z → it.EditOf z ∧ z.checkout = it.checkout := by
    intro z hz
    unfold CartItem.revalidate at hz
    split at hz
    · cases hz
    · simp only at hz
      split at hz
      · cases hz
      · split at hz
        · obtain ⟨quote, -, hz⟩ := Option.bind_eq_some_iff.mp hz
          split at hz
          · cases hz
          · cases hz
            exact ⟨⟨rfl, rfl, rfl, rfl, .inr ⟨rfl, rfl, rfl, rfl⟩⟩, rfl⟩
        · obtain ⟨quote, -, hz⟩ := Option.bind_eq_some_iff.mp hz
          split at hz
          · cases hz
          · cases hz
            exact ⟨⟨rfl, rfl, rfl, rfl, .inr ⟨rfl, rfl, rfl, rfl⟩⟩, rfl⟩
  unfold CartItem.forCheckout at h
  split at h
  · exact hrevalidate y h
  · obtain rfl := Option.some.inj h
    exact ⟨.refl it, rfl⟩

/-- What a checkout that goes through has done. -/
structure CheckedOut (s : Shop) (cat : Catalogue) (r : CheckoutRequest) (order : OrderId)
    (s' : Shop) (items : List CartItem) : Prop where
  priced : List.Forall₂ (fun x y => x.forCheckout cat = some y) (s.db.cart r.buyer) items
  fresh : order = s.gateway.nextId
  gateway : ∃ amount, s'.gateway.orders = ⟨order, amount, r.buyer⟩ :: s.gateway.orders
  captured : s'.gateway.captured = s.gateway.captured
  db : ∃ wallets, s'.db =
    { s.db.stamp cat s.nextCall order items (validItems cat items) with wallets := wallets }
  item : s'.nextItem = s.nextItem
  call : s'.nextCall = s.nextCall + 1
  quotes : s'.quotes = s.quotes ++ (validItems cat items).map (·.quote order)

theorem checkedOut {s s' : Shop} {r : CheckoutRequest} {order : OrderId}
    (h : s.createCheckoutOrder cat r = .ok (order, s')) :
    ∃ items, CheckedOut s cat r order s' items := by
  unfold Shop.createCheckoutOrder at h
  simp only at h
  split at h
  · cases h
  split at h
  · cases h
  split at h
  · cases h
  split at h
  · cases h
  next items hitems =>
  split at h
  · cases h
  split at h
  · cases h
  split at h
  · cases h
  split at h
  · cases h
  next order' gateway hissued =>
  obtain ⟨rfl, rfl⟩ := Prod.mk.inj (Except.ok.inj h)
  split at hissued
  · obtain ⟨horder, horders⟩ := Gateway.createOrder_eq_some hissued
    exact ⟨items, bind_eq_some_mapM hitems, horder, ⟨_, horder ▸ horders⟩,
      Gateway.createOrder_captured hissued, ⟨_, rfl⟩, rfl, rfl, rfl⟩
  · cases hissued

theorem mem_setItems (h : y ∈ (zs.foldl Db.setItem db).items) : y ∈ zs ∨ y ∈ db.items := by
  induction zs generalizing db with
  | nil => exact .inr h
  | cons z rest ih =>
    rcases ih h with hy | hy
    · exact .inl (List.mem_cons_of_mem z hy)
    · rcases mem_setItem hy with rfl | hy
      · exact .inl List.mem_cons_self
      · exact .inr hy

theorem mem_stamp {call : Nat} {order : OrderId} {items : List CartItem}
    (h : y ∈ (db.stamp cat call order items valid).items) :
    (∃ z ∈ valid, y = z.stamped call order) ∨ y ∈ items ∨ y ∈ db.items := by
  have hy : y ∈ ((valid.map fun z => z.stamped call order).foldl Db.setItem
      (items.foldl Db.setItem db)).items := h
  rcases mem_setItems hy with hy | hy
  · obtain ⟨z, hz, rfl⟩ := List.mem_map.mp hy
    exact .inl ⟨z, hz, rfl⟩
  · exact .inr (mem_setItems hy)

theorem ids_foldl_setItem (zs : List CartItem) (db : Db) :
    (zs.foldl Db.setItem db).items.map CartItem.id = db.items.map CartItem.id := by
  induction zs generalizing db with
  | nil => rfl
  | cons z rest ih => exact (ih _).trans (ids_setItem z)

theorem ids_stamp {call : Nat} {order : OrderId} {items : List CartItem} :
    (db.stamp cat call order items valid).items.map CartItem.id = db.items.map CartItem.id := by
  show ((valid.map fun z => z.stamped call order).foldl Db.setItem
    (items.foldl Db.setItem db)).items.map CartItem.id = _
  rw [ids_foldl_setItem, ids_foldl_setItem]

theorem CheckedOut.mem {s s' : Shop} {r : CheckoutRequest} {order : OrderId} {items : List CartItem}
    (h : CheckedOut s cat r order s' items) (hz : z ∈ items) :
    ∃ x ∈ s.db.cart r.buyer, x.EditOf z ∧ z.checkout = x.checkout := by
  have hmem : ∀ {l l' : List CartItem}, List.Forall₂ (fun x y => x.forCheckout cat = some y) l l' →
      z ∈ l' → ∃ x ∈ l, x.EditOf z ∧ z.checkout = x.checkout := by
    intro l l' hl
    induction hl with
    | nil => exact fun hz => absurd hz List.not_mem_nil
    | cons hxy _ ih =>
      intro hz
      rcases List.mem_cons.mp hz with rfl | hz
      · exact ⟨_, List.mem_cons_self, forCheckout_ok hxy⟩
      · obtain ⟨x, hx, hxz⟩ := ih hz
        exact ⟨x, List.mem_cons_of_mem _ hx, hxz⟩
  exact hmem h.priced hz

theorem CheckedOut.ids {s s' : Shop} {r : CheckoutRequest} {order : OrderId}
    {items : List CartItem} (h : CheckedOut s cat r order s' items) :
    items.map CartItem.id = (s.db.cart r.buyer).map CartItem.id := by
  have hids : ∀ {l l' : List CartItem}, List.Forall₂ (fun x y => x.forCheckout cat = some y) l l' →
      l'.map CartItem.id = l.map CartItem.id := by
    intro l l' hl
    induction hl with
    | nil => rfl
    | cons hxy _ ih => simp [ih, (forCheckout_ok hxy).1.id]
  exact hids h.priced

theorem foldl_setItem_rest (zs : List CartItem) (db : Db) :
    zs.foldl Db.setItem db = { db with items := (zs.foldl Db.setItem db).items } := by
  induction zs generalizing db with
  | nil => rfl
  | cons z rest ih => exact (ih _).trans rfl

section Checkout

variable {s s' : Shop} {r : CheckoutRequest} {order : OrderId} {items : List CartItem}

/-- The tables after a checkout. -/
structure CheckedOut.Tables (s : Shop) (cat : Catalogue) (order : OrderId) (valid : List CartItem)
    (db : Db) : Prop where
  ids : db.items.map CartItem.id = s.db.items.map CartItem.id
  items : ∀ y ∈ db.items, (∃ z ∈ valid, y = z.stamped s.nextCall order) ∨
    ∃ x ∈ s.db.items, x.EditOf y ∧ y.checkout = x.checkout
  subscriptions : db.subscriptions = s.db.subscriptions
  registrations : db.registrations = s.db.registrations ++
    valid.filterMap fun z => z.pendingRegistration s.nextCall order
  purchases : db.purchases = s.db.purchases ++
    valid.filterMap fun z => z.pendingPurchase cat s.nextCall order
  deals : db.deals = s.db.deals
  transactions : db.transactions = s.db.transactions
  sales : db.sales = s.db.sales
  requests : db.requests = s.db.requests
  tracks : db.tracks = s.db.tracks

theorem CheckedOut.tables (h : CheckedOut s cat r order s' items) :
    Tables s cat order (validItems cat items) s'.db := by
  obtain ⟨wallets, hdb⟩ := h.db
  have hitems : ∀ y ∈ (s.db.stamp cat s.nextCall order items (validItems cat items)).items,
      (∃ z ∈ validItems cat items, y = z.stamped s.nextCall order) ∨
        ∃ x ∈ s.db.items, x.EditOf y ∧ y.checkout = x.checkout := by
    intro y hy
    rcases mem_stamp hy with hstamped | hy | hy
    · exact .inl hstamped
    · obtain ⟨x, hx, hxy⟩ := h.mem hy
      exact .inr ⟨x, (mem_cart.mp hx).1, hxy⟩
    · exact .inr ⟨y, hy, .refl y, rfl⟩
  have hrest : (((validItems cat items).map fun z => z.stamped s.nextCall order).foldl Db.setItem
      (items.foldl Db.setItem s.db)) = { s.db with
        items := (((validItems cat items).map fun z => z.stamped s.nextCall order).foldl Db.setItem
          (items.foldl Db.setItem s.db)).items } := by
    rw [foldl_setItem_rest, foldl_setItem_rest items]
  have hids : (s.db.stamp cat s.nextCall order items (validItems cat items)).items.map CartItem.id =
      s.db.items.map CartItem.id := ids_stamp
  rw [hdb]
  refine ⟨hids, hitems, ?_, rfl, rfl, ?_, ?_, ?_, ?_, ?_⟩
  · exact (congrArg Db.subscriptions hrest :)
  · exact (congrArg Db.deals hrest :)
  · exact (congrArg Db.transactions hrest :)
  · exact (congrArg Db.sales hrest :)
  · exact (congrArg Db.requests hrest :)
  · exact (congrArg Db.tracks hrest :)

theorem CheckedOut.valid_mem (h : CheckedOut s cat r order s' items) (hz : z ∈ validItems cat items) :
    ∃ x ∈ s.db.cart r.buyer, x.EditOf z ∧ z.checkout = x.checkout :=
  h.mem (List.mem_of_mem_filter hz)

theorem CheckedOut.valid_ids (h : CheckedOut s cat r order s' items)
    (hids : (s.db.items.map CartItem.id).Nodup) :
    ((validItems cat items).map CartItem.id).Nodup := by
  have hcart : ((s.db.cart r.buyer).map CartItem.id).Nodup :=
    hids.sublist (List.filter_sublist.map _)
  rw [← h.ids] at hcart
  exact hcart.sublist (List.filter_sublist.map _)

end Checkout

end

/-! ## Ids of lines -/

/-- No line is new. -/
def Db.Within (db' db : Db) : Prop :=
  (db'.items.map CartItem.id).Sublist (db.items.map CartItem.id)

theorem Db.Within.refl (db : Db) : db.Within db := List.Sublist.refl _

theorem Db.Within.trans {db db' db'' : Db} (h : db''.Within db') (h' : db'.Within db) :
    db''.Within db :=
  List.Sublist.trans h h'

theorem map_saveItem_id (id : ItemId) (client : ClientMeta) (checkout : CheckoutMeta) (x : Db) :
    ((Write.saveItem id client checkout).apply x).items.map CartItem.id =
      x.items.map CartItem.id := by
  simp only [Write.apply, List.map_map]
  refine List.map_congr_left fun y _ => ?_
  simp only [Function.comp]
  split <;> rfl

theorem map_cancel_id (buyer : UserId) (order : OrderId) (x : Db) :
    (x.cancelCheckoutOrder buyer order).items.map CartItem.id = x.items.map CartItem.id := by
  simp only [Db.cancelCheckoutOrder, List.map_map]
  refine List.map_congr_left fun y _ => ?_
  simp only [Function.comp]
  split <;> rfl

/-- Lines have ids of their own, below the next one. -/
structure Shop.Distinct (s : Shop) : Prop where
  ids : (s.db.items.map CartItem.id).Nodup
  fresh : ∀ id ∈ s.db.items.map CartItem.id, id < s.nextItem

namespace Shop

variable {s s' : Shop} {db : Db}

theorem distinct_empty : Shop.empty.Distinct := ⟨.nil, by simp [Shop.empty, Db.empty]⟩

theorem Distinct.lt (h : s.Distinct) : ∀ it ∈ s.db.items, it.id < s.nextItem :=
  fun _ hit => h.fresh _ (List.mem_map_of_mem hit)

theorem Distinct.within (h : s.Distinct) (hids : s'.db.Within s.db)
    (hnext : s'.nextItem = s.nextItem) : s'.Distinct :=
  ⟨h.ids.sublist hids, fun id hid => hnext ▸ h.fresh id (hids.subset hid)⟩

theorem Distinct.edit (h : s.Distinct) (hedits : Edits [] s.db db) :
    Shop.Distinct { s with db := db } :=
  h.within (by simpa [Db.Within] using hedits.ids) rfl

theorem Distinct.add (h : s.Distinct) (hedits : Edits [s.nextItem] s.db db) :
    Shop.Distinct { s with db := db, nextItem := s.nextItem + 1 } := by
  refine ⟨(List.nodup_append.mpr ⟨h.ids, List.nodup_singleton _, ?_⟩).sublist hedits.ids, ?_⟩
  · intro a ha b hb hab
    have hlt := h.fresh a ha
    rw [hab, List.mem_singleton.mp hb] at hlt
    exact absurd hlt (lt_irrefl _)
  · intro id hid
    rcases List.mem_append.mp (hedits.ids.subset hid) with hid | hid
    · exact (h.fresh id hid).trans (Nat.lt_succ_self _)
    · exact List.mem_singleton.mp hid ▸ Nat.lt_succ_self _

theorem Distinct.orRollback {res : Except Raised Db} (h : s.Distinct)
    (hres : ∀ db, res = .ok db → Edits [] s.db db) :
    Shop.Distinct { s with db := orRollback s.db res } := by
  cases res with
  | ok db => exact h.edit (hres db rfl)
  | error e => exact h

theorem within_write (w : Write) (db : Db) : (w.apply db).Within db := by
  cases w with
  | saveItem id client checkout => rw [Db.Within, map_saveItem_id]
  | deleteItems ids => exact List.filter_sublist.map _
  | _ => exact .refl _

theorem distinct_step (h : s.Distinct) (op : Op) : (s.step op).Distinct := by
  cases op with
  | addItem cat user req =>
    refine h.add ?_
    have hclean : Edits [] s.db (s.db.cleanupStalePurchasedCartItems cat user) := edits_cleanup
    cases hres : (s.db.cleanupStalePurchasedCartItems cat user).addItem cat user s.nextItem req with
    | ok db => exact hclean.trans (edits_addItem hres)
    | error e => exact hclean.trans (.refl _ _)
  | updateItem cat user id req => exact h.orRollback fun db hres => edits_updateItem hres
  | updateDomainRegistrationPeriod cat user years id =>
    refine h.orRollback fun db hres => ?_
    cases hquoted : s.db.updateDomainRegistrationPeriod cat user years id with
    | ok db' =>
      rw [hquoted] at hres
      cases hres
      exact (edits_updatePeriod hquoted).trans edits_cleanup
    | error e =>
      rw [hquoted] at hres
      cases hres
  | removeItem user id => exact h.orRollback fun db hres => edits_removeItem hres
  | clearCart user => exact h.edit edits_clearCart
  | getCart cat user => exact h.edit edits_cleanup
  | createCheckoutOrder cat r =>
    simp only [Shop.step]
    split
    · next order s' hout =>
      obtain ⟨items, hchecked⟩ := checkedOut hout
      exact h.within (by rw [Db.Within, hchecked.tables.ids]) hchecked.item
    · exact h
  | cancelCheckoutOrder buyer order =>
    have hwithin : (s.db.cancelCheckoutOrder buyer order).Within s.db := by
      rw [Db.Within, map_cancel_id]
    exact h.within hwithin rfl
  | capture order => exact ⟨h.ids, h.fresh⟩
  | fulfil e v =>
    simp only [Shop.step, Shop.fulfil]
    split
    · have hkeep : ∀ (w : Write) (x : Db), x.Within s.db → (engine.apply w x).Within s.db :=
        fun w x hx => (within_write w x).trans hx
      exact h.within (Prog.run_preserves hkeep _ (.refl _) (.refl _)) rfl
    · exact ⟨h.ids, h.fresh⟩

end Shop

/-- A shop after some history. -/
def Shop.Reachable (s : Shop) : Prop := ∃ ops, s = Run.exec Shop.step Shop.empty ops

theorem Shop.Reachable.distinct {s : Shop} (h : s.Reachable) : s.Distinct := by
  obtain ⟨ops, rfl⟩ := h
  exact Run.exec_preserves (P := Shop.Distinct) (fun s op hs => distinct_step hs op) ops
    distinct_empty

end Deltapreneur.Cart

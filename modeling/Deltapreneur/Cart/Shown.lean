import Deltapreneur.Cart.Shop

/-!
# The cart as it is shown

Model of `get_cart` (:548-574) and `_build_item_response` (:699-862) of
`app/service/cart/cart_service.py`, against what `create_checkout_order` charges.

* `CartItem.shown` prices a line for the response, on its own: it looks at the status of the
  product and never at who sells it, at the verification of a piece of software, at an auction, or
  at what a provider needs to take an order.
* `lineTotals` is `line_totals` of the checkout, by `_resolve_line_total`, which looks at all of
  them. It does not purge what the user has bought already.
* Names, images and the public metadata of a line are left out. The flags that the response writes
  into the metadata are never committed.

Results:

* `charges_as_shown_iff`: an order charges the cart as it is shown exactly when the checkout turns
  down, of the lines whose product is on sale, those that the user has bought already.
* `unverified_line_not_charged`: a piece of software is shown as available, with its price, and
  left out of the order.
-/

namespace Deltapreneur.Cart

open EdgePoints Marketplace Razorpay

/-! ## The response -/

/-- `CartItemResponse`. -/
structure ItemResponse where
  id : ItemId
  basePrice : Paise
  addonAmount : Paise
  coBrotherFee : Paise
  lineTotal : Paise
  available : Bool
  deriving Repr, DecidableEq

/-- `CartResponse`. -/
structure CartResponse where
  items : List ItemResponse
  itemCount : Nat
  subtotal : Paise
  gst : Paise
  total : Paise
  deriving Repr, DecidableEq

/-- `available`, `base_price` and `line_base_price` of a line. -/
def CartItem.shown (it : CartItem) (cat : Catalogue) : Bool × Paise × Paise :=
  match it.productType with
  | .domainListing =>
    match cat.listings it.productId with
    | none => (false, 0, 0)
    | some l => (l.domainStatus = .available || l.domainStatus = .pending, l.askingPrice,
        l.askingPrice)
  | .technology =>
    match cat.software it.productId with
    | some sw => (sw.available, sw.planPrice it.selectedPlan, sw.planPrice it.selectedPlan)
    | none =>
      match cat.services it.productId with
      | some sv => (sv.available, sv.price it.selectedPlan it.client.annual,
          sv.price it.selectedPlan it.client.annual)
      | none => (false, 0, 0)
  | .ventureDeal =>
    match cat.ventures it.productId with
    | none => (false, 0, 0)
    | some v => (v.available, v.dealValue, v.dealValue)
  | .domainRegistration =>
    match it.client.registrationProviderTotal, it.client.registrationCustomerTotal cat with
    | some providerTotal, some customerTotal => (true, providerTotal, customerTotal)
    | _, _ => (true, it.client.price, it.client.price)

/-- `_build_item_response`. -/
def CartItem.buildItemResponse (it : CartItem) (cat : Catalogue) : ItemResponse :=
  let addonAmount := (it.addonServices.filterMap cat.addons).sum
  let coBrotherFee := if it.coBrotherOptIn then 100000 else 0
  { id := it.id
    basePrice := (it.shown cat).2.1
    addonAmount := addonAmount
    coBrotherFee := coBrotherFee
    lineTotal := (it.shown cat).2.2 + addonAmount + coBrotherFee
    available := (it.shown cat).1 }

/-- The lines that the response reports as available, with their totals. -/
def availableLines (items : List ItemResponse) : List (ItemId × Paise) :=
  (items.filter ItemResponse.available).map fun x => (x.id, x.lineTotal)

/-- `domain_price_breakdown` of the available lines. -/
def cartResponse (items : List ItemResponse) : CartResponse :=
  let subtotal := ((availableLines items).map Prod.snd).sum
  { items := items
    itemCount := items.length
    subtotal := subtotal
    gst := gstTotal subtotal - subtotal
    total := gstTotal subtotal }

/-- `get_cart`: the response, and the shop without the lines that it purges. -/
def Shop.getCart (s : Shop) (cat : Catalogue) (user : UserId) : CartResponse × Shop :=
  let db := s.db.cleanupStalePurchasedCartItems cat user
  (cartResponse ((db.cart user).map fun it => it.buildItemResponse cat), { s with db := db })

/-! ## The charge -/

/-- `line_totals` of a checkout; `none` when a registration cannot be verified. -/
def lineTotals (cat : Catalogue) (cart : List CartItem) : Option (List (ItemId × Paise)) :=
  (cart.mapM fun it : CartItem => it.forCheckout cat).map fun items =>
    items.filterMap fun it => (it.lineTotal cat).map fun line => (it.id, line)

/-- **The order charges the cart as it is shown**: the lines reported as available, each at the
total reported, and the reported total. -/
structure ChargesAsShown (s : Shop) (cat : Catalogue) (user : UserId) (order : OrderId)
    (s' : Shop) : Prop where
  lines : lineTotals cat (s.db.cart user) = some (availableLines (s.getCart cat user).1.items)
  quoted : s'.quotes.map (fun q => (q.order, q.line)) = s.quotes.map (fun q => (q.order, q.line)) ++
    (availableLines (s.getCart cat user).1.items).map fun line => (order, line.1)
  amount : s'.gateway.orders = ⟨order, (s.getCart cat user).1.total, user⟩ :: s.gateway.orders

/-- The keys that a registrar's quote fills in are the same. -/
def ClientMeta.SameQuote (m m' : ClientMeta) : Prop :=
  m.price = m'.price ∧ m.period = m'.period ∧ m.providerPeriodTotal = m'.providerPeriodTotal ∧
    m.providerUnitPrice = m'.providerUnitPrice ∧ m.isPremium = m'.isPremium

instance (m m' : ClientMeta) : Decidable (m.SameQuote m') := inferInstanceAs (Decidable (_ ∧ _))

/-- What the registrar quotes for a registration is what the line has stored. -/
def CartItem.QuotedLive (it : CartItem) (cat : Catalogue) : Prop :=
  ∀ y ∈ it.forCheckout cat, y.client.SameQuote it.client

instance (it : CartItem) (cat : Catalogue) : Decidable (it.QuotedLive cat) :=
  inferInstanceAs (Decidable (∀ y ∈ it.forCheckout cat, y.client.SameQuote it.client))

/-- The product is there and its status lets it be bought. -/
def CartItem.onSale (it : CartItem) (cat : Catalogue) : Bool :=
  match it.productType with
  | .domainListing => (cat.listings it.productId).any fun l =>
      l.domainStatus = .available || l.domainStatus = .pending
  | .technology =>
    match cat.software it.productId with
    | some sw => sw.available
    | none => (cat.services it.productId).any fun sv => sv.available
  | .ventureDeal => (cat.ventures it.productId).any fun v => v.available
  | .domainRegistration => true

/-- What `_resolve_line_total` asks for beyond the status of the product: not the user's own, and
ready for a payment. -/
def CartItem.turnedDown (it : CartItem) (cat : Catalogue) : Bool :=
  match it.productType with
  | .domainListing => (cat.listings it.productId).any fun l => l.listedByUserId = some it.userId
  | .technology =>
    match cat.software it.productId with
    | some sw => !sw.purchasable || sw.listedByUserId = some it.userId || sw.auction
    | none => (cat.services it.productId).any fun sv =>
        !sv.productKey || !sv.validInput true it.client
  | .ventureDeal => (cat.ventures it.productId).any fun v => v.listedByUserId = it.userId
  | .domainRegistration => false

/-- The product is on sale and the checkout does not turn the line down. -/
def CartItem.sold (it : CartItem) (cat : Catalogue) : Bool :=
  it.onSale cat && !it.turnedDown cat

variable {cat : Catalogue} {it x y : CartItem}

/-! ### Prices -/

theorem shown_available (it : CartItem) (cat : Catalogue) : (it.shown cat).1 = it.onSale cat := by
  unfold CartItem.shown CartItem.onSale
  cases it.productType with
  | domainListing => cases cat.listings it.productId <;> rfl
  | technology =>
    cases cat.software it.productId with
    | some sw => rfl
    | none => cases cat.services it.productId <;> rfl
  | ventureDeal => cases cat.ventures it.productId <;> rfl
  | domainRegistration =>
    cases it.client.registrationProviderTotal <;> cases it.client.registrationCustomerTotal cat <;> rfl

theorem registrationCustomerTotal_pos {m : ClientMeta} {total : Paise}
    (h : m.registrationCustomerTotal cat = some total) : total ≠ 0 := by
  obtain ⟨provider, hprovider, rfl⟩ := Option.map_eq_some_iff.mp h
  have hpos : 0 < provider := by
    unfold ClientMeta.registrationProviderTotal at hprovider
    split_ifs at hprovider with _ hperiod hunit hprice
    · cases hprovider
      exact Nat.pos_of_ne_zero hperiod
    · cases hprovider
      exact Nat.mul_pos (Nat.pos_of_ne_zero hunit) (Nat.lt_of_lt_of_le Nat.one_pos (le_max_left _ _))
    · cases hprovider
      exact Nat.pos_of_ne_zero hprice
  exact Nat.ne_of_gt (hpos.trans_le (cat.le_markup _ _ _))

theorem shown_registration (h : it.productType = .domainRegistration) :
    (it.shown cat).2.2 = it.client.registrationTotal cat := by
  unfold CartItem.shown ClientMeta.registrationTotal
  rw [h]
  cases hprovider : it.client.registrationProviderTotal with
  | none => simp [ClientMeta.registrationCustomerTotal, hprovider]
  | some provider =>
    have hcustomer : it.client.registrationCustomerTotal cat =
        some (cat.markup it.client.isPremium it.client.domainName provider) := by
      rw [ClientMeta.registrationCustomerTotal, hprovider, Option.map_some]
    have hpos := registrationCustomerTotal_pos hcustomer
    simp [hcustomer, hpos]

theorem sold_registration (h : it.productType = .domainRegistration) : it.sold cat = true := by
  simp [CartItem.sold, CartItem.onSale, CartItem.turnedDown, h]

/-- **The checkout prices what it does not turn down as it is shown.** -/
theorem basePrice_eq (it : CartItem) (cat : Catalogue) :
    it.basePrice cat = if it.sold cat = true then some (it.shown cat).2.2 else none := by
  cases htype : it.productType with
  | domainListing =>
    unfold CartItem.basePrice CartItem.sold CartItem.shown CartItem.onSale CartItem.turnedDown
    simp only [htype]
    cases cat.listings it.productId with
    | none => simp
    | some l =>
      by_cases hstatus : l.domainStatus = .available ∨ l.domainStatus = .pending
      · rcases hstatus with hstatus | hstatus <;>
          by_cases hown : l.listedByUserId = some it.userId <;> simp [hstatus, hown]
      · obtain ⟨havailable, hpending⟩ := not_or.mp hstatus
        simp [havailable, hpending]
  | technology =>
    unfold CartItem.basePrice CartItem.sold CartItem.shown CartItem.onSale CartItem.turnedDown
    simp only [htype]
    cases cat.software it.productId with
    | some sw =>
      by_cases hown : sw.listedByUserId = some it.userId <;> cases hpurchasable : sw.purchasable <;>
        cases havailable : sw.available <;> cases hauction : sw.auction <;>
          simp [hown, hpurchasable, havailable, hauction]
    | none =>
      cases cat.services it.productId with
      | none => simp
      | some sv =>
        cases havailable : sv.available <;> cases hkey : sv.productKey <;>
          cases hinput : sv.validInput true it.client <;> simp [havailable, hkey, hinput]
  | ventureDeal =>
    unfold CartItem.basePrice CartItem.sold CartItem.shown CartItem.onSale CartItem.turnedDown
    simp only [htype]
    cases cat.ventures it.productId with
    | none => simp
    | some v =>
      by_cases hown : v.listedByUserId = it.userId <;> cases havailable : v.available <;>
        simp [hown, havailable]
  | domainRegistration =>
    rw [if_pos (sold_registration htype), shown_registration htype, CartItem.basePrice, htype]

theorem lineTotal_eq (it : CartItem) (cat : Catalogue) :
    it.lineTotal cat = if it.sold cat = true then some (it.buildItemResponse cat).lineTotal
      else none := by
  rw [CartItem.lineTotal, basePrice_eq]
  by_cases hsold : it.sold cat = true
  · rw [if_pos hsold, if_pos hsold]
    rfl
  · rw [if_neg hsold, if_neg hsold]
    rfl

/-- A line that is verified keeps everything but its metadata, and its name there. -/
theorem revalidate_eq (h : it.revalidate cat = some y) :
    ∃ m, y = { it with client := m } ∧ m.domainName = it.client.domainName ∧
      (m.isManagedAcquisition = false → it.client.isManagedAcquisition = false) := by
  unfold CartItem.revalidate at h
  split at h
  · cases h
  · simp only at h
    split at h
    · cases h
    · split at h
      · obtain ⟨quote, -, h⟩ := Option.bind_eq_some_iff.mp h
        split at h
        · cases h
        · cases h
          exact ⟨_, rfl, rfl, fun hflag => absurd hflag (by simp)⟩
      · obtain ⟨quote, -, h⟩ := Option.bind_eq_some_iff.mp h
        split at h
        · cases h
        · cases h
          exact ⟨_, rfl, rfl, fun hflag => hflag⟩

theorem registrationTotal_forCheckout (h : it.revalidate cat = some y)
    (hlive : y.client.SameQuote it.client) (hordinary : y.client.isManaged = false) :
    y.client.registrationTotal cat = it.client.registrationTotal cat := by
  obtain ⟨m, rfl, hname, hflag⟩ := revalidate_eq h
  obtain ⟨hprice, hperiod, htotal, hunit, hpremium⟩ := hlive
  have hmanaged : m.isManagedAcquisition = false := by
    cases hm : m.isManagedAcquisition with
    | false => rfl
    | true => exact absurd hordinary (by simp [ClientMeta.isManaged, hm])
  have hprovider : m.registrationProviderTotal = it.client.registrationProviderTotal := by
    unfold ClientMeta.registrationProviderTotal
    rw [hmanaged, hflag hmanaged, hprice, hperiod, htotal, hunit]
  unfold ClientMeta.registrationTotal ClientMeta.registrationCustomerTotal
  rw [hprovider, hpremium, hname, hprice]

/-- **What the checkout makes of one line**, if the registrar's quote is as stored. -/
theorem charge_eq (h : it.forCheckout cat = some y) (hlive : it.QuotedLive cat)
    (hordinary : y.productType = .domainRegistration → y.client.isManaged = false) :
    ((y.lineTotal cat).map fun line => (y.id, line)) =
      if it.sold cat = true then some (it.id, (it.buildItemResponse cat).lineTotal) else none := by
  by_cases htype : it.productType = .domainRegistration
  · have hrevalidate : it.revalidate cat = some y := by
      rwa [CartItem.forCheckout, if_pos htype] at h
    have hchecked := hlive y h
    obtain ⟨m, hy, -, -⟩ := revalidate_eq hrevalidate
    have hytype : y.productType = .domainRegistration := by rw [hy]; exact htype
    have htotal := registrationTotal_forCheckout hrevalidate hchecked (hordinary hytype)
    have hline : y.lineTotal cat = some (it.buildItemResponse cat).lineTotal := by
      rw [CartItem.lineTotal, CartItem.basePrice, hytype, htotal, ← shown_registration htype, hy]
      rfl
    rw [if_pos (sold_registration htype), hline, Option.map_some, hy]
  · obtain rfl : it = y := by
      rw [CartItem.forCheckout, if_neg htype] at h
      exact Option.some.inj h
    rw [lineTotal_eq]
    split
    · rfl
    · rfl

/-! ### Whole carts -/

theorem lineTotals_eq {cart items : List CartItem}
    (h : List.Forall₂ (fun x y => x.forCheckout cat = some y) cart items)
    (hlive : ∀ x ∈ cart, x.QuotedLive cat)
    (hordinary : ∀ y ∈ items, y.productType = .domainRegistration → y.client.isManaged = false) :
    (items.filterMap fun it => (it.lineTotal cat).map fun line => (it.id, line)) =
      (cart.filter fun it => it.sold cat).map fun it =>
        (it.id, (it.buildItemResponse cat).lineTotal) := by
  induction h with
  | nil => rfl
  | @cons x y cart items hxy hrest ih =>
    have hline := charge_eq hxy (hlive x List.mem_cons_self) (hordinary y List.mem_cons_self)
    have htail := ih (fun z hz => hlive z (List.mem_cons_of_mem x hz))
      fun z hz => hordinary z (List.mem_cons_of_mem y hz)
    rw [List.filterMap_cons, hline, htail, List.filter_cons]
    by_cases hsold : x.sold cat = true
    · rw [if_pos hsold, if_pos hsold]
      rfl
    · rw [if_neg hsold, if_neg hsold]

theorem availableLines_eq (s : Shop) (cat : Catalogue) (user : UserId) :
    availableLines (s.getCart cat user).1.items =
      ((s.db.cart user).filter fun it => it.onSale cat && !s.db.stale cat user it).map fun it =>
        (it.id, (it.buildItemResponse cat).lineTotal) := by
  have hcart : (s.db.cleanupStalePurchasedCartItems cat user).cart user =
      (s.db.cart user).filter fun it => !s.db.stale cat user it := by
    simp only [Db.cart, Db.cleanupStalePurchasedCartItems, List.filter_filter]
    refine List.filter_congr fun it _ => ?_
    by_cases huser : it.userId = user <;> simp [huser]
  have hshown : ItemResponse.available ∘ (fun it : CartItem => it.buildItemResponse cat) =
      fun it => it.onSale cat := by
    funext it
    exact shown_available it cat
  simp only [Shop.getCart, cartResponse, availableLines, hcart, List.filter_map, List.map_map,
    List.filter_filter, hshown]
  rfl

theorem filter_map_eq_iff {α β : Type} {l : List α} {f : α → β} {p q : α → Bool}
    (hnodup : (l.map f).Nodup) :
    (l.filter p).map f = (l.filter q).map f ↔ ∀ a ∈ l, p a = q a := by
  constructor
  · intro h a ha
    have hmem : ∀ {p : α → Bool}, f a ∈ (l.filter p).map f ↔ p a = true := by
      intro p
      constructor
      · intro hfa
        obtain ⟨b, hb, hba⟩ := List.mem_map.mp hfa
        obtain ⟨hb, hpb⟩ := List.mem_filter.mp hb
        exact List.inj_on_of_nodup_map hnodup hb ha hba ▸ hpb
      · exact fun hpa => List.mem_map_of_mem (List.mem_filter.mpr ⟨ha, hpa⟩)
    rw [Bool.eq_iff_iff, ← hmem, ← hmem, h]
  · intro h
    rw [List.filter_congr h]

/-! ## The order -/

/-- What an order charges in rupees, without points. -/
theorem checkedOut_charge {s s' : Shop} {r : CheckoutRequest} {order : OrderId}
    (h : s.createCheckoutOrder cat r = .ok (order, s')) (hinr : r.converted = none)
    (hpoints : r.redeemPoints = false) :
    ∃ items, (s.db.cart r.buyer).mapM (fun it : CartItem => it.forCheckout cat) = some items ∧
      (∀ y ∈ items, y.productType = .domainRegistration → y.client.isManaged = false) ∧
      s'.gateway.orders =
        ⟨order, gstTotal (items.filterMap fun it => it.lineTotal cat).sum, r.buyer⟩ ::
          s.gateway.orders ∧
      s'.quotes = s.quotes ++ (validItems cat items).map (·.quote order) := by
  unfold Shop.createCheckoutOrder at h
  simp only at h
  split at h
  · cases h
  split at h
  · cases h
  split at h
  · cases h
  split at h
  · cases h
  next items hitems =>
  split at h
  · cases h
  next hmanaged =>
  split at h
  · cases h
  split at h
  · cases h
  split at h
  · cases h
  next order' gateway hissued =>
  obtain ⟨rfl, rfl⟩ := Prod.mk.inj (Except.ok.inj h)
  split at hissued
  · obtain ⟨rfl, horders⟩ := Gateway.createOrder_eq_some hissued
    refine ⟨items, hitems, fun y hy htype => ?_, ?_, rfl⟩
    · have hnone : ¬ (y.productType = .domainRegistration ∧ y.client.isManaged = true) :=
        fun hy' => hmanaged (List.any_eq_true.mpr ⟨y, hy, by simpa using hy'⟩)
      exact Bool.eq_false_iff.mpr fun hy' => hnone ⟨htype, hy'⟩
    · rw [horders, hinr, hpoints, calculateRedemption, if_pos (.inl rfl)]
  · cases hissued

theorem lineTotals_snd (items : List CartItem) :
    ((items.filterMap fun it => (it.lineTotal cat).map fun line => (it.id, line)).map Prod.snd) =
      items.filterMap fun it => it.lineTotal cat := by
  simp [List.map_filterMap, Function.comp_def]

theorem lineTotals_fst (items : List CartItem) :
    ((items.filterMap fun it => (it.lineTotal cat).map fun line => (it.id, line)).map Prod.fst) =
      (validItems cat items).map CartItem.id := by
  induction items with
  | nil => rfl
  | cons it items ih =>
    cases hline : it.lineTotal cat with
    | none => simpa [validItems, hline] using ih
    | some line => simpa [validItems, hline] using ih

/-- The checkout turns down, of the lines whose product is on sale, exactly those that the user
has bought already. -/
def Shop.SellsAsShown (s : Shop) (cat : Catalogue) (user : UserId) : Prop :=
  ∀ it ∈ s.db.cart user, it.onSale cat = true →
    (it.turnedDown cat = true ↔ s.db.stale cat user it = true)

theorem sellsAsShown_iff (s : Shop) (cat : Catalogue) (user : UserId) :
    s.SellsAsShown cat user ↔ ∀ it ∈ s.db.cart user,
      it.sold cat = (it.onSale cat && !s.db.stale cat user it) := by
  refine forall_congr' fun it => forall_congr' fun _ => ?_
  unfold CartItem.sold
  cases it.onSale cat <;> cases it.turnedDown cat <;> cases s.db.stale cat user it <;> simp

/-- **An order charges the cart as it is shown, exactly when** the checkout turns down what the
user has bought already and nothing else that is available. -/
theorem charges_as_shown_iff {s s' : Shop} (hs : s.Reachable) (cat : Catalogue)
    (r : CheckoutRequest) (order : OrderId) (hinr : r.converted = none)
    (hpoints : r.redeemPoints = false) (hlive : ∀ it ∈ s.db.cart r.buyer, it.QuotedLive cat)
    (h : s.createCheckoutOrder cat r = .ok (order, s')) :
    ChargesAsShown s cat r.buyer order s' ↔ s.SellsAsShown cat r.buyer := by
  obtain ⟨items, hitems, hordinary, horders, hquotes⟩ := checkedOut_charge h hinr hpoints
  have hcharged := lineTotals_eq (bind_eq_some_mapM hitems) hlive hordinary
  have hids : ((s.db.cart r.buyer).map fun it =>
      (it.id, (it.buildItemResponse cat).lineTotal)).Nodup := by
    refine List.Nodup.of_map Prod.fst ?_
    rw [List.map_map]
    exact hs.distinct.ids.sublist (List.filter_sublist.map _)
  have hlines : lineTotals cat (s.db.cart r.buyer) =
      some (availableLines (s.getCart cat r.buyer).1.items) ↔ s.SellsAsShown cat r.buyer := by
    rw [sellsAsShown_iff, ← filter_map_eq_iff hids, ← availableLines_eq, ← hcharged, lineTotals,
      hitems, Option.map_some, Option.some_inj]
  refine ⟨fun hshown => hlines.mp hshown.lines, fun hsells => ?_⟩
  have hshown := hlines.mpr hsells
  rw [lineTotals, hitems, Option.map_some, Option.some_inj] at hshown
  refine ⟨hlines.mpr hsells, ?_, ?_⟩
  · have hids : (validItems cat items).map (fun y => (order, y.id)) =
        (availableLines (s.getCart cat r.buyer).1.items).map fun line => (order, line.1) := by
      calc (validItems cat items).map (fun y => (order, y.id))
          = ((validItems cat items).map CartItem.id).map (Prod.mk order) := by
            rw [List.map_map]
            rfl
        _ = ((availableLines (s.getCart cat r.buyer).1.items).map Prod.fst).map
              (Prod.mk order) := by rw [← lineTotals_fst, hshown]
        _ = _ := by
            rw [List.map_map]
            rfl
    rw [hquotes, List.map_append, List.map_map, ← hids]
    rfl
  · have htotal : (s.getCart cat r.buyer).1.total =
        gstTotal (items.filterMap fun it => it.lineTotal cat).sum := by
      rw [← lineTotals_snd, hshown]
      rfl
    rw [horders, htotal]

/-! ### An unverified line -/

instance (s : Shop) (cat : Catalogue) (user : UserId) : Decidable (s.SellsAsShown cat user) :=
  inferInstanceAs (Decidable (∀ it ∈ s.db.cart user, it.onSale cat = true →
    (it.turnedDown cat = true ↔ s.db.stale cat user it = true)))

/-- A piece of software, a venture and a name; `purchasable` says whether the software is
verified. -/
def mixedCatalogue (purchasable : Bool) : Catalogue :=
  { twoServices with
    software := fun product =>
      if product = 20 then some ⟨some 9, true, false, purchasable, 50000, []⟩ else none
    ventures := fun product => if product = 30 then some ⟨9, true, 70000⟩ else none
    quote := fun _ _ => some ⟨90000, 80000, 80000, false⟩ }

/-- The three are put into a cart. -/
def mixedCart : List Op :=
  [.addItem (mixedCatalogue true) 1 ⟨.technology, 20, none, [], false, none⟩,
    .addItem (mixedCatalogue true) 1 ⟨.ventureDeal, 30, none, [], false, none⟩,
    .addItem (mixedCatalogue true) 1 ⟨.domainRegistration, 0, none, [], false,
      some { domainName := some 3, price := 90000, providerPeriodTotal := 80000,
             providerUnitPrice := 80000 }⟩]

def rupees : CheckoutRequest := ⟨1, false, none, true, true⟩

theorem quotedLive_mixedCart (purchasable : Bool) :
    ∀ it ∈ (Run.exec Shop.step Shop.empty mixedCart).db.cart 1,
      it.QuotedLive (mixedCatalogue purchasable) := by
  cases purchasable <;> decide

/-- A cart of verified products is charged as it is shown. -/
theorem mixedCart_as_shown : ∃ s',
    (Run.exec Shop.step Shop.empty mixedCart).createCheckoutOrder (mixedCatalogue true) rupees =
      .ok (0, s') ∧
    ChargesAsShown (Run.exec Shop.step Shop.empty mixedCart) (mixedCatalogue true) 1 0 s' :=
  ⟨_, rfl, (charges_as_shown_iff ⟨mixedCart, rfl⟩ (mixedCatalogue true) rupees 0 rfl rfl
    (quotedLive_mixedCart true) rfl).mpr (by decide)⟩

/-- The software loses its verification: it is still shown as available, and not charged. -/
theorem unverified_line_not_charged : ¬ ∀ (s s' : Shop) (cat : Catalogue) (r : CheckoutRequest)
    (order : OrderId), s.Reachable → r.converted = none → r.redeemPoints = false →
      (∀ it ∈ s.db.cart r.buyer, it.QuotedLive cat) →
      s.createCheckoutOrder cat r = .ok (order, s') → ChargesAsShown s cat r.buyer order s' := by
  intro h
  have hshown := h (Run.exec Shop.step Shop.empty mixedCart) _ (mixedCatalogue false) rupees 0
    ⟨mixedCart, rfl⟩ rfl rfl (quotedLive_mixedCart false) rfl
  exact absurd hshown.lines (by decide)

end Deltapreneur.Cart

import Deltapreneur.Cart.Shop

/-!
# What is delivered is what was priced

Over any history of a shop, the rows that fulfilling a cart writes agree with the quote of their
order and line: the plan, the add-ons, the opt-in, the billing cycle and the registration period
that the line had when its order was priced.

A checkout freezes a piece of software in a pending purchase and a registration in a pending
order. It does not freeze a provider's service or a marketplace listing: those are delivered as
the live cart row says, and `add_item` and `update_item` without metadata change the plan and the
add-ons of a row and leave it stamped.

* `PricedRows`: the rows agree with the quotes.
* `Shop.Ok`: with it, what the stamps on the cart rows say.
* `Op.AsPriced`: a fulfilling call finds the lines as they were priced.

Results:

* `delivered_as_priced`: in every history whose fulfilling calls find the lines as they were
  priced, everything delivered agrees with its quote.
-/

namespace Deltapreneur.Cart

open Razorpay Session Prog

/-! ## Rows and quotes -/

/-- The quote of an order and a line satisfies `φ`. -/
def Quoted (quotes : List Quote) (order : OrderId) (line : ItemId) (φ : Quote → Prop) : Prop :=
  ∃ q ∈ quotes, q.order = order ∧ q.line = line ∧ φ q

variable {quotes more : List Quote} {order : OrderId} {o : RegistrationOrder} {e : Entry}

theorem Quoted.mono {line : ItemId} {φ : Quote → Prop} (h : Quoted quotes order line φ) :
    Quoted (quotes ++ more) order line φ := by
  obtain ⟨q, hq, h⟩ := h
  exact ⟨q, List.mem_append_left _ hq, h⟩

def Subscription.Priced (quotes : List Quote) (x : Subscription) : Prop :=
  Quoted quotes x.razorpayOrderId x.line fun q =>
    x.planCode = q.selectedPlan.getD .starter ∧ x.annual = q.annual

def Purchase.Priced (quotes : List Quote) (p : Purchase) : Prop :=
  Quoted quotes p.razorpayOrderId p.line fun q =>
    p.selectedPlan = q.selectedPlan.bind Plan.duration? ∧ p.addonServices = q.addonServices ∧
      p.coBrotherOptIn = q.coBrotherOptIn

def ListingSale.Priced (quotes : List Quote) (x : ListingSale) : Prop :=
  Quoted quotes x.razorpayOrderId x.line fun q => x.addonServices = q.addonServices

def AddonRequest.Priced (quotes : List Quote) (x : AddonRequest) : Prop :=
  Quoted quotes x.razorpayOrderId x.line fun q => x.addon ∈ q.addonServices

/-- A marketplace listing has no period. -/
def RegistrationOrder.Priced (quotes : List Quote) (o : RegistrationOrder) : Prop :=
  o.marketplace = false → Quoted quotes o.razorpayOrderId o.line fun q =>
    o.periodYears = q.periodYears

/-- **Everything delivered agrees with its quote.** -/
structure PricedRows (quotes : List Quote) (db : Db) : Prop where
  subscriptions : ∀ x ∈ db.subscriptions, x.Priced quotes
  purchases : ∀ p ∈ db.purchases, p.Priced quotes
  sales : ∀ x ∈ db.sales, x.Priced quotes
  requests : ∀ x ∈ db.requests, x.Priced quotes
  registrations : ∀ o ∈ db.registrations, o.Priced quotes

/-- The stamps of a line agree with its quote, and lead to registration orders of its order. -/
def CartItem.StampOk (quotes : List Quote) (db : Db) (it : CartItem) : Prop :=
  ∀ order, it.checkout.razorpayOrderId = some order →
    (Quoted quotes order it.id fun q => it.client.annual = q.annual ∧
      (it.productType = .domainRegistration → it.checkout.periodYears = some q.periodYears)) ∧
    (it.productType = .domainRegistration → ∀ id, it.checkout.registrationOrderId = some id →
      ∀ o ∈ db.registrations, o.id = id → o.razorpayOrderId = order)

structure Shop.Ok (s : Shop) : Prop where
  ids : (s.db.items.map CartItem.id).Nodup
  fresh : ∀ it ∈ s.db.items, it.id < s.nextItem
  calls : ∀ o ∈ s.db.registrations, o.id.1 < s.nextCall
  sameId : ∀ o ∈ s.db.registrations, ∀ o' ∈ s.db.registrations, o.id = o'.id →
    o.razorpayOrderId = o'.razorpayOrderId
  orders : ∀ q ∈ s.quotes, q.order < s.gateway.nextId
  period : ∀ q ∈ s.quotes, 1 ≤ q.periodYears
  unique : (s.quotes.map fun q => (q.order, q.line)).Nodup
  links : ∀ it ∈ s.db.items, ∀ id, it.checkout.registrationOrderId = some id → id.1 < s.nextCall
  stamped : ∀ it ∈ s.db.items, it.StampOk s.quotes s.db
  rows : PricedRows s.quotes s.db

theorem ok_empty : Shop.empty.Ok := by
  constructor <;> simp [Shop.empty, Db.empty]
  constructor <;> simp

theorem Shop.Ok.distinct {s : Shop} (hok : s.Ok) : s.Distinct := by
  refine ⟨hok.ids, fun id hid => ?_⟩
  obtain ⟨it, hit, rfl⟩ := List.mem_map.mp hid
  exact hok.fresh it hit

/-! ## What a fulfilling call finds -/

/-- The line is a piece of software with a pending purchase: that is what is delivered. -/
def CartItem.Bought (it : CartItem) (cat : Catalogue) (db : Db) (order : OrderId) : Prop :=
  it.client.serviceSlug = [] ∧ (cat.software it.productId).isSome ∧
    ∃ p ∈ db.purchases, p.razorpayOrderId = order ∧ p.softwareId = it.productId

/-- The live cart row still has what it is delivered from. -/
def CartItem.AsPriced (it : CartItem) (e : Entry) (cat : Catalogue) (db : Db) (q : Quote) : Prop :=
  match it.productType with
  | .domainListing => it.addonServices = q.addonServices
  | .technology => e = .verify ∧ it.Bought cat db q.order ∨
      it.selectedPlan = q.selectedPlan ∧ it.addonServices = q.addonServices ∧
        ((cat.software it.productId).isSome → it.coBrotherOptIn = q.coBrotherOptIn)
  | .domainRegistration => ∀ domain, it.client.domainName = some domain →
      cat.minYears domain ≤ q.periodYears
  | .ventureDeal => True

/-- A fulfilling call that is accepted finds the lines as they were priced, and the registry's
minimum is not above the period that was ordered. -/
def Op.AsPriced (s : Shop) : Op → Prop
  | .fulfil e v => s.accepts v = true →
      (∀ it ∈ e.lines s.db (v.toRequest s.nextCall), ∀ q ∈ s.quotes, q.order = v.order →
        q.line = it.id → it.AsPriced e v.catalogue s.db q) ∧
      ∀ o ∈ s.db.registrations, o.razorpayOrderId = v.order → o.marketplace = false →
        v.catalogue.minYears o.domain ≤ o.periodYears
  | _ => True

/-! ## During a call -/

section Call

variable {s : Shop} {r : Request} {x : Db} {it : CartItem}

/-- The order that a registration order is of; new rows are of the call's order. -/
def Shop.owner (s : Shop) (r : Request) (id : Uuid) : OrderId :=
  ((s.db.registrations.find? fun o => o.id = id).map RegistrationOrder.razorpayOrderId).getD r.order

/-- The row was there before the call, or its id is one of the call. -/
def Shop.Known (s : Shop) (id : Uuid) : Prop :=
  (∃ o ∈ s.db.registrations, o.id = id) ∨ id.1 = s.nextCall

/-- The registration orders that the call works on. -/
structure RegDuring (s : Shop) (r : Request) (o : RegistrationOrder) : Prop where
  owner : s.owner r o.id = r.order
  order : o.razorpayOrderId = r.order
  known : s.Known o.id
  priced : o.Priced s.quotes
  floor : o.marketplace = false → r.catalogue.minYears o.domain ≤ o.periodYears

def WriteDuring (s : Shop) (r : Request) : Write → Prop
  | .saveItem id client checkout => ∃ it ∈ s.db.items, it.id = id ∧ client = it.client ∧
      checkout = { it.checkout with fulfilledPaymentId := checkout.fulfilledPaymentId }
  | .sellListing x => x.Priced s.quotes
  | .insertRegistration o | .saveRegistration o => RegDuring s r o
  | .insertPurchase p => p.Priced s.quotes
  | .insertSubscription x => x.Priced s.quotes
  | .insertRequest x => x.Priced s.quotes
  | _ => True

/-- `y` is the line `it` with at most its flag changed. -/
structure CartItem.Flagged (it y : CartItem) : Prop where
  id : it.id = y.id
  type : it.productType = y.productType
  annual : y.client.annual = it.client.annual
  checkout : y.checkout =
    { it.checkout with fulfilledPaymentId := y.checkout.fulfilledPaymentId }

/-- The tables during the call. -/
structure During (s : Shop) (r : Request) (x : Db) : Prop where
  ids : (x.items.map CartItem.id).Sublist (s.db.items.map CartItem.id)
  items : ∀ y ∈ x.items, ∃ it ∈ s.db.items, it.Flagged y
  owner : ∀ o ∈ x.registrations, o.razorpayOrderId = s.owner r o.id ∧ s.Known o.id
  floor : ∀ o ∈ x.registrations, o.razorpayOrderId = r.order → o.marketplace = false →
    r.catalogue.minYears o.domain ≤ o.periodYears
  bought : ∀ p ∈ s.db.purchases, ∃ p' ∈ x.purchases,
    p'.razorpayOrderId = p.razorpayOrderId ∧ p'.softwareId = p.softwareId
  rows : PricedRows s.quotes x

theorem owner_of_mem (hok : s.Ok) (ho : o ∈ s.db.registrations) :
    s.owner r o.id = o.razorpayOrderId := by
  unfold Shop.owner
  cases hfind : s.db.registrations.find? fun o' => o'.id = o.id with
  | none => exact absurd (List.find?_eq_none.mp hfind o ho) (by simp)
  | some o' =>
    have hid : o'.id = o.id := by simpa using List.find?_some hfind
    exact hok.sameId o' (List.mem_of_find?_eq_some hfind) o ho hid

theorem owner_of_new (hok : s.Ok) {id : Uuid} (hid : id.1 = s.nextCall) :
    s.owner r id = r.order := by
  unfold Shop.owner
  cases hfind : s.db.registrations.find? fun o => o.id = id with
  | none => rfl
  | some o =>
    have heq : o.id = id := by simpa using List.find?_some hfind
    have hlt := hok.calls o (List.mem_of_find?_eq_some hfind)
    rw [heq, hid] at hlt
    exact absurd hlt (lt_irrefl _)

theorem during_start (hok : s.Ok)
    (hfloor : ∀ o ∈ s.db.registrations, o.razorpayOrderId = r.order → o.marketplace = false →
      r.catalogue.minYears o.domain ≤ o.periodYears) : During s r s.db where
  ids := .refl _
  items := fun y hy => ⟨y, hy, rfl, rfl, rfl, rfl⟩
  owner := fun o ho => ⟨(owner_of_mem hok ho).symm, .inl ⟨o, ho, rfl⟩⟩
  floor := hfloor
  bought := fun p hp => ⟨p, hp, rfl, rfl⟩
  rows := hok.rows

theorem forall_mem_concat {α : Type} {P : α → Prop} {l : List α} {a : α} (h : ∀ b ∈ l, P b)
    (ha : P a) : ∀ b ∈ l ++ [a], P b := by
  intro b hb
  rcases List.mem_append.mp hb with hb | hb
  · exact h b hb
  · exact List.mem_singleton.mp hb ▸ ha

theorem forall_mem_edit {α : Type} {P : α → Prop} {l : List α} {c : α → Prop} [DecidablePred c]
    {f : α → α} (h : ∀ a ∈ l, P a) (hf : ∀ a ∈ l, c a → P (f a)) :
    ∀ b ∈ l.map (fun a => if c a then f a else a), P b := by
  intro b hb
  obtain ⟨a, ha, rfl⟩ := List.mem_map.mp hb
  split
  · next hc => exact hf a ha hc
  · exact h a ha

theorem During.withRegistrations {l : List RegistrationOrder} (h : During s r x)
    (hl : ∀ o ∈ l, o ∈ x.registrations ∨ RegDuring s r o) :
    During s r { x with registrations := l } where
  ids := h.ids
  items := h.items
  owner := fun o ho => (hl o ho).elim (h.owner o) fun hr => ⟨hr.order.trans hr.owner.symm, hr.known⟩
  floor := fun o ho => (hl o ho).elim (h.floor o) fun hr _ => hr.floor
  bought := h.bought
  rows := ⟨h.rows.1, h.rows.2, h.rows.3, h.rows.4, fun o ho =>
    (hl o ho).elim (h.rows.5 o) RegDuring.priced⟩

/-- The writes of the call keep what is known of the tables. -/
theorem during_write (hok : s.Ok) {w : Write} (hw : WriteDuring s r w) (h : During s r x) :
    During s r (w.apply x) := by
  cases w with
  | saveItem id client checkout =>
    obtain ⟨it, hit, hid, rfl, hcheckout⟩ := hw
    refine ⟨map_saveItem_id id _ _ x ▸ h.ids, forall_mem_edit h.items fun y hy hyid => ?_,
      h.owner, h.floor, h.bought, ⟨h.rows.1, h.rows.2, h.rows.3, h.rows.4, h.rows.5⟩⟩
    obtain ⟨it', hit', hflag⟩ := h.items y hy
    -- The row with this id is the line that the call has read.
    obtain rfl : it' = it := List.inj_on_of_nodup_map hok.ids hit' hit
      (hflag.id.trans (hyid.trans hid.symm))
    exact ⟨it', hit, hflag.id, hflag.type, rfl, hcheckout⟩
  | deleteItems ids =>
    exact ⟨(List.filter_sublist.map _).trans h.ids,
      fun y hy => h.items y (List.mem_of_mem_filter hy), h.owner, h.floor, h.bought,
      ⟨h.rows.1, h.rows.2, h.rows.3, h.rows.4, h.rows.5⟩⟩
  | sellListing sale =>
    refine ⟨h.ids, h.items, h.owner, h.floor, h.bought, ⟨h.rows.1, h.rows.2, ?_, h.rows.4, h.rows.5⟩⟩
    exact List.forall_mem_cons.mpr ⟨hw, fun y hy => h.rows.3 y (List.mem_of_mem_filter hy)⟩
  | insertRegistration o =>
    exact h.withRegistrations (forall_mem_concat (fun _ ho => .inl ho) (.inr hw))
  | saveRegistration o =>
    exact h.withRegistrations (forall_mem_edit (fun _ ho => .inl ho) fun _ _ _ => .inr hw)
  | insertPurchase p =>
    refine ⟨h.ids, h.items, h.owner, h.floor, fun p' hp' => ?_,
      ⟨h.rows.1, forall_mem_concat h.rows.2 hw, h.rows.3, h.rows.4, h.rows.5⟩⟩
    obtain ⟨q, hq, hsame⟩ := h.bought p' hp'
    exact ⟨q, List.mem_append_left _ hq, hsame⟩
  | completePurchase id software payment =>
    refine ⟨h.ids, h.items, h.owner, h.floor, fun p' hp' => ?_, ⟨h.rows.1,
      forall_mem_edit h.rows.2 fun p hp _ => h.rows.2 p hp, h.rows.3, h.rows.4, h.rows.5⟩⟩
    obtain ⟨q, hq, hsame⟩ := h.bought p' hp'
    refine ⟨_, List.mem_map_of_mem hq, ?_⟩
    split
    · exact hsame
    · exact hsame
  | insertSubscription y =>
    exact ⟨h.ids, h.items, h.owner, h.floor, h.bought,
      ⟨forall_mem_concat h.rows.1 hw, h.rows.2, h.rows.3, h.rows.4, h.rows.5⟩⟩
  | saveSubscription id status providerOrder =>
    exact ⟨h.ids, h.items, h.owner, h.floor, h.bought, ⟨forall_mem_edit h.rows.1 fun y hy _ =>
      h.rows.1 y hy, h.rows.2, h.rows.3, h.rows.4, h.rows.5⟩⟩
  | insertRequest y =>
    exact ⟨h.ids, h.items, h.owner, h.floor, h.bought,
      ⟨h.rows.1, h.rows.2, h.rows.3, forall_mem_concat h.rows.4 hw, h.rows.5⟩⟩
  | _ => exact ⟨h.ids, h.items, h.owner, h.floor, h.bought,
      ⟨h.rows.1, h.rows.2, h.rows.3, h.rows.4, h.rows.5⟩⟩

theorem regDuring_of_mem (h : During s r x) (ho : o ∈ x.registrations)
    (horder : o.razorpayOrderId = r.order) : RegDuring s r o where
  owner := (h.owner o ho).1.symm.trans horder
  order := horder
  known := (h.owner o ho).2
  priced := h.rows.5 o ho
  floor := h.floor o ho horder

theorem registration_mem {id : Uuid} (h : x.registration id = some o) :
    o ∈ x.registrations ∧ o.id = id :=
  ⟨List.mem_of_find?_eq_some h, by simpa using List.find?_some h⟩

theorem provisioned_period {minYears : Nat} {status : RegistrationStatus}
    {registrarId registering : Bool} (hone : 1 ≤ o.periodYears) (hmin : minYears ≤ o.periodYears) :
    (o.provisioned minYears status registrarId registering).periodYears = o.periodYears := by
  unfold RegistrationOrder.provisioned resolveRegistrationPeriod
  simp only
  split
  · omega
  · rfl

/-- What the call may write apart from its lines. -/
theorem allows_during (hok : s.Ok) :
    Allows (During s r) (WriteDuring s r) (RegDuring s r) (Purchase.Priced s.quotes) r where
  track _ := trivial
  redemption := trivial
  delete _ := trivial
  state _ _ _ := trivial
  readOrder x h o ho horder := regDuring_of_mem h ho horder
  readAgain x h o ho fresh hfresh := by
    obtain ⟨hmem, hid⟩ := registration_mem hfresh
    exact regDuring_of_mem h hmem (((h.owner fresh hmem).1.trans (hid ▸ rfl)).trans ho.owner)
  saveReg o ho := ho
  payReg o status ho := ⟨ho.owner, ho.order, ho.known, ho.priced, ho.floor⟩
  failReg o ho := ⟨ho.owner, ho.order, ho.known, ho.priced, ho.floor⟩
  provisionReg o status registrarId registering ho := by
    refine ⟨ho.owner, ho.order, ho.known, fun hmarket => ?_, fun hmarket => ?_⟩
    · obtain ⟨q, hq, horder, hline, hperiod⟩ := ho.priced hmarket
      refine ⟨q, hq, horder, hline, ?_⟩
      rw [provisioned_period (hperiod ▸ hok.period q hq) (ho.floor hmarket)]
      exact hperiod
    · obtain ⟨q, hq, -, -, hperiod⟩ := ho.priced hmarket
      rw [provisioned_period (hperiod ▸ hok.period q hq) (ho.floor hmarket)]
      exact ho.floor hmarket
  readPur x h p hp := h.rows.2 p hp
  completePur _ _ := trivial
  requestPur p hp addon haddon := by
    obtain ⟨q, hq, horder, hline, -, haddons, -⟩ := hp
    refine ⟨q, hq, horder, hline, ?_⟩
    show addon ∈ q.addonServices
    rw [← haddons]
    exact haddon

/-! ## The lines of a call -/

theorem quote_of_line (hok : s.Ok) (hit : it ∈ s.db.items)
    (horder : it.checkout.razorpayOrderId = some r.order) :
    ∃ q ∈ s.quotes, q.order = r.order ∧ q.line = it.id ∧ it.client.annual = q.annual ∧
      (it.productType = .domainRegistration → it.checkout.periodYears = some q.periodYears) :=
  (hok.stamped it hit r.order horder).1

theorem owner_of_link (hok : s.Ok) (hit : it ∈ s.db.items)
    (horder : it.checkout.razorpayOrderId = some r.order) (htype : it.productType = .domainRegistration)
    {id : Uuid} (hid : it.checkout.registrationOrderId = some id) : s.owner r id = r.order := by
  unfold Shop.owner
  cases hfind : s.db.registrations.find? fun o => o.id = id with
  | none => rfl
  | some o =>
    have heq : o.id = id := by simpa using List.find?_some hfind
    exact (hok.stamped it hit r.order horder).2 htype id hid o (List.mem_of_find?_eq_some hfind) heq

/-- What the work on a line may write, when the line is as it was priced. -/
theorem allowsLine_during (hok : s.Ok) (hcall : r.call = s.nextCall) (hit : it ∈ s.db.items)
    (horder : it.checkout.razorpayOrderId = some r.order)
    (hpriced : ∀ q ∈ s.quotes, q.order = r.order → q.line = it.id → it.AsPriced e r.catalogue s.db q)
    (hlive : it.productType = .technology → ¬ (e = .verify ∧ it.Bought r.catalogue s.db r.order)) :
    AllowsLine (During s r) (WriteDuring s r) (RegDuring s r) (Purchase.Priced s.quotes) r it := by
  obtain ⟨q, hq, hqorder, hqline, hannual, hperiod⟩ := quote_of_line hok hit horder
  have has := hpriced q hq hqorder hqline
  have hnew : s.owner r (r.call, it.id) = r.order := owner_of_new hok hcall
  have haddons : it.productType = .domainListing ∨ it.productType = .technology →
      it.addonServices = q.addonServices := by
    rintro (htype | htype)
    · simpa [CartItem.AsPriced, htype] using has
    · simp only [CartItem.AsPriced, htype, hqorder] at has
      exact (has.resolve_left (hlive htype)).2.1
  have hline : ∀ {φ : Quote → Prop}, φ q → Quoted s.quotes r.order it.id φ :=
    fun hφ => ⟨q, hq, hqorder, hqline, hφ⟩
  have hpurchase : it.productType = .technology → (r.catalogue.software it.productId).isSome →
      (newPurchase r it).Priced s.quotes := by
    intro htype hsoft
    simp only [CartItem.AsPriced, htype, hqorder] at has
    obtain ⟨hplan, haddons, hoptIn⟩ := has.resolve_left (hlive htype)
    exact hline ⟨hplan ▸ rfl, haddons, hoptIn hsoft⟩
  have hregistration : it.productType = .domainRegistration → ∀ domain,
      it.client.domainName = some domain → RegDuring s r (newRegistrationOrder r it domain) := by
    intro htype domain hdomain
    have hnewPeriod : (newRegistrationOrder r it domain).periodYears = q.periodYears := by
      have hone := hok.period q hq
      simp only [newRegistrationOrder, hperiod htype, Option.getD_some]
      omega
    refine ⟨hnew, rfl, .inr hcall, fun _ => hline hnewPeriod, fun _ => ?_⟩
    simp only [CartItem.AsPriced, htype] at has
    rw [hnewPeriod]
    exact has domain hdomain
  exact {
    toAllows := allows_during hok
    flag := ⟨it, hit, rfl, rfl, rfl⟩
    sale := fun htype => hline (haddons (.inl htype))
    request := fun htype addon haddon => hline (haddons htype ▸ haddon)
    transaction := trivial
    market := ⟨hnew, rfl, .inr hcall, fun h => absurd h (by simp), fun h => absurd h (by simp)⟩
    deal := trivial
    purchase := hpurchase
    newPur := hpurchase
    readLine := fun htype x h id hid o ho => by
      obtain ⟨hmem, hoid⟩ := registration_mem ho
      have howner := owner_of_link hok hit horder htype hid
      exact regDuring_of_mem h hmem (((h.owner o hmem).1.trans (hoid ▸ rfl)).trans howner)
    registration := hregistration
    newReg := hregistration }

theorem allowsSubscription_during (hok : s.Ok) (hit : it ∈ s.db.items)
    (htype : it.productType = .technology) (horder : it.checkout.razorpayOrderId = some r.order)
    (hpriced : ∀ q ∈ s.quotes, q.order = r.order → q.line = it.id → it.AsPriced e r.catalogue s.db q)
    (hlive : ¬ (e = .verify ∧ it.Bought r.catalogue s.db r.order)) :
    AllowsSubscription (WriteDuring s r) r it := by
  obtain ⟨q, hq, hqorder, hqline, hannual, -⟩ := quote_of_line hok hit horder
  have has := hpriced q hq hqorder hqline
  simp only [CartItem.AsPriced, htype, hqorder] at has
  intro slug status _
  refine ⟨q, hq, hqorder, hqline, ?_, hannual⟩
  show it.selectedPlan.getD .starter = _
  rw [(has.resolve_left hlive).1]

theorem checkoutItems_mem {user : UserId} (h : it ∈ x.checkoutItems user order) :
    it ∈ x.items ∧ it.checkout.razorpayOrderId = some order := by
  obtain ⟨hcart, horder⟩ := List.mem_filter.mp h
  exact ⟨(mem_cart.mp hcart).1, by simpa using horder⟩

theorem lines_mem (h : it ∈ e.lines x r) :
    it ∈ x.items ∧ it.checkout.razorpayOrderId = some r.order := by
  cases e with
  | verify => exact checkoutItems_mem h
  | webhook => exact checkoutItems_mem (List.mem_of_mem_filter h)

/-- The work on a line of the call. -/
theorem only_line_during (hok : s.Ok) (hcall : r.call = s.nextCall)
    (hpriced : ∀ it ∈ e.lines s.db r, ∀ q ∈ s.quotes, q.order = r.order → q.line = it.id →
      it.AsPriced e r.catalogue s.db q) (hit : it ∈ e.lines s.db r) :
    Only (During s r) (WriteDuring s r) (fun _ => True) (e.line r it) := by
  obtain ⟨hmem, horder⟩ := lines_mem hit
  by_cases hbought : it.productType = .technology ∧ e = .verify ∧
      it.Bought r.catalogue s.db r.order
  · obtain ⟨htype, rfl, hslug, hsoft, p, hp, hporder, hpsoft⟩ := hbought
    obtain ⟨sw, hsw⟩ := Option.isSome_iff_exists.mp hsoft
    refine only_verifyLine_bought (allows_during hok) ⟨it, hmem, rfl, rfl, rfl⟩ htype hslug hsw
      fun x h => ?_
    obtain ⟨p', hp', horder', hsoft'⟩ := h.bought p hp
    exact ⟨p', hp', horder'.trans hporder, hsoft'.trans hpsoft⟩
  · have hlive : it.productType = .technology → ¬ (e = .verify ∧ it.Bought r.catalogue s.db r.order) :=
      fun htype h => hbought ⟨htype, h⟩
    have hline := allowsLine_during hok hcall hmem horder (hpriced it hit) hlive
    have hsub := fun htype => allowsSubscription_during hok hmem htype horder (hpriced it hit)
      (hlive htype)
    cases e with
    | verify => exact only_verifyLine hline hsub
    | webhook => exact only_webhookLine hline (hsub (by simpa using (List.mem_filter.mp hit).2))

theorem only_locked (h : Allows (During s r) (WriteDuring s r) (RegDuring s r)
    (Purchase.Priced s.quotes) r) (hlines : ∀ it ∈ e.lines s.db r,
      Only (During s r) (WriteDuring s r) (fun _ => True) (e.line r it)) :
    Only (During s r) (WriteDuring s r) (fun _ => True) (e.locked r s.db) := by
  cases e with
  | verify => exact only_verifyLocked h hlines
  | webhook => exact only_webhookLocked h hlines

theorem Shop.Ok.known (hok : s.Ok) {id : Uuid} (h : s.Known id) : id.1 < s.nextCall + 1 := by
  rcases h with ⟨o, ho, rfl⟩ | hid
  · exact (hok.calls o ho).trans (Nat.lt_succ_self _)
  · exact hid ▸ Nat.lt_succ_self _

theorem During.stampOk (hok : s.Ok) (h : During s r x) {y : CartItem} (hit : it ∈ s.db.items)
    (hflag : it.Flagged y) : y.StampOk s.quotes x := by
  have hcheckout := hflag.checkout
  intro order horder
  have horder' : it.checkout.razorpayOrderId = some order := by
    rw [hcheckout] at horder
    exact horder
  obtain ⟨⟨q, hq, hqorder, hqline, hannual, hperiod⟩, hlink⟩ := hok.stamped it hit order horder'
  refine ⟨⟨q, hq, hqorder, hqline.trans hflag.id, hflag.annual.trans hannual, fun htype => ?_⟩,
    fun htype id hid o ho hoid => ?_⟩
  · rw [hcheckout]
    exact hperiod (hflag.type.trans htype)
  · have hid' : it.checkout.registrationOrderId = some id := by
      rw [hcheckout] at hid
      exact hid
    -- The row was there before: the call's own ids are newer than any link.
    have hlt := hok.links it hit id hid'
    rcases (h.owner o ho).2 with ⟨o', ho', hsame⟩ | hnew
    · rw [(h.owner o ho).1, ← hsame, owner_of_mem hok ho']
      exact hlink (hflag.type.trans htype) id hid' o' ho' (hsame.trans hoid)
    · rw [hoid] at hnew
      omega

theorem During.distinct (hok : s.Ok) (h : During s r x) :
    Shop.Distinct { s with db := x, nextCall := s.nextCall + 1 } :=
  Shop.Distinct.within (s := s) hok.distinct h.ids rfl

/-- The shop after the call. -/
theorem During.ok (hok : s.Ok) (h : During s r x) :
    Shop.Ok { s with db := x, nextCall := s.nextCall + 1 } where
  ids := (h.distinct hok).ids
  fresh := (h.distinct hok).lt
  calls := fun o ho => hok.known (h.owner o ho).2
  sameId := fun o ho o' ho' hid =>
    ((h.owner o ho).1.trans (hid ▸ rfl)).trans (h.owner o' ho').1.symm
  orders := hok.orders
  period := hok.period
  unique := hok.unique
  links := fun y hy id hid => by
    obtain ⟨it, hit, hflag⟩ := h.items y hy
    rw [hflag.checkout] at hid
    exact (hok.links it hit id hid).trans (Nat.lt_succ_self _)
  stamped := fun y hy => by
    obtain ⟨it, hit, hflag⟩ := h.items y hy
    exact h.stampOk hok hit hflag
  rows := h.rows

end Call

theorem Shop.Ok.withWallets {s : Shop} (hok : s.Ok) (wallets : EdgePoints.Wallets) :
    Shop.Ok { s with db := { s.db with wallets := wallets } } :=
  { hok with
    rows := ⟨hok.rows.1, hok.rows.2, hok.rows.3, hok.rows.4, hok.rows.5⟩ }

/-- **A fulfilling call keeps everything as priced**, if it finds the lines so. -/
theorem ok_fulfil {s : Shop} {v : PaymentRequest} (hok : s.Ok)
    (hpriced : (Op.fulfil e v).AsPriced s) : (s.fulfil e v).2.Ok := by
  unfold Shop.fulfil
  split
  · next haccepts =>
    obtain ⟨hlines, hfloor⟩ := hpriced haccepts
    obtain ⟨tx, hlog, -, hrun⟩ := run_call e (v.toRequest s.nextCall) s.db
    have hview : engine.view s.db tx = s.db := by rw [Engine.view, hlog]; rfl
    have hstart : During s (v.toRequest s.nextCall) s.db := during_start hok hfloor
    have honly := only_locked (e := e) (allows_during hok) fun it hit =>
      only_line_during hok rfl hlines hit
    have hend := Only.run_db (fun w x hw hx => during_write hok hw hx) honly hstart
      (hview.symm ▸ hstart)
    rw [← hrun] at hend
    exact hend.ok hok
  · exact hok.withWallets _

/-! ## The other requests -/

section Requests

variable {s s' : Shop} {db : Db} {n : ItemId} {call : Nat}

theorem CartItem.StampOk.edit {x y : CartItem} (h : x.StampOk quotes db) (hedit : x.EditOf y) :
    y.StampOk quotes db := by
  intro order horder
  rcases hedit.link with hnone | ⟨hcheckout, hannual, -, -⟩
  · simp [hnone] at horder
  · rw [hcheckout] at horder ⊢
    obtain ⟨⟨q, hq, hqorder, hqline, hqannual, hperiod⟩, hlink⟩ := h order horder
    exact ⟨⟨q, hq, hqorder, hqline.trans hedit.id.symm, hannual.trans hqannual,
      fun htype => hperiod (hedit.type.symm.trans htype)⟩,
      fun htype => hlink (hedit.type.symm.trans htype)⟩

/-- **An edit of the basket keeps everything as priced.** -/
theorem ok_edits (hok : s.Ok) {new : List ItemId} (h : Edits new s.db db)
    (hdistinct : Shop.Distinct { s with db := db, nextItem := n }) :
    Shop.Ok { s with db := db, nextItem := n } := by
  have hregs : db.registrations = s.db.registrations := by rw [h.rest]
  refine ⟨hdistinct.ids, hdistinct.lt, hregs ▸ hok.calls, hregs ▸ hok.sameId, hok.orders,
    hok.period, hok.unique, ?_, ?_, ?_⟩
  · intro y hy id hid
    rcases h.items y hy with ⟨x, hx, hedit⟩ | ⟨-, hnone⟩
    · rcases hedit.link with hnone | ⟨hcheckout, -⟩
      · simp [hnone] at hid
      · exact hok.links x hx id (hcheckout ▸ hid)
    · simp [hnone] at hid
  · intro y hy
    rcases h.items y hy with ⟨x, hx, hedit⟩ | ⟨-, hnone⟩
    · intro order horder
      have hstamp := (hok.stamped x hx).edit hedit order horder
      exact ⟨hstamp.1, hregs.symm ▸ hstamp.2⟩
    · intro order horder
      simp [hnone] at horder
  · rw [h.rest]
    exact ⟨hok.rows.1, hok.rows.2, hok.rows.3, hok.rows.4, hok.rows.5⟩

theorem ok_edit (hok : s.Ok) (h : Edits [] s.db db) : Shop.Ok { s with db := db } :=
  ok_edits hok h (hok.distinct.edit h)

theorem ok_orRollback {res : Except Raised Db} (hok : s.Ok)
    (h : ∀ db, res = .ok db → Edits [] s.db db) : Shop.Ok { s with db := orRollback s.db res } := by
  cases res with
  | ok db => exact ok_edit hok (h db rfl)
  | error e => exact hok

theorem ok_addItem (hok : s.Ok) (cat : Catalogue) (user : UserId) (req : AddRequest) :
    (s.step (.addItem cat user req)).Ok := by
  have hclean : Edits [] s.db (s.db.cleanupStalePurchasedCartItems cat user) := edits_cleanup
  have hedits : Edits [s.nextItem] s.db (orRollback (s.db.cleanupStalePurchasedCartItems cat user)
      ((s.db.cleanupStalePurchasedCartItems cat user).addItem cat user s.nextItem req)) := by
    cases hres : (s.db.cleanupStalePurchasedCartItems cat user).addItem cat user s.nextItem req with
    | ok db => exact hclean.trans (edits_addItem hres)
    | error e => exact hclean.trans (.refl _ _)
  exact ok_edits hok hedits (hok.distinct.add hedits)

theorem ok_cancel (hok : s.Ok) (buyer : UserId) (order : OrderId) :
    (s.step (.cancelCheckoutOrder buyer order)).Ok := by
  have hregs : ∀ {P : RegistrationOrder → Prop}, (∀ o ∈ s.db.registrations, P o) →
      (∀ o, P o → P { o with status := .expired }) →
      ∀ o ∈ (s.db.cancelCheckoutOrder buyer order).registrations, P o :=
    fun h hP => forall_mem_edit h fun o ho _ => hP o (h o ho)
  have hdistinct : (s.step (.cancelCheckoutOrder buyer order)).Distinct :=
    Shop.distinct_step hok.distinct _
  refine ⟨hdistinct.ids, hdistinct.lt,
    hregs hok.calls fun _ h => h, ?_, hok.orders, hok.period, hok.unique,
    forall_mem_edit hok.links fun it _ _ id hid => absurd hid (by simp [CartItem.unstamped]), ?_,
    ⟨hok.rows.1, hok.rows.2, hok.rows.3, hok.rows.4, hregs hok.rows.5 fun _ h => h⟩⟩
  · refine hregs (fun o ho => hregs (fun o' ho' => hok.sameId o ho o' ho') fun _ h => h) ?_
    exact fun _ h => h
  · refine forall_mem_edit (fun it hit o horder => ?_)
      fun it _ _ o horder => absurd horder (by simp [CartItem.unstamped])
    obtain ⟨hquote, hlink⟩ := hok.stamped it hit o horder
    exact ⟨hquote, fun htype id hid => hregs (hlink htype id hid) fun _ h => h⟩

theorem pendingRegistration_ok {z : CartItem} (h : z.pendingRegistration call order = some o) :
    o.id = (call, z.id) ∧ o.razorpayOrderId = order ∧ o.line = z.id ∧
      o.periodYears = max 1 z.client.period := by
  unfold CartItem.pendingRegistration at h
  split at h
  · obtain ⟨domain, -, rfl⟩ := Option.map_eq_some_iff.mp h
    exact ⟨rfl, rfl, rfl, rfl⟩
  · cases h

theorem pendingPurchase_ok {z : CartItem} {cat : Catalogue} {p : Purchase}
    (h : z.pendingPurchase cat call order = some p) (hq : z.quote order ∈ quotes) :
    p.Priced quotes := by
  unfold CartItem.pendingPurchase at h
  split at h
  · cases h
    exact ⟨_, hq, rfl, rfl, rfl, rfl, rfl⟩
  · cases h

theorem CartItem.StampOk.lift {regs : List RegistrationOrder} {db' : Db} {y : CartItem}
    (h : y.StampOk quotes db) (hregs : db'.registrations = db.registrations ++ regs)
    (hnew : ∀ o ∈ regs, o.id.1 = call)
    (hlink : ∀ id, y.checkout.registrationOrderId = some id → id.1 < call) :
    y.StampOk (quotes ++ more) db' := by
  intro order horder
  obtain ⟨hquote, hrows⟩ := h order horder
  refine ⟨hquote.mono, fun htype id hid o ho hoid => ?_⟩
  rw [hregs] at ho
  rcases List.mem_append.mp ho with ho | ho
  · exact hrows htype id hid o ho hoid
  · have hlt := hlink id hid
    rw [← hoid, hnew o ho] at hlt
    exact absurd hlt (lt_irrefl _)

section CheckedOut

variable {cat : Catalogue} {r : CheckoutRequest} {items : List CartItem} {it : CartItem}
  (hok : s.Ok) (h : CheckedOut s cat r order s' items)

include h

theorem CheckedOut.quoted (hit : it ∈ validItems cat items) {φ : Quote → Prop}
    (hφ : φ (it.quote order)) : Quoted s'.quotes order it.id φ := by
  refine ⟨it.quote order, ?_, rfl, rfl, hφ⟩
  rw [h.quotes]
  exact List.mem_append_right _ (List.mem_map_of_mem hit)

theorem CheckedOut.pending : ∀ o ∈ (validItems cat items).filterMap fun z =>
    z.pendingRegistration s.nextCall order, o.id.1 = s.nextCall ∧ o.razorpayOrderId = order ∧
      o.Priced s'.quotes := by
  intro o ho
  obtain ⟨z, hz, hzo⟩ := List.mem_filterMap.mp ho
  obtain ⟨hid, horder, hline, hperiod⟩ := pendingRegistration_ok hzo
  refine ⟨hid ▸ rfl, horder, fun _ => ?_⟩
  rw [horder, hline]
  exact h.quoted hz hperiod

theorem CheckedOut.edited (hit : it ∈ validItems cat items) :
    ∃ x ∈ s.db.items, x.EditOf it ∧ it.checkout = x.checkout := by
  obtain ⟨x, hx, hedit⟩ := h.valid_mem hit
  exact ⟨x, (mem_cart.mp hx).1, hedit⟩

include hok

theorem CheckedOut.calls_ok : ∀ o ∈ s'.db.registrations, o.id.1 < s'.nextCall := by
  intro o ho
  rw [h.call]
  rw [h.tables.registrations] at ho
  rcases List.mem_append.mp ho with ho | ho
  · exact (hok.calls o ho).trans (Nat.lt_succ_self _)
  · exact (h.pending o ho).1 ▸ Nat.lt_succ_self _

theorem CheckedOut.sameId_ok : ∀ o ∈ s'.db.registrations, ∀ o' ∈ s'.db.registrations,
    o.id = o'.id → o.razorpayOrderId = o'.razorpayOrderId := by
  intro o ho o' ho' hid
  rw [h.tables.registrations] at ho ho'
  rcases List.mem_append.mp ho with ho | ho <;> rcases List.mem_append.mp ho' with ho' | ho'
  · exact hok.sameId o ho o' ho' hid
  · have hlt := hok.calls o ho
    rw [hid, (h.pending o' ho').1] at hlt
    exact absurd hlt (lt_irrefl _)
  · have hlt := hok.calls o' ho'
    rw [← hid, (h.pending o ho).1] at hlt
    exact absurd hlt (lt_irrefl _)
  · exact (h.pending o ho).2.1.trans (h.pending o' ho').2.1.symm

theorem CheckedOut.orders_ok : ∀ q ∈ s'.quotes, q.order < s'.gateway.nextId := by
  intro q hq
  have hnext : s'.gateway.nextId = s.gateway.nextId + 1 := by
    obtain ⟨amount, horders⟩ := h.gateway
    simp [Gateway.nextId, horders]
  rw [hnext]
  rw [h.quotes] at hq
  rcases List.mem_append.mp hq with hq | hq
  · exact (hok.orders q hq).trans (Nat.lt_succ_self _)
  · obtain ⟨z, -, rfl⟩ := List.mem_map.mp hq
    exact h.fresh ▸ Nat.lt_succ_self _

theorem CheckedOut.period_ok : ∀ q ∈ s'.quotes, 1 ≤ q.periodYears := by
  intro q hq
  rw [h.quotes] at hq
  rcases List.mem_append.mp hq with hq | hq
  · exact hok.period q hq
  · obtain ⟨z, -, rfl⟩ := List.mem_map.mp hq
    exact le_max_left 1 _

theorem CheckedOut.unique_ok : (s'.quotes.map fun q => (q.order, q.line)).Nodup := by
  rw [h.quotes, List.map_append, List.map_map]
  refine List.nodup_append.mpr ⟨hok.unique, ?_, ?_⟩
  · have hkeys : (((validItems cat items).map CartItem.id).map fun id => (order, id)).Nodup :=
      (h.valid_ids hok.ids).map fun a b hab => (Prod.mk.inj hab).2
    rw [List.map_map] at hkeys
    exact hkeys
  · rintro a ha b hb rfl
    obtain ⟨q, hq, rfl⟩ := List.mem_map.mp ha
    obtain ⟨z, -, hz⟩ := List.mem_map.mp hb
    have horder : order = q.order := (Prod.mk.inj hz).1
    have hlt := hok.orders q hq
    rw [← horder, h.fresh] at hlt
    exact absurd hlt (lt_irrefl _)

theorem CheckedOut.fresh_ok : ∀ y ∈ s'.db.items, y.id < s'.nextItem := by
  intro y hy
  rw [h.item]
  rcases h.tables.items y hy with ⟨z, hz, rfl⟩ | ⟨x, hx, hedit, -⟩
  · obtain ⟨x, hx, hedit, -⟩ := h.edited hz
    exact (hedit.id ▸ hok.fresh x hx : z.id < s.nextItem)
  · exact hedit.id ▸ hok.fresh x hx

omit h in
theorem link_lt {x y : CartItem} (hx : x ∈ s.db.items) (hcheckout : y.checkout = x.checkout) :
    ∀ id, y.checkout.registrationOrderId = some id → id.1 < s.nextCall :=
  fun id hid => hok.links x hx id (hcheckout ▸ hid)

theorem CheckedOut.links_ok : ∀ y ∈ s'.db.items, ∀ id,
    y.checkout.registrationOrderId = some id → id.1 < s'.nextCall := by
  intro y hy id hid
  rw [h.call]
  rcases h.tables.items y hy with ⟨z, hz, rfl⟩ | ⟨x, hx, -, hcheckout⟩
  · obtain ⟨x, hx, -, hcheckout⟩ := h.edited hz
    by_cases htype : z.productType = .domainRegistration
    · obtain rfl : (s.nextCall, z.id) = id := by simpa [CartItem.stamped, htype] using hid
      exact Nat.lt_succ_self _
    · have hid' : z.checkout.registrationOrderId = some id := by
        simpa [CartItem.stamped, htype] using hid
      exact (link_lt hok hx hcheckout id hid').trans (Nat.lt_succ_self _)
  · exact (link_lt hok hx hcheckout id hid).trans (Nat.lt_succ_self _)

theorem CheckedOut.stamped_ok : ∀ y ∈ s'.db.items, y.StampOk s'.quotes s'.db := by
  intro y hy
  rcases h.tables.items y hy with ⟨z, hz, rfl⟩ | ⟨x, hx, hedit, hcheckout⟩
  · intro o ho
    obtain rfl : order = o := by
      by_cases htype : z.productType = .domainRegistration
      · simpa [CartItem.stamped, htype] using ho
      · simpa [CartItem.stamped, htype] using ho
    refine ⟨h.quoted hz ⟨rfl, fun htype => ?_⟩, fun htype id hid o ho hoid => ?_⟩
    · have htype' : z.productType = .domainRegistration := htype
      simp [CartItem.stamped, htype', CartItem.quote]
    · have htype' : z.productType = .domainRegistration := htype
      obtain rfl : (s.nextCall, z.id) = id := by simpa [CartItem.stamped, htype'] using hid
      rw [h.tables.registrations] at ho
      rcases List.mem_append.mp ho with ho | ho
      · have hlt := hok.calls o ho
        rw [hoid] at hlt
        exact absurd hlt (lt_irrefl _)
      · exact (h.pending o ho).2.1
  · rw [h.quotes]
    exact ((hok.stamped x hx).edit hedit).lift h.tables.registrations
      (fun o ho => (h.pending o ho).1) (link_lt hok hx hcheckout)

theorem CheckedOut.rows_ok : PricedRows s'.quotes s'.db := by
  refine ⟨?_, ?_, ?_, ?_, ?_⟩
  · rw [h.tables.subscriptions, h.quotes]
    exact fun x hx => (hok.rows.1 x hx).mono
  · rw [h.tables.purchases]
    intro p hp
    rcases List.mem_append.mp hp with hp | hp
    · rw [h.quotes]
      exact (hok.rows.2 p hp).mono
    · obtain ⟨z, hz, hzp⟩ := List.mem_filterMap.mp hp
      refine pendingPurchase_ok hzp ?_
      rw [h.quotes]
      exact List.mem_append_right _ (List.mem_map_of_mem hz)
  · rw [h.tables.sales, h.quotes]
    exact fun x hx => (hok.rows.3 x hx).mono
  · rw [h.tables.requests, h.quotes]
    exact fun x hx => (hok.rows.4 x hx).mono
  · rw [h.tables.registrations]
    intro o ho
    rcases List.mem_append.mp ho with ho | ho
    · rw [h.quotes]
      exact fun hmarket => (hok.rows.5 o ho hmarket).mono
    · exact (h.pending o ho).2.2

/-- **A checkout prices its lines as they are.** -/
theorem ok_checkout : s'.Ok where
  ids := h.tables.ids ▸ hok.ids
  fresh := h.fresh_ok hok
  calls := h.calls_ok hok
  sameId := h.sameId_ok hok
  orders := h.orders_ok hok
  period := h.period_ok hok
  unique := h.unique_ok hok
  links := h.links_ok hok
  stamped := h.stamped_ok hok
  rows := h.rows_ok hok

end CheckedOut

/-- **A step keeps everything as priced.** -/
theorem ok_step (hok : s.Ok) (op : Op) (hpriced : op.AsPriced s) : (s.step op).Ok := by
  cases op with
  | addItem cat user req => exact ok_addItem hok cat user req
  | updateItem cat user id req => exact ok_orRollback hok fun db h => edits_updateItem h
  | updateDomainRegistrationPeriod cat user years id =>
    refine ok_orRollback hok fun db h => ?_
    cases hres : s.db.updateDomainRegistrationPeriod cat user years id with
    | ok db' =>
      rw [hres] at h
      cases h
      exact (edits_updatePeriod hres).trans edits_cleanup
    | error e =>
      rw [hres] at h
      cases h
  | removeItem user id => exact ok_orRollback hok fun db h => edits_removeItem h
  | clearCart user => exact ok_edit hok edits_clearCart
  | getCart cat user => exact ok_edit hok edits_cleanup
  | createCheckoutOrder cat r =>
    simp only [Shop.step]
    cases h : s.createCheckoutOrder cat r with
    | ok out =>
      obtain ⟨items, hout⟩ := checkedOut h
      exact ok_checkout hok hout
    | error e => exact hok
  | cancelCheckoutOrder buyer order => exact ok_cancel hok buyer order
  | capture order =>
    have hnext : (s.gateway.capture order).nextId = s.gateway.nextId := by
      simp [Gateway.nextId]
    exact { hok with orders := hnext.symm ▸ hok.orders }
  | fulfil e v => exact ok_fulfil hok hpriced

end Requests

/-- **What is delivered is what was priced**, in every history whose fulfilling calls find the
lines as they were priced: every row that a paid line left agrees with the quote of its order and
line, and an order and a line have one quote. -/
theorem delivered_as_priced (ops : List Op)
    (h : Run.Meets Shop.step (fun s op => op.AsPriced s) Shop.empty ops) :
    PricedRows (Run.exec Shop.step Shop.empty ops).quotes (Run.exec Shop.step Shop.empty ops).db ∧
      ((Run.exec Shop.step Shop.empty ops).quotes.map fun q => (q.order, q.line)).Nodup := by
  have hok : (Run.exec Shop.step Shop.empty ops).Ok :=
    Run.exec_inv (P := Shop.Ok) (fun s op hs hop => ok_step hs op hop) ok_empty h
  exact ⟨hok.rows, hok.unique⟩

/-- A service is ordered; its plan is edited before it is paid. -/
def editedOrder (plan : Option Plan) : List Op :=
  [.addItem twoServices 1 ⟨.technology, 10, none, [], false, some { serviceSlug := ['v', 'p', 'n'] }⟩,
    .createCheckoutOrder twoServices ⟨1, false, none, true, true⟩,
    .updateItem twoServices 1 0 ⟨some plan, none, none, none⟩,
    .capture 0,
    .fulfil .verify ⟨1, 0, 0, true, twoServices, fun _ => .answered false .active (some 3),
      fun _ => .raises⟩]

/-- An edit that leaves the plan as it is changes nothing. -/
theorem unchanged_plan_delivered :
    PricedRows (Run.exec Shop.step Shop.empty (editedOrder none)).quotes
        (Run.exec Shop.step Shop.empty (editedOrder none)).db ∧
      ((Run.exec Shop.step Shop.empty (editedOrder none)).quotes.map
        fun q => (q.order, q.line)).Nodup := by
  refine delivered_as_priced (editedOrder none) ⟨trivial, trivial, trivial, trivial,
    fun _ => ⟨fun it hit q hq _ _ => ?_, fun o ho => absurd ho List.not_mem_nil⟩, trivial⟩
  obtain rfl := List.mem_singleton.mp hit
  obtain rfl := List.mem_singleton.mp hq
  exact .inr ⟨rfl, rfl, fun _ => rfl⟩

/-- A plan chosen after the order was priced is delivered. -/
theorem later_plan_delivered : ¬ ∀ ops : List Op,
    PricedRows (Run.exec Shop.step Shop.empty ops).quotes
      (Run.exec Shop.step Shop.empty ops).db := by
  intro h
  have hall := (h (editedOrder (some (.code 1)))).subscriptions
  obtain ⟨x, hx, hplan⟩ : ∃ x ∈ (Run.exec Shop.step Shop.empty
      (editedOrder (some (.code 1)))).db.subscriptions, x.planCode = .code 1 := by decide
  obtain ⟨q, hq, -, -, hpriced, -⟩ := hall x hx
  obtain rfl := List.mem_singleton.mp hq
  exact absurd (hplan.symm.trans hpriced) (by decide)

end Deltapreneur.Cart

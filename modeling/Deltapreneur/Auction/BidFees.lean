import Deltapreneur.Auction.Expiry
import Deltapreneur.Lib.Ticket

/-!
# A bid fee pays for one bid

All auctions of the three services at once: any number of `place_bid` requests on any of them,
interleaved at their database steps (`PlaceBid.lean`), over one table of fees.

The row of a bid fee goes from `CREATED` to `COMPLETED` in the verification and to `CONSUMED` with
the bid, and a verification refuses a consumed row only. What keeps a second request away in
between is the row lock of the auction; where the verification confirms a redemption, the commit
gives that lock away and leaves a completed row behind for everybody.

* `Phase.paying`: the request has its fee verified and its bid not committed yet.
* `World.accepted`: the requests whose bids are committed, newest first.
* `Unshared`: the condition on a verification, that no other request is paying with the order.

Results:

* `one_bid_per_fee`: in every run whose verifications are unshared, no order pays for two bids, and
  no user has more bids than verified bid fees.
* `unshared_of_unredeemed`: without a pending redemption every verification is unshared.
* `one_fee_two_bids`: with one, a fee pays for two bids of its bidder.
-/

namespace Deltapreneur.Auction.PlaceBid

open EdgePoints Marketplace Razorpay

/-! ## All auctions -/

def Row : FeeAuctionType → Type
  | .domain => DomainRow
  | .software => SoftwareAuction
  | .community => CommunityAuction

def service : (t : FeeAuctionType) → Service (Row t)
  | .domain => domainService
  | .software => Sweep.softwareService
  | .community => Sweep.communityService

/-- The fees, every auction with its requests, and the requests whose bids are committed. -/
structure World where
  fees : FeeTables
  auctions : (t : FeeAuctionType) → AuctionId → State (Row t)
  accepted : List Request

/-- One auction over the fees of all. -/
def World.auction (w : World) (t : FeeAuctionType) (a : AuctionId) : State (Row t) :=
  { w.auctions t a with auction := a, fees := w.fees }

/-- A step on one auction. -/
structure WorldLabel where
  type : FeeAuctionType
  auction : AuctionId
  label : Label

/-- The request whose bid a step commits. -/
def accepts {ρ : Type} (s : State ρ) : Label → Option Request
  | .commit k =>
    match s.requests k with
    | .flushed r _ _ _ => some r
    | _ => none
  | _ => none

def worldStep (w : World) (l : WorldLabel) : World :=
  let s := step (service l.type) (w.auction l.type l.auction) l.label
  { fees := s.fees
    auctions := Function.update w.auctions l.type
      (Function.update (w.auctions l.type) l.auction s)
    accepted := (accepts (w.auction l.type l.auction) l.label).toList ++ w.accepted }

/-! ## Paying requests -/

section Auction

variable {ρ : Type} {v : Service ρ} {s s' : State ρ} {k : Nat} {l : Label} {auction : AuctionId}

/-- The request whose fee is verified and whose bid is not committed. -/
def Phase.paying : Phase ρ → Option Request
  | .idle | .locked _ _ => none
  | .verified r _ _ | .cleared r _ _ _ | .flushed r _ _ _ => some r

/-- The order with which request `k` is paying. -/
def State.paying (s : State ρ) (k : Nat) : Option Request := (s.requests k).paying

/-- The condition on a step: a verification presents an order with which no other request of the
auction is paying. -/
def Unshared (s : State ρ) : Label → Prop
  | .verify k _ => ∀ r loaded, s.requests k = .locked r loaded →
      ∀ j, j ≠ k → ∀ q, s.paying j = some q → q.fee.order ≠ r.fee.order
  | _ => True

/-- Fees may be added under new orders, orders paid and wallets written. -/
structure FeesGrow (t t' : FeeTables) : Prop where
  fees : t'.fees = t.fees ∨ ∃ row, t'.fees = t.fees ++ [row] ∧
    row.razorpayOrderId = t.gateway.nextId ∧ t'.gateway.nextId = t.gateway.nextId + 1
  nextId : t.gateway.nextId ≤ t'.gateway.nextId
  captured : t.gateway.captured ⊆ t'.gateway.captured

/-- A row of the fees is written, or only wallets. -/
def FeesEdit (t t' : FeeTables) (f : FeeTables → FeeTables) : Prop :=
  (t'.fees = t.fees ∨ t'.fees = (f t).fees) ∧ t'.gateway = t.gateway

/-- What a step does to fees and paying requests. -/
inductive FeeStep (v : Service ρ) (s : State ρ) (l : Label) (s' : State ρ) : Prop
  /-- No request begins to pay, none commits. -/
  | quiet (hpaying : ∀ k, s'.paying k = s.paying k ∨ s'.paying k = none)
      (hfees : FeesGrow s.fees s'.fees) (hacc : accepts s l = none)
  /-- Request `k` has its fee verified. -/
  | verify (k : Nat) (r : Request) (loaded : ρ) (g : Guards) (hl : l = .verify k g)
      (hk : s.requests k = .locked r loaded)
      (hpaying : s'.paying = Function.update s.paying k (some r))
      (hsig : r.fee.verifies s.fees.gateway = true)
      (hcheck : checkBidFee s.fees v.auctionType s.auction r.bidder r.fee.order r.amount = .ok ())
      (hfees : FeesEdit s.fees s'.fees fun t => t.editFee r.fee.order (.complete r.fee.payment))
  /-- The bid of request `k` is committed. -/
  | commit (k : Nat) (r : Request) (hk : s.paying k = some r)
      (hpaying : s'.paying = Function.update s.paying k none)
      (hacc : accepts s l = some r)
      (hfees : s'.fees =
        (s.fees.editFee r.fee.order (.complete r.fee.payment)).consumeBidFee r.fee.order)

theorem FeesGrow.refl (t : FeeTables) : FeesGrow t t :=
  ⟨.inl rfl, Nat.le_refl _, fun _ h => h⟩

theorem FeesGrow.of_eq {t t' : FeeTables} (hf : t'.fees = t.fees) (hg : t'.gateway = t.gateway) :
    FeesGrow t t' :=
  ⟨.inl hf, by rw [hg], by rw [hg]; exact fun _ h => h⟩

theorem feesGrow_issueFee (t : FeeTables) (r : FeeOrderRequest) (kind : FeeKind)
    (auction : Option AuctionId) (bidAmount : Option Paise) (unreachable : String) :
    FeesGrow t (t.issueFee r kind auction bidAmount unreachable).1 := by
  unfold FeeTables.issueFee
  dsimp only
  split_ifs
  · exact .refl t
  · split
    · exact .refl t
    · next order gateway hissued =>
      unfold Gateway.createOrder at hissued
      split_ifs at hissued
      obtain ⟨rfl, rfl⟩ := Prod.mk.inj (Option.some.inj hissued)
      exact ⟨.inr ⟨_, rfl, rfl, List.length_cons⟩, Nat.le_succ _, fun _ h => h⟩

theorem feesGrow_createBidFeeOrder (t : FeeTables) (r : FeeOrderRequest) (auction : AuctionId)
    (amount : Paise) : FeesGrow t (createBidFeeOrder t r auction amount).1 := by
  unfold createBidFeeOrder
  split_ifs
  · exact .refl t
  · exact .refl t
  · exact feesGrow_issueFee t r .bid (some auction) (some amount) _

theorem feesGrow_capture (t : FeeTables) (order : OrderId) :
    FeesGrow t { t with gateway := t.gateway.capture order } := by
  refine ⟨.inl rfl, ?_, ?_⟩
  · simp [Gateway.nextId]
  · unfold Gateway.capture
    split_ifs
    · exact List.subset_cons_self _ _
    · exact fun _ h => h

theorem paying_update {p : Phase ρ} (hreq : s'.requests = Function.update s.requests k p) :
    s'.paying = Function.update s.paying k p.paying := by
  funext j
  by_cases hj : j = k
  · subst hj
    simp [State.paying, hreq]
  · simp [State.paying, hreq, hj]

/-- The synchronous functions are those of community auctions. -/
def Service.Typed (v : Service ρ) : Prop := v.sync = true → v.auctionType = .community

/-- What a verification that goes through has found and leaves. -/
theorem verifyFee_ok {t : FeeTables} {r : Request} (hv : v.Typed)
    (h : (v.verifyFee t auction r).result = .ok ()) :
    r.fee.verifies t.gateway = true ∧
      checkBidFee t v.auctionType auction r.bidder r.fee.order r.amount = .ok () ∧
      FeesEdit t (v.verifyFee t auction r).committed
        fun t => t.editFee r.fee.order (.complete r.fee.payment) := by
  unfold Service.verifyFee at h ⊢
  split_ifs at h ⊢ with hsync
  · rw [hv hsync]
    unfold verifyBidFeeSync at h ⊢
    by_cases hsig : r.fee.verifies t.gateway = false
    · rw [if_pos hsig] at h
      exact absurd h raise_ne_ok
    rw [if_neg hsig] at h ⊢
    cases hcheck : checkBidFee t .community auction r.bidder r.fee.order r.amount with
    | error e =>
      rw [hcheck] at h
      cases h
    | ok u => exact ⟨by simpa using hsig, rfl, .inl rfl, rfl⟩
  · unfold verifyBidFeePayment at h ⊢
    by_cases hsig : r.fee.verifies t.gateway = false
    · rw [if_pos hsig] at h
      exact absurd h raise_ne_ok
    rw [if_neg hsig] at h ⊢
    cases hcheck : checkBidFee t v.auctionType auction r.bidder r.fee.order r.amount with
    | error e =>
      rw [hcheck] at h
      cases h
    | ok u =>
      refine ⟨by simpa using hsig, rfl, ?_⟩
      dsimp only
      split_ifs
      · exact ⟨.inr rfl, rfl⟩
      · exact ⟨.inl rfl, rfl⟩

/-- A verification that is refused writes wallets at most. -/
theorem verifyFee_error {t : FeeTables} {r : Request} {e : AppException}
    (h : (v.verifyFee t auction r).result = .error e) :
    FeesGrow t (v.verifyFee t auction r).committed := by
  unfold Service.verifyFee at h ⊢
  split_ifs at h ⊢
  · unfold verifyBidFeeSync at h ⊢
    by_cases hsig : r.fee.verifies t.gateway = false
    · rw [if_pos hsig]
      exact .refl t
    rw [if_neg hsig] at h ⊢
    cases hcheck : checkBidFee t .community auction r.bidder r.fee.order r.amount with
    | error e => exact .refl t
    | ok u =>
      rw [hcheck] at h
      cases h
  · unfold verifyBidFeePayment at h ⊢
    by_cases hsig : r.fee.verifies t.gateway = false
    · rw [if_pos hsig]
      exact .of_eq rfl rfl
    rw [if_neg hsig] at h ⊢
    cases hcheck : checkBidFee t v.auctionType auction r.bidder r.fee.order r.amount with
    | error e => exact .refl t
    | ok u =>
      rw [hcheck] at h
      cases h

theorem FeeStep.refl (hacc : accepts s l = none) : FeeStep v s l s :=
  .quiet (fun _ => .inl rfl) (.refl _) hacc

theorem FeeStep.moves (p : Phase ρ) (hreq : s'.requests = Function.update s.requests k p)
    (hp : p.paying = s.paying k ∨ p.paying = none) (ht : FeesGrow s.fees s'.fees)
    (hacc : accepts s l = none) : FeeStep v s l s' := by
  refine .quiet (fun j => ?_) ht hacc
  rw [paying_update hreq]
  by_cases hj : j = k
  · subst hj
    rwa [Function.update_self]
  · exact .inl (Function.update_of_ne hj _ _)

theorem feeStep_verify {r : Request} {loaded : ρ} {g : Guards} (hv : v.Typed)
    (hk : s.requests k = .locked r loaded) :
    FeeStep v s (.verify k g) (verify v s k r loaded g) := by
  unfold verify
  split
  · exact .moves .idle rfl (.inr rfl) (.refl _) rfl
  dsimp only
  split
  · next e he => exact .moves .idle rfl (.inr rfl) (verifyFee_error he) rfl
  · next hok =>
    obtain ⟨hsig, hcheck, hfees⟩ := verifyFee_ok hv hok
    split_ifs
    · exact .verify k r loaded g rfl hk (paying_update (p := .verified r loaded g.now) rfl) hsig
        hcheck hfees
    · exact .verify k r loaded g rfl hk (paying_update (p := .verified r loaded g.now) rfl) hsig
        hcheck ⟨.inl rfl, rfl⟩

/-- **Every step is a fee step.** -/
theorem feeStep_step (hv : v.Typed) (s : State ρ) (l : Label) : FeeStep v s l (step v s l) := by
  have hpay {k : Nat} {p : Phase ρ} (hk : s.requests k = p) : s.paying k = p.paying :=
    congrArg Phase.paying hk
  cases l with
  | lock k r =>
    simp only [step]
    split
    · exact .moves _ rfl (.inr rfl) (.refl _) rfl
    · exact .refl rfl
  | verify k g =>
    simp only [step]
    split
    · next r loaded hk => exact feeStep_verify hv hk
    · exact .refl rfl
  | clear k now =>
    simp only [step]
    split
    · next r loaded checked hk =>
      split
      · exact .moves .idle rfl (.inr rfl) (.refl _) rfl
      · have hr := hpay hk
        exact .moves _ rfl (.inl hr.symm) (.refl _) rfl
    · exact .refl rfl
  | flush k =>
    simp only [step]
    split
    · next r loaded new flags hk =>
      split
      · have hr := hpay hk
        exact .moves _ rfl (.inl hr.symm) (.refl _) rfl
      · exact .refl rfl
    · exact .refl rfl
  | commit k =>
    simp only [step]
    split
    · next r loaded new flags hk =>
      have hr := hpay hk
      exact .commit k r hr (paying_update (p := .idle) rfl) (by simp [accepts, hk]) rfl
    · next hk =>
      refine .refl ?_
      cases hp : s.requests k with
      | flushed r loaded new flags => exact absurd hp (hk r loaded new flags)
      | _ => simp [accepts, hp]
  | abort k => exact .moves .idle rfl (.inr rfl) (.refl _) rfl
  | bidFeeOrder r amount =>
    exact .quiet (fun _ => .inl rfl) (feesGrow_createBidFeeOrder _ _ _ _) rfl
  | capture order => exact .quiet (fun _ => .inl rfl) (feesGrow_capture _ _) rfl
  | award user points => exact .quiet (fun _ => .inl rfl) (.of_eq rfl rfl) rfl

end Auction

/-! ## Fee rows -/

/-- The row is a bid fee of the user whose payment is verified: Razorpay has captured it. -/
def Verified (t : FeeTables) (user : UserId) (row : FeePayment) : Bool :=
  row.paymentKind = .bid && row.userId = user &&
    row.razorpayPaymentId.any fun payment =>
      t.gateway.captured.contains (row.razorpayOrderId, payment)

/-- The bid fee that a request presents is its bidder's, for this auction, and is paid. -/
def Presents (t : FeeTables) (type : FeeAuctionType) (auction : AuctionId) (r : Request) : Prop :=
  (∃ row ∈ t.fees, row.razorpayOrderId = r.fee.order ∧ row.paymentKind = .bid ∧
    row.userId = r.bidder ∧ row.auctionType = type ∧ row.auctionId = some auction) ∧
  (r.fee.order, r.fee.payment) ∈ t.gateway.captured

/-- The bid fee of an accepted bid is used up. -/
def UsedUp (t : FeeTables) (r : Request) : Prop :=
  ∃ row ∈ t.fees, row.razorpayOrderId = r.fee.order ∧ row.status = .consumed ∧
    Verified t r.bidder row = true

variable {t t' : FeeTables} {type : FeeAuctionType} {a : AuctionId} {r : Request} {order : OrderId}
  {f : FeePayment → FeePayment} {row : FeePayment}

/-- An edit that keeps what a bid fee is for. -/
structure KeepsFee (f : FeePayment → FeePayment) : Prop where
  order : ∀ row, (f row).razorpayOrderId = row.razorpayOrderId
  kind : ∀ row, (f row).paymentKind = row.paymentKind
  user : ∀ row, (f row).userId = row.userId
  type : ∀ row, (f row).auctionType = row.auctionType
  auction : ∀ row, (f row).auctionId = row.auctionId

theorem keepsFee_complete (payment : PaymentId) : KeepsFee (.complete payment) :=
  ⟨fun _ => rfl, fun _ => rfl, fun _ => rfl, fun _ => rfl, fun _ => rfl⟩

theorem keepsFee_consume : KeepsFee .consume :=
  ⟨fun _ => rfl, fun _ => rfl, fun _ => rfl, fun _ => rfl, fun _ => rfl⟩

theorem mem_editFee (order : OrderId) (f : FeePayment → FeePayment) (h : row ∈ t.fees) :
    (if row.razorpayOrderId = order then f row else row) ∈ (t.editFee order f).fees :=
  List.mem_map_of_mem h

theorem Presents.edit (h : Presents t type a r) (hf : KeepsFee f)
    (hfees : t'.fees = (t.editFee order f).fees) (hg : t'.gateway = t.gateway) :
    Presents t' type a r := by
  obtain ⟨⟨row, hmem, horder, hkind, huser, htype, hauct⟩, hcap⟩ := h
  refine ⟨⟨_, hfees ▸ mem_editFee order f hmem, ?_⟩, hg ▸ hcap⟩
  split_ifs
  · rw [hf.order, hf.kind, hf.user, hf.type, hf.auction]
    exact ⟨horder, hkind, huser, htype, hauct⟩
  · exact ⟨horder, hkind, huser, htype, hauct⟩

theorem verified_iff {user : UserId} : Verified t user row = true ↔
    row.paymentKind = .bid ∧ row.userId = user ∧ ∃ payment, row.razorpayPaymentId = some payment ∧
      (row.razorpayOrderId, payment) ∈ t.gateway.captured := by
  simp [Verified, Option.any_eq_true, and_assoc]

theorem Verified.mono {user : UserId} (hcap : t.gateway.captured ⊆ t'.gateway.captured)
    (h : Verified t user row = true) : Verified t' user row = true := by
  obtain ⟨hkind, huser, payment, hpay, hmem⟩ := verified_iff.mp h
  exact verified_iff.mpr ⟨hkind, huser, payment, hpay, hcap hmem⟩

theorem UsedUp.edit (h : UsedUp t r) (hne : r.fee.order ≠ order)
    (hfees : t'.fees = (t.editFee order f).fees) (hg : t'.gateway = t.gateway) : UsedUp t' r := by
  obtain ⟨row, hmem, horder, hstatus, hver⟩ := h
  have hrow : ¬ row.razorpayOrderId = order := fun heq => hne (horder.symm.trans heq)
  refine ⟨row, ?_, horder, hstatus, Verified.mono (by rw [hg]; exact fun _ h => h) hver⟩
  have hkept := mem_editFee order f hmem
  rw [if_neg hrow] at hkept
  exact hfees ▸ hkept

theorem Presents.grow (h : Presents t type a r) (hg : FeesGrow t t') : Presents t' type a r := by
  obtain ⟨⟨row, hmem, hrow⟩, hcap⟩ := h
  refine ⟨⟨row, ?_, hrow⟩, hg.captured hcap⟩
  rcases hg.fees with heq | ⟨new, heq, -⟩
  · exact heq ▸ hmem
  · exact heq ▸ List.mem_append_left _ hmem

theorem UsedUp.grow (h : UsedUp t r) (hg : FeesGrow t t') : UsedUp t' r := by
  obtain ⟨row, hmem, horder, hstatus, hver⟩ := h
  refine ⟨row, ?_, horder, hstatus, Verified.mono hg.captured hver⟩
  rcases hg.fees with heq | ⟨new, heq, -⟩
  · exact heq ▸ hmem
  · exact heq ▸ List.mem_append_left _ hmem

theorem presents_of_check (hsig : r.fee.verifies t.gateway = true)
    (h : checkBidFee t type a r.bidder r.fee.order r.amount = .ok ()) :
    Presents t type a r ∧ ∃ row ∈ t.fees, row.razorpayOrderId = r.fee.order ∧
      row.status ≠ .consumed := by
  unfold checkBidFee at h
  split at h
  · exact absurd h raise_ne_ok
  · next row hrow =>
    simp only [ite_raise_eq_ok, not_or, not_not] at h
    obtain ⟨⟨huser, hkind, htype, hauct⟩, hopen, -, -⟩ := h
    obtain ⟨hmem, horder⟩ := Table.lookup_eq_some hrow
    have hcap : (r.fee.order, r.fee.payment) ∈ t.gateway.captured := by
      simp only [Triple.verifies, Gateway.verifyPaymentSignature, Bool.and_eq_true,
        List.contains_iff_mem] at hsig
      exact hsig.2
    exact ⟨⟨⟨row, hmem, horder, hkind, huser, htype, hauct⟩, hcap⟩, row, hmem, horder, hopen⟩

/-! ## The invariant -/

/-- The orders with which the requests are paying. -/
def World.holders (w : World) (x : FeeAuctionType × AuctionId × Nat) : Option OrderId :=
  ((w.auctions x.1 x.2.1).paying x.2.2).map fun r => r.fee.order

/-- The orders of the accepted bids. -/
def World.spent (w : World) : List OrderId := w.accepted.map fun r => r.fee.order

/-- Orders are unique, every order pays once, and whoever pays or has paid presents a verified fee
of his own. -/
structure FeesSound (w : World) : Prop where
  nodup : (w.fees.fees.map FeePayment.razorpayOrderId).Nodup
  bound : ∀ o ∈ w.fees.fees.map FeePayment.razorpayOrderId, o < w.fees.gateway.nextId
  sound : Ticket.Sound w.holders w.spent
  paying : ∀ t a k r, (w.auctions t a).paying k = some r → Presents w.fees t a r
  accepted : ∀ r ∈ w.accepted, UsedUp w.fees r

variable {w : World}

theorem FeesSound.unique (h : FeesSound w) {row' : FeePayment} (hrow : row ∈ w.fees.fees)
    (hrow' : row' ∈ w.fees.fees) (heq : row.razorpayOrderId = row'.razorpayOrderId) :
    row = row' := by
  have hget := Table.lookup_of_mem h.nodup hrow
  rw [heq, Table.lookup_of_mem h.nodup hrow'] at hget
  exact (Option.some.inj hget).symm

theorem FeesSound.one_auction (h : FeesSound w) {t t' : FeeAuctionType} {a' : AuctionId}
    {q : Request} (hr : Presents w.fees t a r) (hq : Presents w.fees t' a' q)
    (heq : q.fee.order = r.fee.order) : t' = t ∧ a' = a := by
  obtain ⟨⟨row, hmem, horder, -, -, htype, hauct⟩, -⟩ := hr
  obtain ⟨⟨row', hmem', horder', -, -, htype', hauct'⟩, -⟩ := hq
  obtain rfl := h.unique hmem hmem' (horder.trans (heq.symm.trans horder'.symm))
  exact ⟨htype'.symm.trans htype, Option.some.inj (hauct'.symm.trans hauct)⟩

theorem FeesSound.unspent (h : FeesSound w) (hmem : row ∈ w.fees.fees)
    (horder : row.razorpayOrderId = order) (hopen : row.status ≠ .consumed) : order ∉ w.spent := by
  intro hspent
  obtain ⟨q, hq, rfl⟩ := List.mem_map.mp hspent
  obtain ⟨row', hmem', horder', hused, -⟩ := h.accepted q hq
  obtain rfl := h.unique hmem hmem' (horder.trans horder'.symm)
  exact hopen hused

/-! ## Steps -/

variable {l : WorldLabel}

/-- The auction after a step on it. -/
def World.next (w : World) (l : WorldLabel) : State (Row l.type) :=
  step (service l.type) (w.auction l.type l.auction) l.label

theorem paying_here (k : Nat) :
    ((worldStep w l).auctions l.type l.auction).paying k = (w.next l).paying k := by
  simp [worldStep, World.next]

theorem paying_elsewhere {t : FeeAuctionType} (hne : ¬ (t = l.type ∧ a = l.auction)) :
    (worldStep w l).auctions t a = w.auctions t a := by
  simp only [worldStep]
  by_cases ht : t = l.type
  · subst ht
    have ha : a ≠ l.auction := fun ha => hne ⟨rfl, ha⟩
    rw [Function.update_self, Function.update_of_ne ha]
  · rw [Function.update_of_ne ht]

/-- One request of the auction changes what it pays with. -/
theorem holders_update {k : Nat} {p : Option Request}
    (h : (w.next l).paying = Function.update (w.auction l.type l.auction).paying k p) :
    (worldStep w l).holders = Function.update w.holders (l.type, l.auction, k)
      (p.map fun r => r.fee.order) := by
  funext ⟨t, a, j⟩
  by_cases hta : t = l.type ∧ a = l.auction
  · obtain ⟨rfl, rfl⟩ := hta
    simp only [World.holders, paying_here, h]
    by_cases hj : j = k
    · subst hj
      simp
    · rw [Function.update_of_ne hj, Function.update_of_ne (by simp [hj])]
      rfl
  · have hne : (t, a, j) ≠ (l.type, l.auction, k) := by
      intro heq
      simp only [Prod.mk.injEq] at heq
      exact hta ⟨heq.1, heq.2.1⟩
    rw [Function.update_of_ne hne]
    simp only [World.holders, paying_elsewhere hta]

theorem service_auctionType (t : FeeAuctionType) : (service t).auctionType = t := by
  cases t <;> rfl

theorem service_typed (t : FeeAuctionType) : (service t).Typed := by
  intro h
  cases t with
  | community => rfl
  | domain => cases h
  | software => cases h

/-- The condition on a step of the world. -/
def WorldLabel.Unshared (w : World) (l : WorldLabel) : Prop :=
  PlaceBid.Unshared (w.auctions l.type l.auction) l.label

/-- The orders of the fees are unique and known to the gateway. -/
def OrdersOk (t : FeeTables) : Prop :=
  (t.fees.map FeePayment.razorpayOrderId).Nodup ∧
    ∀ o ∈ t.fees.map FeePayment.razorpayOrderId, o < t.gateway.nextId

theorem OrdersOk.grow (h : OrdersOk t) (hg : FeesGrow t t') : OrdersOk t' := by
  obtain ⟨hnd, hlt⟩ := h
  rcases hg.fees with heq | ⟨row, heq, horder, hnext⟩
  · unfold OrdersOk
    rw [heq]
    exact ⟨hnd, fun o ho => (hlt o ho).trans_le hg.nextId⟩
  · unfold OrdersOk
    rw [heq, List.map_append, List.map_singleton, hnext]
    refine ⟨List.nodup_append.mpr ⟨hnd, List.nodup_singleton _, fun o ho o' ho' => ?_⟩, ?_⟩
    · obtain rfl := List.mem_singleton.mp ho'
      rw [horder]
      exact (hlt o ho).ne
    · intro o ho
      rcases List.mem_append.mp ho with ho | ho
      · exact (hlt o ho).trans (Nat.lt_succ_self _)
      · obtain rfl := List.mem_singleton.mp ho
        rw [horder]
        exact Nat.lt_succ_self _

theorem OrdersOk.edit (h : OrdersOk t)
    (hf : ∀ row, (f row).razorpayOrderId = row.razorpayOrderId)
    (hfees : t'.fees = (t.editFee order f).fees) (hg : t'.gateway = t.gateway) : OrdersOk t' := by
  have horders : t'.fees.map FeePayment.razorpayOrderId =
      t.fees.map FeePayment.razorpayOrderId := by
    rw [hfees]
    exact Table.map_key_update hf t.fees
  unfold OrdersOk
  rw [horders, hg]
  exact h

theorem FeesSound.orders (h : FeesSound w) : OrdersOk w.fees := ⟨h.nodup, h.bound⟩

theorem feesSound_quiet (h : FeesSound w)
    (hpaying : ∀ k, (w.next l).paying k = (w.auction l.type l.auction).paying k ∨
      (w.next l).paying k = none)
    (hfees : FeesGrow w.fees (worldStep w l).fees)
    (hacc : accepts (w.auction l.type l.auction) l.label = none) :
    FeesSound (worldStep w l) := by
  have hpay : ∀ t a k, ((worldStep w l).auctions t a).paying k = (w.auctions t a).paying k ∨
      ((worldStep w l).auctions t a).paying k = none := by
    intro t a k
    by_cases hta : t = l.type ∧ a = l.auction
    · obtain ⟨rfl, rfl⟩ := hta
      rw [paying_here]
      exact hpaying k
    · exact .inl (by rw [paying_elsewhere hta])
  have haccepted : (worldStep w l).accepted = w.accepted := by simp [worldStep, hacc]
  obtain ⟨hnd, hlt⟩ := h.orders.grow hfees
  refine ⟨hnd, hlt, ?_, fun t a k r hr => ?_, fun r hr => ?_⟩
  · have hsound : Ticket.Sound (worldStep w l).holders w.spent := h.sound.shrink fun x => by
      rcases hpay x.1 x.2.1 x.2.2 with heq | hnone
      · exact .inl (by simp only [World.holders, heq])
      · exact .inr (by simp only [World.holders, hnone, Option.map_none])
    rwa [World.spent, haccepted]
  · rcases hpay t a k with heq | hnone
    · exact (h.paying t a k r (heq ▸ hr)).grow hfees
    · cases hnone.symm.trans hr
  · exact (h.accepted r (haccepted ▸ hr)).grow hfees

theorem feesSound_verify {k : Nat} (h : FeesSound w)
    (hpaying : (w.next l).paying = Function.update (w.auction l.type l.auction).paying k (some r))
    (hacc : accepts (w.auction l.type l.auction) l.label = none)
    (hsig : r.fee.verifies w.fees.gateway = true)
    (hcheck : checkBidFee w.fees l.type l.auction r.bidder r.fee.order r.amount = .ok ())
    (hfees : FeesEdit w.fees (worldStep w l).fees fun t =>
      t.editFee r.fee.order (.complete r.fee.payment))
    (hfree : ∀ j, j ≠ k → ∀ q, (w.auctions l.type l.auction).paying j = some q →
      q.fee.order ≠ r.fee.order) : FeesSound (worldStep w l) := by
  obtain ⟨hpresents, row, hmem, horder, hopen⟩ := presents_of_check hsig hcheck
  have hunspent := h.unspent hmem horder hopen
  have haccepted : (worldStep w l).accepted = w.accepted := by simp [worldStep, hacc]
  -- the fees are the old ones, or one row of them is completed
  have horders : OrdersOk (worldStep w l).fees := by
    rcases hfees with ⟨hsame | hedit, hg⟩
    · exact h.orders.grow (.of_eq hsame hg)
    · exact h.orders.edit (keepsFee_complete _).order hedit hg
  have hstill : ∀ t a q, Presents w.fees t a q → Presents (worldStep w l).fees t a q := by
    intro t a q hq
    rcases hfees with ⟨hsame | hedit, hg⟩
    · exact hq.grow (.of_eq hsame hg)
    · exact hq.edit (keepsFee_complete _) hedit hg
  refine ⟨horders.1, horders.2, ?_, fun t a j q hq => ?_, fun q hq => ?_⟩
  · have hsound := h.sound.take (i := (l.type, l.auction, k)) hunspent fun ⟨t, a, j⟩ hne hj => by
      obtain ⟨q, hq, hqr⟩ := Option.map_eq_some_iff.mp hj
      obtain ⟨rfl, rfl⟩ := h.one_auction hpresents (h.paying t a j q hq) hqr
      exact hfree j (fun heq => hne (by rw [heq])) q hq hqr
    rw [holders_update hpaying, World.spent, haccepted]
    exact hsound
  · by_cases hta : t = l.type ∧ a = l.auction
    · obtain ⟨rfl, rfl⟩ := hta
      rw [paying_here, hpaying] at hq
      by_cases hj : j = k
      · subst hj
        rw [Function.update_self] at hq
        exact Option.some.inj hq ▸ hstill _ _ _ hpresents
      · rw [Function.update_of_ne hj] at hq
        exact hstill _ _ _ (h.paying _ _ j q hq)
    · rw [paying_elsewhere hta] at hq
      exact hstill _ _ _ (h.paying t a j q hq)
  · rw [haccepted] at hq
    have hused := h.accepted q hq
    rcases hfees with ⟨hsame | hedit, hg⟩
    · exact hused.grow (.of_eq hsame hg)
    · have hne : q.fee.order ≠ r.fee.order := fun heq =>
        hunspent (heq ▸ List.mem_map_of_mem hq)
      exact hused.edit hne hedit hg

theorem feesSound_commit {k : Nat} (h : FeesSound w)
    (hk : (w.auctions l.type l.auction).paying k = some r)
    (hpaying : (w.next l).paying = Function.update (w.auction l.type l.auction).paying k none)
    (hacc : accepts (w.auction l.type l.auction) l.label = some r) (hfees : (worldStep w l).fees =
      (w.fees.editFee r.fee.order (.complete r.fee.payment)).consumeBidFee r.fee.order) :
    FeesSound (worldStep w l) := by
  have hpresents := h.paying l.type l.auction k r hk
  have hholds : w.holders (l.type, l.auction, k) = some r.fee.order := by
    simp [World.holders, hk]
  have haccepted : (worldStep w l).accepted = r :: w.accepted := by simp [worldStep, hacc]
  have hg : (worldStep w l).fees.gateway = w.fees.gateway := by rw [hfees]; rfl
  have hedit : (worldStep w l).fees.fees = ((w.fees.editFee r.fee.order
      (.complete r.fee.payment)).editFee r.fee.order .consume).fees := by rw [hfees]; rfl
  have horders : OrdersOk (worldStep w l).fees := by
    have hmid : OrdersOk (w.fees.editFee r.fee.order (.complete r.fee.payment)) :=
      h.orders.edit (keepsFee_complete _).order rfl rfl
    exact hmid.edit keepsFee_consume.order hedit hg
  have hstill : ∀ t a q, Presents w.fees t a q → Presents (worldStep w l).fees t a q := by
    intro t a q hq
    have hmid : Presents (w.fees.editFee r.fee.order (.complete r.fee.payment)) t a q :=
      hq.edit (keepsFee_complete _) rfl rfl
    exact hmid.edit keepsFee_consume hedit hg
  refine ⟨horders.1, horders.2, ?_, fun t a j q hq => ?_, fun q hq => ?_⟩
  · rw [holders_update hpaying, World.spent, haccepted]
    exact h.sound.spend hholds
  · by_cases hta : t = l.type ∧ a = l.auction
    · obtain ⟨rfl, rfl⟩ := hta
      rw [paying_here, hpaying] at hq
      by_cases hj : j = k
      · subst hj
        rw [Function.update_self] at hq
        cases hq
      · rw [Function.update_of_ne hj] at hq
        exact hstill _ _ _ (h.paying _ _ j q hq)
    · rw [paying_elsewhere hta] at hq
      exact hstill _ _ _ (h.paying t a j q hq)
  · rw [haccepted] at hq
    rcases List.mem_cons.mp hq with rfl | hq
    · obtain ⟨⟨row, hmem, horder, hkind, huser, -⟩, hcap⟩ := hpresents
      refine ⟨(row.complete q.fee.payment).consume, ?_, horder, rfl, ?_⟩
      · have hmid := mem_editFee q.fee.order (.complete q.fee.payment) hmem
        rw [if_pos horder] at hmid
        have hend := mem_editFee q.fee.order .consume hmid
        have hsame : (row.complete q.fee.payment).razorpayOrderId = q.fee.order := horder
        rw [if_pos hsame] at hend
        exact hedit ▸ hend
      · refine verified_iff.mpr ⟨hkind, huser, q.fee.payment, rfl, ?_⟩
        rw [hg]
        exact horder ▸ hcap
    · have hne : q.fee.order ≠ r.fee.order := fun heq =>
        h.sound.unspent _ _ hholds (heq ▸ List.mem_map_of_mem hq)
      have hmid : UsedUp (w.fees.editFee r.fee.order (.complete r.fee.payment)) q :=
        (h.accepted q hq).edit hne rfl rfl
      exact hmid.edit hne hedit hg

/-- **The step lemma.** -/
theorem feesSound_step (h : FeesSound w) (hok : l.Unshared w) : FeesSound (worldStep w l) := by
  have hstep : FeeStep (service l.type) (w.auction l.type l.auction) l.label (w.next l) :=
    feeStep_step (service_typed l.type) _ _
  cases hstep with
  | quiet hpaying hfees hacc => exact feesSound_quiet h hpaying hfees hacc
  | verify k r loaded g hl hk hpaying hsig hcheck hfees =>
    rw [service_auctionType] at hcheck
    have hacc : accepts (w.auction l.type l.auction) l.label = none := by rw [hl]; rfl
    unfold WorldLabel.Unshared at hok
    rw [hl] at hok
    exact feesSound_verify h hpaying hacc hsig hcheck hfees (hok r loaded hk)
  | commit k r hk hpaying hacc hfees => exact feesSound_commit h hk hpaying hacc hfees

/-! ## Runs -/

/-- No request is in flight, no bid accepted and no fee ordered. -/
structure World.Opened (w : World) : Prop where
  quiet : ∀ t a, (w.auctions t a).Quiet
  noBids : w.accepted = []
  noFees : w.fees.fees = []

theorem World.Opened.feesSound (h : w.Opened) : FeesSound w := by
  have hpaying : ∀ t a k, (w.auctions t a).paying k = none := by
    intro t a k
    rw [State.paying, h.quiet t a k]
    rfl
  refine ⟨by simp [h.noFees], by simp [h.noFees], ?_, ?_, by simp [h.noBids]⟩
  · rw [World.spent, h.noBids]
    exact Ticket.sound_nil fun x => by rw [World.holders, hpaying]; rfl
  · intro t a k r hr
    cases (hpaying t a k).symm.trans hr

/-- The accepted bids of a user. -/
def World.bidsOf (w : World) (user : UserId) : List Request :=
  w.accepted.filter fun r => r.bidder = user

/-- The verified bid fees of a user. -/
def World.feesOf (w : World) (user : UserId) : List FeePayment :=
  w.fees.fees.filter (Verified w.fees user)

theorem FeesSound.count (h : FeesSound w) (user : UserId) :
    (w.bidsOf user).length ≤ (w.feesOf user).length := by
  have hnd : ((w.bidsOf user).map fun r => r.fee.order).Nodup :=
    h.sound.nodup.sublist (List.filter_sublist.map _)
  have hsub : (w.bidsOf user).map (fun r => r.fee.order) ⊆
      (w.feesOf user).map FeePayment.razorpayOrderId := by
    intro o ho
    obtain ⟨r, hr, rfl⟩ := List.mem_map.mp ho
    obtain ⟨hr, hbidder⟩ := List.mem_filter.mp hr
    obtain ⟨row, hmem, horder, -, hver⟩ := h.accepted r hr
    have huser : r.bidder = user := by simpa using hbidder
    exact List.mem_map.mpr ⟨row, List.mem_filter.mpr ⟨hmem, huser ▸ hver⟩, horder⟩
  simpa using (List.subperm_of_subset hnd hsub).length_le

/-- **One bid fee pays for at most one accepted bid.** In every run in which no verification shares
its order with a request that is paying, every accepted bid has used up a verified bid fee of its
bidder, no order pays for two of them, and no user has more accepted bids than verified bid
fees. -/
theorem one_bid_per_fee {w : World} (hw : w.Opened) {ls : List WorldLabel}
    (hls : Run.Meets worldStep (fun w l => l.Unshared w) w ls) :
    (∀ r ∈ (Run.exec worldStep w ls).accepted, UsedUp (Run.exec worldStep w ls).fees r) ∧
      (Run.exec worldStep w ls).spent.Nodup ∧
      ∀ user, ((Run.exec worldStep w ls).bidsOf user).length ≤
        ((Run.exec worldStep w ls).feesOf user).length := by
  have hend : FeesSound (Run.exec worldStep w ls) :=
    Run.exec_inv (fun _ _ h hok => feesSound_step h hok) hw.feesSound hls
  exact ⟨hend.accepted, hend.sound.nodup, hend.count⟩

/-! ## Without redemptions -/

/-- The condition that no verification confirms a redemption. -/
def WorldLabel.Unredeemed (w : World) (l : WorldLabel) : Prop :=
  PlaceBid.Unredeemed (service l.type) (w.auction l.type l.auction) l.label

instance {ρ : Type} (v : Service ρ) (s : State ρ) : (l : Label) → Decidable (Unredeemed v s l)
  | .verify k _ =>
    match h : s.requests k with
    | .locked r _ => decidable_of_iff (v.commits s.fees r = false) (by simp only [Unredeemed, h])
    | .idle | .verified _ _ _ | .cleared _ _ _ _ | .flushed _ _ _ _ =>
      .isTrue (by simp only [Unredeemed, h])
  | .lock _ _ | .clear _ _ | .flush _ | .commit _ | .abort _ | .bidFeeOrder _ _ | .capture _
  | .award _ _ => .isTrue trivial

instance (w : World) (l : WorldLabel) : Decidable (l.Unredeemed w) :=
  inferInstanceAs (Decidable (PlaceBid.Unredeemed _ _ _))

theorem heldRow_of_paying {ρ : Type} {p : Phase ρ} (h : p.paying = some r) :
    ∃ a, p.heldRow = some a := by
  cases p with
  | idle => cases h
  | locked q a => exact ⟨a, rfl⟩
  | verified q a n => exact ⟨a, rfl⟩
  | cleared q a new flags => exact ⟨a, rfl⟩
  | flushed q a new flags => exact ⟨a, rfl⟩

theorem unshared_of_exclusive {ρ : Type} {s : State ρ} (h : Exclusive s) (l : Label) :
    Unshared s l := by
  cases l with
  | verify k g =>
    intro r loaded hk j hj q hq
    obtain ⟨a, ha⟩ := heldRow_of_paying hq
    exact absurd (h.only (by rw [hk]; rfl) ha) hj
  | _ => trivial

/-- **Without a pending redemption the row lock keeps the fees apart.** -/
theorem unshared_of_unredeemed (hw : w.Opened) {ls : List WorldLabel}
    (hls : Run.Meets worldStep (fun w l => l.Unredeemed w) w ls) :
    Run.Meets worldStep (fun w l => l.Unshared w) w ls := by
  have hinit : ∀ t a, Exclusive (w.auctions t a) := fun t a => exclusive_of_quiet (hw.quiet t a)
  refine Run.allSteps_of_inv (P := fun w : World => ∀ t a, Exclusive (w.auctions t a))
    (fun w l h hok t a => ?_) (fun w l h _ => unshared_of_exclusive (h _ _) _) hinit hls
  by_cases hta : t = l.type ∧ a = l.auction
  · obtain ⟨rfl, rfl⟩ := hta
    have hhere : Exclusive (w.auction l.type l.auction) := h l.type l.auction
    have hnext := exclusive_step _ l.label hhere hok
    simpa [worldStep] using hnext
  · rw [paying_elsewhere hta]
    exact h t a

/-! ## One fee -/

/-- User 9 auctions domain 0 from 100 rupees; there are no other auctions. -/
def oneAuction : World where
  fees := ⟨[], .empty, .empty⟩
  auctions := fun t _ => match t with
    | .domain => openedAuction
    | .software => .opened 0 ⟨0, 0, 0, .draft, .pendingApproval, none, 0, none, 0, none, none, false⟩
        ⟨[], .empty, .empty⟩
    | .community => .opened 0 ⟨0, 0, 0, 0, .draft, none, none, none, 0, none, none, false⟩
        ⟨[], .empty, .empty⟩
  accepted := []

theorem oneAuction_opened : oneAuction.Opened := by
  refine ⟨fun t a k => ?_, rfl, rfl⟩
  cases t <;> rfl

/-- Steps on the auction of domain 0. -/
def onDomain (ls : List Label) : List WorldLabel := ls.map fun l => ⟨.domain, 0, l⟩

/-- User 1 pays the fee of one bid, with or without points. -/
def onePaidFee (redeem : Bool) : List Label :=
  [.award 1 20, .bidFeeOrder ⟨.domain, 1, 11800, redeem, true⟩ 12000, .capture 0]

def paidBid : Request := ⟨1, 12000, ⟨0, 0, true⟩⟩

theorem one_bid_per_fee_plain :
    oneAuction.Opened ∧
      ((Run.exec worldStep oneAuction
          (onDomain (onePaidFee false ++ startBid 0 paidBid ++ finishBid 0))).bidsOf 1).length ≤
        ((Run.exec worldStep oneAuction
          (onDomain (onePaidFee false ++ startBid 0 paidBid ++ finishBid 0))).feesOf 1).length := by
  have hls : Run.Meets worldStep (fun w l => l.Unredeemed w) oneAuction
      (onDomain (onePaidFee false ++ startBid 0 paidBid ++ finishBid 0)) := by
    decide
  exact ⟨oneAuction_opened,
    (one_bid_per_fee oneAuction_opened (unshared_of_unredeemed oneAuction_opened hls)).2.2 1⟩

/-- **One fee, two bids.** The redemption is confirmed in the middle of the first request; the
second one presents the same order and finds it completed. -/
theorem one_fee_two_bids :
    let w := Run.exec worldStep oneAuction (onDomain (onePaidFee true ++ startBid 0 paidBid ++
      startBid 1 paidBid ++ finishBid 1 ++ finishBid 0))
    w.spent = [0, 0] ∧ (w.bidsOf 1).length = 2 ∧ (w.feesOf 1).length = 1 := by
  decide

end Deltapreneur.Auction.PlaceBid

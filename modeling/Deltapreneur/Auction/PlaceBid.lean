import Deltapreneur.Lib.Run
import Deltapreneur.Auction.Bidding
import Deltapreneur.Auction.Fee

/-!
# Concurrent bids on one auction

Any number of `place_bid` requests on one auction, interleaved at their database steps. The three
services have the same plan (`app/service/auction/bid_service.py`,
`app/service/cocreation/software_auction_service.py:220-325`,
`app/service/community/community_auction_service.py:854-975`) and differ in the checks and the
columns, which a `Service` collects. A request goes through

1. `SELECT … FOR UPDATE` of the auction row, which waits for the row lock and keeps the row as an
   object;
2. the checks on that object and the verification of the bid fee. Where a pending redemption is
   confirmed, `confirm_redemption` commits: the row lock is gone, the object stays;
3. the anti-snipe decision and the clearing of the winning flags;
4. the flush of the auction row, which needs the row lock again;
5. the commit of everything since step 2.

Notes on the embedding:

* Clearing touches the bids that are committed as winning when it runs. It waits for row locks of
  other requests; since a cleared flag is never set again, a flag cleared meanwhile makes no
  difference.
* A database error, such as a deadlock, rolls a request back at any point. So does the bid of a
  user whose role waives the fee: the row made up for it is not in the session, and
  `consume_bid_fee` fails to refresh it.
* The auction starts without bids. Fee orders, captures and rewards go on around it.

Results:

* `bidStep_step`: a step commits a bid, or it leaves row and bids alone and moves at most its own
  request.
* `exclusive_step`: while no verification commits, whoever is in flight has the lock and the row is
  as it was read.
-/

namespace Deltapreneur.Auction.PlaceBid

open EdgePoints Marketplace

/-! ## Requests -/

/-- A bid, with its bidder and the payment of its fee. -/
structure Request where
  bidder : UserId
  amount : Paise
  fee : Triple
  deriving Repr, DecidableEq

/-- What the other tables and the clock say at the checks. -/
structure Guards where
  now : Time
  /-- `assert_user_can_bid_async` or `assert_user_can_bid_sync` lets the bidder through. -/
  canBid : Bool
  /-- The guard on the listing's verification lets the auction through. -/
  verified : Bool
  /-- The owner of the listing or profile. -/
  owner : Option UserId
  deriving Repr, DecidableEq

structure Bid where
  id : Nat
  bidderId : UserId
  amount : Paise
  isWinningBid : Bool
  deriving Repr, DecidableEq

/-- What is particular to the `place_bid` of a service with auction rows `ρ`. -/
structure Service (ρ : Type) where
  auctionType : FeeAuctionType
  /-- It uses the synchronous fee functions. -/
  sync : Bool
  /-- The checks before the fee. -/
  validate : ρ → Request → Guards → Except AppException Unit
  /-- The checks after the fee. -/
  accept : ρ → Request → Except AppException Unit
  /-- The object after a bid, from the time of the checks and the time of the decision. -/
  bidOn : Request → Time → Time → ρ → ρ
  /-- The row after the flush of an object: loaded, new, committed. -/
  flush : ρ → ρ → ρ → ρ
  /-- The bid is flagged as the winning one and the earlier flags are cleared. -/
  flags : Bool

variable {ρ : Type} (v : Service ρ)

/-- The verification of the bid fee. -/
def Service.verifyFee (t : FeeTables) (auction : AuctionId) (r : Request) : FeeOutcome :=
  if v.sync then verifyBidFeeSync t auction r.bidder r.fee r.amount
  else verifyBidFeePayment t v.auctionType auction r.bidder r.fee r.amount

/-- The verification commits: it confirms a pending redemption. -/
def Service.commits (t : FeeTables) (r : Request) : Bool :=
  !v.sync && (t.wallets.pendingRedemption r.fee.order).isSome

/-! ## State -/

/-- Where a request stands; `loaded` is the auction row as its session read it, `new` the object's
values, `flags` the bids whose winning flag it clears. -/
inductive Phase (ρ : Type)
  | idle
  /-- The row lock is taken. -/
  | locked (r : Request) (loaded : ρ)
  /-- The checks are passed, at `checked`, and the fee is verified. -/
  | verified (r : Request) (loaded : ρ) (checked : Time)
  | cleared (r : Request) (loaded new : ρ) (flags : List Nat)
  | flushed (r : Request) (loaded new : ρ) (flags : List Nat)
  deriving Repr, DecidableEq

/-- The committed tables, the holder of the row lock and the requests. -/
structure State (ρ : Type) where
  auction : AuctionId
  row : ρ
  bids : List Bid
  fees : FeeTables
  lock : Option Nat
  requests : Nat → Phase ρ

/-- The auction row a request holds. -/
def Phase.heldRow : Phase ρ → Option ρ
  | .idle => none
  | .locked _ loaded | .verified _ loaded _ | .cleared _ loaded _ _ | .flushed _ loaded _ _ =>
    some loaded

/-- The ids the clearing selects. -/
def winners (bids : List Bid) : List Nat :=
  (bids.filter (·.isWinningBid)).map (·.id)

/-- The winning flags of the selected ids are taken away. -/
def clearFlags (flags : List Nat) (bids : List Bid) : List Bid :=
  bids.map fun b => if b.id ∈ flags then { b with isWinningBid := false } else b

/-- An auction without bids and without requests. -/
def State.opened (auction : AuctionId) (row : ρ) (fees : FeeTables) : State ρ where
  auction := auction
  row := row
  bids := []
  fees := fees
  lock := none
  requests := fun _ => .idle

/-- No request is mid-flight. -/
def State.Quiet (s : State ρ) : Prop := ∀ k, s.requests k = .idle

/-! ## Steps -/

inductive Label
  | lock (k : Nat) (r : Request)
  | verify (k : Nat) (g : Guards)
  | clear (k : Nat) (now : Time)
  | flush (k : Nat)
  | commit (k : Nat)
  /-- A database error. -/
  | abort (k : Nat)
  | bidFeeOrder (r : FeeOrderRequest) (bidAmount : Paise)
  | capture (order : OrderId)
  | award (user : UserId) (points : Nat)
  deriving Repr

/-- The request a step belongs to. -/
def Label.request : Label → Option Nat
  | .lock k _ | .verify k _ | .clear k _ | .flush k | .commit k | .abort k => some k
  | .bidFeeOrder _ _ | .capture _ | .award _ _ => none

def State.setRequest (s : State ρ) (k : Nat) (p : Phase ρ) : State ρ :=
  { s with requests := Function.update s.requests k p }

/-- Request `k` gets the row lock. -/
def State.take (s : State ρ) (k : Nat) (p : Phase ρ) : State ρ :=
  { s with lock := some k }.setRequest k p

/-- A commit or a rollback of request `k` gives its row lock back. -/
def State.unlock (s : State ρ) (k : Nat) : State ρ :=
  { s with lock := if s.lock = some k then none else s.lock }

/-- The request is over. -/
def State.finish (s : State ρ) (k : Nat) : State ρ := (s.unlock k).setRequest k .idle

/-- The row lock is free, or request `k` has it. -/
def State.lockable (s : State ρ) (k : Nat) : Bool := s.lock.all (· = k)

/-- The checks and the fee. -/
def verify (s : State ρ) (k : Nat) (r : Request) (loaded : ρ) (g : Guards) : State ρ :=
  match v.validate loaded r g with
  | .error _ => s.finish k
  | .ok () =>
    let fee := v.verifyFee s.fees s.auction r
    match fee.result with
    | .error _ => { s.finish k with fees := fee.committed }
    | .ok () =>
      if v.commits s.fees r then
        { (s.unlock k).setRequest k (.verified r loaded g.now) with fees := fee.committed }
      else s.setRequest k (.verified r loaded g.now)

/-- The tables after a bid. -/
def commitBid (s : State ρ) (r : Request) (loaded new : ρ) (flags : List Nat) : State ρ :=
  { s with
    row := v.flush loaded new s.row
    bids := clearFlags flags s.bids ++ [⟨s.bids.length, r.bidder, r.amount, v.flags⟩]
    fees := (s.fees.editFee r.fee.order (.complete r.fee.payment)).consumeBidFee r.fee.order }

def step (s : State ρ) : Label → State ρ
  | .lock k r =>
    match s.requests k, s.lock with
    | .idle, none => s.take k (.locked r s.row)
    | _, _ => s
  | .verify k g =>
    match s.requests k with
    | .locked r loaded => verify v s k r loaded g
    | _ => s
  | .clear k now =>
    match s.requests k with
    | .verified r loaded checked =>
      match v.accept loaded r with
      | .error _ => s.finish k
      | .ok () =>
        s.setRequest k (.cleared r loaded (v.bidOn r checked now loaded)
          (if v.flags then winners s.bids else []))
    | _ => s
  | .flush k =>
    match s.requests k with
    | .cleared r loaded new flags =>
      if s.lockable k then s.take k (.flushed r loaded new flags) else s
    | _ => s
  | .commit k =>
    match s.requests k with
    | .flushed r loaded new flags => (commitBid v s r loaded new flags).finish k
    | _ => s
  | .abort k => s.finish k
  | .bidFeeOrder r amount =>
    { s with fees :=
        (createBidFeeOrder s.fees { r with auctionType := v.auctionType } s.auction amount).1 }
  | .capture order => { s with fees.gateway := s.fees.gateway.capture order }
  | .award user points =>
    { s with fees.wallets := s.fees.wallets.awardReferrerPoints user points }

/-! ## What a step can do -/

variable {v} {s s' : State ρ} {k : Nat} {l : Label} {r : Request} {loaded new : ρ}
  {flags : List Nat} {p : Phase ρ}

/-- How a request moves on without a commit of a bid. -/
inductive Moves (v : Service ρ) (s : State ρ) : Phase ρ → Phase ρ → Prop
  | finish (p : Phase ρ) : Moves v s p .idle
  | lock (r : Request) (hfree : s.lock = none) : Moves v s .idle (.locked r s.row)
  | verify (r : Request) (loaded : ρ) (g : Guards) (hv : v.validate loaded r g = .ok ()) :
      Moves v s (.locked r loaded) (.verified r loaded g.now)
  | clear (r : Request) (loaded : ρ) (checked now : Time) :
      Moves v s (.verified r loaded checked)
        (.cleared r loaded (v.bidOn r checked now loaded) (if v.flags then winners s.bids else []))
  | flush (r : Request) (loaded new : ρ) (flags : List Nat) :
      Moves v s (.cleared r loaded new flags) (.flushed r loaded new flags)

/-- What a step can do. -/
inductive BidStep (v : Service ρ) (s : State ρ) (l : Label) : State ρ → Prop
  /-- Row, bids and requests stay. -/
  | same (s' : State ρ) (hrow : s'.row = s.row) (hbids : s'.bids = s.bids)
      (hreq : s'.requests = s.requests) : BidStep v s l s'
  /-- Row and bids stay; the step's own request moves on. -/
  | move (s' : State ρ) (k : Nat) (p : Phase ρ) (hl : l.request = some k)
      (hmove : Moves v s (s.requests k) p) (hrow : s'.row = s.row) (hbids : s'.bids = s.bids)
      (hreq : s'.requests = Function.update s.requests k p) : BidStep v s l s'
  /-- A bid is committed. -/
  | commit (k : Nat) (r : Request) (loaded new : ρ) (flags : List Nat) (hl : l = .commit k)
      (hk : s.requests k = .flushed r loaded new flags) :
      BidStep v s l ((commitBid v s r loaded new flags).finish k)

theorem BidStep.refl (v : Service ρ) (s : State ρ) (l : Label) : BidStep v s l s :=
  .same s rfl rfl rfl

theorem BidStep.over {t : FeeTables} (hl : l.request = some k) :
    BidStep v s l { s.finish k with fees := t } :=
  .move _ k .idle hl (.finish _) rfl rfl rfl

theorem bidStep_verify {g : Guards} (hk : s.requests k = .locked r loaded) :
    BidStep v s (.verify k g) (verify v s k r loaded g) := by
  unfold verify
  split
  · exact .over rfl
  · next hv =>
    have hmove : Moves v s (s.requests k) (.verified r loaded g.now) :=
      hk ▸ .verify r loaded g hv
    dsimp only
    split
    · exact .over rfl
    · split
      · exact .move _ k _ rfl hmove rfl rfl rfl
      · exact .move _ k _ rfl hmove rfl rfl rfl

/-- **Every step is a bid step.** -/
theorem bidStep_step (v : Service ρ) (s : State ρ) (l : Label) : BidStep v s l (step v s l) := by
  cases l with
  | lock k r =>
    simp only [step]
    split
    · next hidle hfree => exact .move _ k _ rfl (hidle ▸ .lock r hfree) rfl rfl rfl
    · exact .refl v s _
  | verify k g =>
    simp only [step]
    split
    · next r loaded hk => exact bidStep_verify hk
    · exact .refl v s _
  | clear k now =>
    simp only [step]
    split
    · next r loaded checked hk =>
      split
      · exact .over rfl
      · exact .move _ k _ rfl (hk ▸ .clear r loaded checked now) rfl rfl rfl
    · exact .refl v s _
  | flush k =>
    simp only [step]
    split
    · next r loaded new flags hk =>
      split
      · exact .move _ k _ rfl (hk ▸ .flush r loaded new flags) rfl rfl rfl
      · exact .refl v s _
    · exact .refl v s _
  | commit k =>
    simp only [step]
    split
    · next r loaded new flags hk => exact .commit k r loaded new flags rfl hk
    · exact .refl v s _
  | abort k => exact .over rfl
  | bidFeeOrder r amount => exact .same _ rfl rfl rfl
  | capture order => exact .same _ rfl rfl rfl
  | award user points => exact .same _ rfl rfl rfl

theorem BidStep.requests_ne (h : BidStep v s l s') (hne : l.request ≠ some k) :
    s'.requests k = s.requests k := by
  have hother {j : Nat} (hj : l.request = some j) : k ≠ j := fun heq => hne (heq ▸ hj)
  cases h with
  | same s' hrow hbids hreq => rw [hreq]
  | move s' j p hl hmove hrow hbids hreq =>
    rw [hreq]
    exact Function.update_of_ne (hother hl) _ _
  | commit j r loaded new flags hl hk =>
    exact Function.update_of_ne (hother (by rw [hl]; rfl)) _ _

/-! ## The row lock

As long as no verification commits, the row lock does what it is for. -/

/-- Whoever is in flight has the lock, and the row is as it was read. -/
def Exclusive (s : State ρ) : Prop :=
  ∀ k a, (s.requests k).heldRow = some a → s.lock = some k ∧ a = s.row

/-- The condition on a step: the verification of its bid fee does not commit. -/
def Unredeemed (v : Service ρ) (s : State ρ) : Label → Prop
  | .verify k _ =>
    match s.requests k with
    | .locked r _ => v.commits s.fees r = false
    | _ => True
  | _ => True

theorem Exclusive.only (h : Exclusive s) (hk : (s.requests k).heldRow = some loaded) {j : Nat} {a : ρ}
    (hj : (s.requests j).heldRow = some a) : j = k := by
  obtain ⟨hlk, -⟩ := h k loaded hk
  obtain ⟨hlj, -⟩ := h j a hj
  rw [hlk] at hlj
  exact (Option.some.inj hlj).symm

theorem Exclusive.move (h : Exclusive s) (hk : (s.requests k).heldRow = some loaded)
    (hp : p.heldRow = some loaded) : Exclusive (s.setRequest k p) := by
  obtain ⟨hlock, hrow⟩ := h k loaded hk
  intro j a hj
  simp only [State.setRequest] at hj ⊢
  by_cases hjk : j = k
  · subst hjk
    rw [Function.update_self, hp] at hj
    cases hj
    exact ⟨hlock, hrow⟩
  · rw [Function.update_of_ne hjk] at hj
    exact absurd (h.only hk hj) hjk

theorem Exclusive.finish (h : Exclusive s) : Exclusive (s.finish k) := by
  intro j a hj
  simp only [State.finish, State.unlock, State.setRequest] at hj ⊢
  by_cases hjk : j = k
  · subst hjk
    rw [Function.update_self] at hj
    cases hj
  · rw [Function.update_of_ne hjk] at hj
    obtain ⟨hlock, hrow⟩ := h j a hj
    have hne : s.lock ≠ some k := fun heq => hjk (Option.some.inj (hlock.symm.trans heq))
    rw [if_neg hne]
    exact ⟨hlock, hrow⟩

theorem Exclusive.commit (h : Exclusive s) (hk : s.requests k = .flushed r loaded new flags) :
    Exclusive ((commitBid v s r loaded new flags).finish k) := by
  have hload : (s.requests k).heldRow = some loaded := by rw [hk]; rfl
  intro j a hj
  simp only [State.finish, State.unlock, State.setRequest, commitBid] at hj
  by_cases hjk : j = k
  · subst hjk
    rw [Function.update_self] at hj
    cases hj
  · rw [Function.update_of_ne hjk] at hj
    exact absurd (h.only hload hj) hjk

theorem exclusive_verify {g : Guards} (h : Exclusive s) (hk : s.requests k = .locked r loaded)
    (hno : v.commits s.fees r = false) : Exclusive (verify v s k r loaded g) := by
  have hload : (s.requests k).heldRow = some loaded := by rw [hk]; rfl
  unfold verify
  split
  · exact h.finish
  · dsimp only
    split
    · exact h.finish
    · rw [hno]
      exact h.move hload rfl

theorem exclusive_step (s : State ρ) (l : Label) (h : Exclusive s) (hok : Unredeemed v s l) :
    Exclusive (step v s l) := by
  have hload (k : Nat) {p : Phase ρ} (hk : s.requests k = p) :
      (s.requests k).heldRow = p.heldRow := congrArg Phase.heldRow hk
  cases l with
  | lock k r =>
    simp only [step]
    split
    · next hidle hfree =>
      intro j a hj
      simp only [State.take, State.setRequest] at hj ⊢
      by_cases hjk : j = k
      · subst hjk
        rw [Function.update_self] at hj
        exact ⟨rfl, (Option.some.inj hj).symm⟩
      · rw [Function.update_of_ne hjk] at hj
        obtain ⟨hlock, -⟩ := h j a hj
        cases hfree.symm.trans hlock
    · exact h
  | verify k g =>
    simp only [step]
    split
    · next r loaded hk =>
      simp only [Unredeemed, hk] at hok
      exact exclusive_verify h hk hok
    · exact h
  | clear k now =>
    simp only [step]
    split
    · next r loaded checked hk =>
      split
      · exact h.finish
      · exact h.move (hload k hk) rfl
    · exact h
  | flush k =>
    simp only [step]
    split
    · next r loaded new flags hk =>
      split
      · have hlock : { s with lock := some k } = s := by
          rw [← (h k loaded (hload k hk)).1]
        rw [State.take, hlock]
        exact h.move (hload k hk) rfl
      · exact h
    · exact h
  | commit k =>
    simp only [step]
    split
    · next r loaded new flags hk => exact h.commit hk
    · exact h
  | abort k => exact h.finish
  | bidFeeOrder r amount => exact h
  | capture order => exact h
  | award user points => exact h

theorem exclusive_of_quiet (hquiet : s.Quiet) : Exclusive s := by
  intro k a hk
  rw [hquiet k] at hk
  cases hk

end Deltapreneur.Auction.PlaceBid

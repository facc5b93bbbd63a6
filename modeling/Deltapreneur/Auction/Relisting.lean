import Deltapreneur.Lib.Commits
import Deltapreneur.Auction.Community
import Mathlib.Data.List.Sort

/-!
# A failed relisting

One call of `create_auction` or `re_auction` of a community auction
(`app/service/community/community_auction_service.py:454-625, 1059-1106`), alone, with the commits
on its way: `CommunityAuctionBidRepository.soft_delete` and `CommunityAuctionRepository.save` commit,
and the creation fee is asked for after that.

* `Point`: the statements at which the database may fail. A commit that fails has committed nothing.
* `AuctionDb` has the columns that the services read; `Details` are the others that a listing writes.
* An order id that is left out is one that no fee has.
* A listing that is accepted is announced after its last commit; an exception there is raised as well.

Results:

* `failed_listing_intact_iff`: a call that raises leaves auctions and bids as they were, exactly if it
  does not raise after its first commit.
* `unpaid_relisting_wipes`: a relisting without a fee deletes the bids and the winner, and is live.
-/

namespace Deltapreneur.Auction.Relisting

open Marketplace Commits
open Community (CreateRequest ReAuctionRequest)

/-! ## Tables -/

/-- What the creator writes into the form. -/
structure Form where
  auctionTitle : String
  auctionSkills : Option String
  workType : Option String
  expectedRate : Option String
  availableFrom : Option Time
  additionalInfo : Option String
  deriving Repr, DecidableEq

/-- The other columns of `CommunityAuction`. -/
structure Details where
  form : Form
  startTime : Option Time
  originalEndTime : Option Time
  listingFeeOrderId : Option OrderId
  listingFeePaymentId : Option PaymentId
  listingFeePaid : Bool
  deriving Repr, DecidableEq

structure Tables where
  db : AuctionDb
  /-- By the id of the auction. -/
  details : AuctionId → Details

/-- Where the database may fail. -/
inductive Point
  /-- A `SELECT` before the first write. -/
  | lookup
  /-- The commit of the `i`-th deletion of a bid. -/
  | softDelete (i : Nat)
  /-- The commit in `save`. -/
  | save
  /-- The refresh in `save`. -/
  | refresh
  /-- The row of the creation fee, its reading or its flush. -/
  | fee
  /-- The last commit. -/
  | commit
  /-- The notification, the event or the response. -/
  | announce
  deriving Repr, DecidableEq

def dbError : AppException := ⟨"Internal Server Error", 500⟩

/-- The call gets to the statement `p`. -/
def reach (fault : Option Point) (p : Point) : Work Tables AppException Unit :=
  strike fault p dbError

/-! ## Writes -/

/-- `_prepare_auction_for_new_listing`, on the row. -/
def prepare (i : AuctionId) (r : CreateRequest) (form : Form) (t : Tables) : Tables where
  db := t.db.editCommunity i (Community.prepare r)
  details := Function.update t.details i ⟨form, none, none, none, none, false⟩

/-- The prepared row goes live. -/
def goLive (i : AuctionId) (r : CreateRequest) (form : Form) (t : Tables) : Tables where
  db := t.db.editCommunity i fun a => Community.goLive r.now (Community.prepare r a)
  details := Function.update t.details i
    ⟨form, some r.now, some (r.now + r.durationDays * day), none, none, true⟩

/-- A new row, live. -/
def insert (r : CreateRequest) (form : Form) (t : Tables) : Tables where
  db := { t.db with community := t.db.community ++ [r.row] }
  details := Function.update t.details t.db.community.length
    ⟨form, some r.now, some (r.now + r.durationDays * day), none, none, true⟩

/-- The row after `re_auction`. -/
def restart (r : ReAuctionRequest) (t : Tables) : Tables where
  db := t.db.editCommunity r.auction (Community.restart r)
  details := Function.update t.details r.auction { t.details r.auction with
    startTime := some r.now
    originalEndTime := some (r.now + r.durationDays * day) }

def softDelete (b : BidRow) (t : Tables) : Tables :=
  { t with db.communityBids := t.db.communityBids.erase b }

/-- `find_by_auction_id`: the greatest first. -/
def bidsOf (t : Tables) (i : AuctionId) : List BidRow :=
  (t.db.communityBids.filter (·.auctionId = i)).insertionSort fun a b => b.amount ≤ a.amount

/-! ## The calls -/

/-- Every bid of the auction is deleted. -/
def clearBids (fault : Option Point) (bids : List BidRow) : Work Tables AppException Unit :=
  eachCommitted fault .softDelete dbError softDelete 0 bids

/-- `CommunityAuctionRepository.save` of what `f` has written. -/
def save (fault : Option Point) (f : Tables → Tables) : Work Tables AppException Unit := do
  write f
  reach fault .save
  commit
  reach fault .refresh

/-- `consume_creation_fee_sync`. -/
def consumeFee (fault : Option Point) (user : UserId) (order : OrderId) (i : AuctionId) :
    Work Tables AppException Unit := do
  let t ← read
  reach fault .fee
  match consumeCreationFee t.db.toFeeTables user .community order i with
  | .error e => check (.error e)
  | .ok fees => write fun t => { t with db := t.db.withFees fees }

/-- The last commit, and what follows it. -/
def finish (fault : Option Point) : Work Tables AppException Unit := do
  reach fault .commit
  commit
  reach fault .announce

/-- A row is saved, its fee consumed and the listing announced. -/
def publish (fault : Option Point) (user : UserId) (order : OrderId) (i : AuctionId) (waived : Bool)
    (f : Tables → Tables) : Work Tables AppException Unit := do
  save fault f
  if waived then pure () else consumeFee fault user order i
  finish fault

/-- `create_auction`; `validId` says that the id of the profile is a UUID. -/
def createAuction (fault : Option Point) (validId : Bool) (r : CreateRequest) (form : Form) :
    Work Tables AppException Unit := do
  check (if validId then .ok () else raise "Invalid community_id" 422)
  reach fault .lookup
  match r.owner with
  | none => check (raise "Creator profile not found" 404)
  | some owner =>
    check (if owner = r.user then .ok ()
      else raise "You can only auction your own community profile" 403)
    let t ← read
    match Community.latest t.db r.communityId with
    | none =>
      publish fault r.user r.creationFeeOrderId t.db.community.length r.feeWaived (insert r form)
    | some i =>
      match (t.db.community[i]?).map CommunityAuction.status with
      | none => check (raise "Creator auction not found" 404)
      | some status =>
        if status = .paymentPending then do
          save fault (prepare i r form)
          reach fault .announce
        else if status.live then
          check (raise "You already have a live auction. View it from your Creator profile." 409)
        else if Community.terminal status then do
          clearBids fault (bidsOf t i)
          publish fault r.user r.creationFeeOrderId i r.feeWaived (goLive i r form)
        else
          publish fault r.user r.creationFeeOrderId t.db.community.length r.feeWaived (insert r form)

/-- `re_auction`. -/
def reAuction (fault : Option Point) (r : ReAuctionRequest) : Work Tables AppException Unit := do
  reach fault .lookup
  let t ← read
  match t.db.community[r.auction]? with
  | none => check (raise "Auction not found" 404)
  | some a =>
    check (if r.owner = some r.user then .ok () else raise "Not your auction" 403)
    check (if a.status = .unsold then .ok ()
      else raise "Can only re-auction an unsold auction" 400)
    clearBids fault (bidsOf t r.auction)
    publish fault r.user r.creationFeeOrderId r.auction false (restart r)

/-! ## What a call may leave -/

/-- The auctions and their bids are as they were. -/
structure Intact (t t' : Tables) : Prop where
  community : t'.db.community = t.db.community
  bids : t'.db.communityBids = t.db.communityBids
  details : t'.details = t.details

/-- No fee is there for the listing. -/
def unpaid (t : Tables) (user : UserId) (order : OrderId) (i : AuctionId) : Bool :=
  match consumeCreationFee t.db.toFeeTables user .community order i with
  | .error _ => true
  | .ok _ => false

/-- Something after the commit of the listing raises. -/
def Late (fault : Option Point) (waived unpaid : Bool) : Prop :=
  fault = some .refresh ∨ fault = some .commit ∨ fault = some .announce ∨
    waived = false ∧ (fault = some .fee ∨ unpaid = true)

/-- **A listing over `n` bids raises after its first commit**: at a later bid, at the commit of the
row after the bids, or after that. -/
def Torn (fault : Option Point) (n : Nat) (waived unpaid : Bool) : Prop :=
  (∃ k, 0 < k ∧ k < n ∧ fault = some (.softDelete k)) ∨
  (fault = some .save ∧ 0 < n) ∨
  ((∀ k < n, fault ≠ some (.softDelete k)) ∧ fault ≠ some .save ∧ Late fault waived unpaid)

/-- A `create_auction` that gets past its checks raises after its first commit. -/
def CreateTorn (fault : Option Point) (r : CreateRequest) (form : Form) (t : Tables) : Prop :=
  let new := Torn fault 0 r.feeWaived (unpaid t r.user r.creationFeeOrderId t.db.community.length)
  match Community.latest t.db r.communityId with
  | none => new
  | some i =>
    match (t.db.community[i]?).map CommunityAuction.status with
    | none => False
    | some status =>
      if status = .paymentPending then
        (fault = some .refresh ∨ fault = some .announce) ∧ ¬ Intact t (prepare i r form t)
      else if status.live then False
      else if Community.terminal status then
        Torn fault (bidsOf t i).length r.feeWaived (unpaid t r.user r.creationFeeOrderId i)
      else new

/-- A `re_auction` that gets past its checks raises after its first commit. -/
def ReAuctionTorn (fault : Option Point) (r : ReAuctionRequest) (t : Tables) : Prop :=
  ∃ a, t.db.community[r.auction]? = some a ∧ r.owner = some r.user ∧ a.status = .unsold ∧
    Torn fault (bidsOf t r.auction).length false (unpaid t r.user r.creationFeeOrderId r.auction)

variable {t d : Tables} {fault : Option Point} {user : UserId} {order : OrderId} {i : AuctionId}
  {waived : Bool} {X : Tables → Prop} {f : Unit → Work Tables AppException Unit}
  {conn : Conn Tables} {bids : List BidRow} {r : CreateRequest} {form : Form} {a : CommunityAuction}

theorem intact_refl (t : Tables) : Intact t t := ⟨rfl, rfl, rfl⟩

/-! ## Statement by statement -/

theorem raising_reach {p : Point} : Raising X (reach fault p >>= f) conn ↔
      (fault = some p → X conn.committed) ∧ (fault ≠ some p → Raising X (f ()) conn) :=
  raising_strike_bind

theorem raising_consumeFee (hf : ∀ fees, Raising X (f ()) ⟨conn.committed,
      { conn.session with db := conn.session.db.withFees fees }⟩ ↔ Raising X (f ()) conn) :
    Raising X (consumeFee fault user order i >>= f) conn ↔
      (fault = some .fee ∨ unpaid conn.session user order i = true → X conn.committed) ∧
      (fault ≠ some .fee → unpaid conn.session user order i = false → Raising X (f ()) conn) := by
  unfold consumeFee unpaid
  simp only [raising_assoc, raising_read_bind, raising_reach]
  cases consumeCreationFee conn.session.db.toFeeTables user .community order i with
  | error e =>
    simp only [raising_check_error_bind]
    tauto
  | ok fees =>
    simp only [raising_write_bind, hf]
    simp

/-- **A listing** of the row that `f` writes, when the bids are gone: what is committed if it raises. -/
theorem raising_publish {f : Tables → Tables} (hfees : (f d).db.toFeeTables = d.db.toFeeTables) :
    Raising (Intact t) (publish fault user order i waived f) ⟨d, d⟩ ↔
      (fault = some .save → Intact t d) ∧
      (fault ≠ some .save → Late fault waived (unpaid d user order i) → Intact t (f d)) := by
  have hunpaid : unpaid (f d) user order i = unpaid d user order i := by
    unfold unpaid
    rw [hfees]
  -- the fees that are written do not matter
  have hend (fees : FeeTables) : Raising (Intact t) (finish fault)
      ⟨f d, { f d with db := (f d).db.withFees fees }⟩ ↔
      (fault = some .commit ∨ fault = some .announce → Intact t (f d)) := by
    unfold finish
    simp only [raising_reach, raising_commit_bind]
    rw [reach, raising_strike]
    have hkeep : Intact t { f d with db := (f d).db.withFees fees } ↔ Intact t (f d) :=
      ⟨fun h => ⟨h.community, h.bids, h.details⟩, fun h => ⟨h.community, h.bids, h.details⟩⟩
    rw [hkeep]
    by_cases hcommit : fault = some .commit
    · simp [hcommit]
    · simp [hcommit]
  have hplain : Raising (Intact t) (finish fault) ⟨f d, f d⟩ ↔
      (fault = some .commit ∨ fault = some .announce → Intact t (f d)) :=
    hend (f d).db.toFeeTables
  unfold publish save
  simp only [raising_assoc, raising_write_bind, raising_reach, raising_commit_bind]
  refine and_congr_right fun _ => imp_congr_right fun _ => ?_
  cases waived with
  | true =>
    simp only [if_true, hplain, Late]
    cases fault with
    | none => simp
    | some p => cases p <;> simp
  | false =>
    have hfee : Raising (Intact t) (consumeFee fault user order i >>= fun _ => finish fault)
        ⟨f d, f d⟩ ↔ _ := raising_consumeFee fun fees => (hend fees).trans hplain.symm
    simp only [Bool.false_eq_true, if_false, hfee, hplain, hunpaid, Late]
    cases fault with
    | none => cases unpaid d user order i <;> simp
    | some p => cases p <;> cases unpaid d user order i <;> simp

/-! ## The deleted bids -/

/-- The tables without some of the bids. -/
def without (t : Tables) (bids : List BidRow) : Tables :=
  { t with db.communityBids := t.db.communityBids.diff bids }

theorem foldl_softDelete : ∀ (bids : List BidRow) (t : Tables),
    bids.foldl (fun s b => softDelete b s) t = without t bids
  | [], t => rfl
  | b :: bids, t => by
    rw [List.foldl_cons, foldl_softDelete bids]
    simp only [without, softDelete, List.diff_cons]

theorem intact_without (hmem : ∀ b ∈ bids, b ∈ t.db.communityBids) :
    Intact t (without t bids) ↔ bids = [] := by
  cases bids with
  | nil => exact ⟨fun _ => rfl, fun _ => intact_refl t⟩
  | cons b bids =>
    refine ⟨fun h => ?_, fun h => absurd h (by simp)⟩
    have hlength : (t.db.communityBids.diff (b :: bids)).length = t.db.communityBids.length :=
      congrArg List.length h.bids
    have hshorter := ((t.db.communityBids.erase b).diff_sublist bids).length_le
    have herase := List.length_erase_of_mem (hmem b (List.mem_cons_self ..))
    have hpos := List.length_pos_of_mem (hmem b (List.mem_cons_self ..))
    rw [List.diff_cons] at hlength
    omega

theorem mem_bidsOf {b : BidRow} (h : b ∈ bidsOf t i) : b ∈ t.db.communityBids :=
  (List.mem_filter.mp ((List.mem_insertionSort ..).mp h)).1

/-- **A listing in place of an old one**: if it raises, the old one is intact, exactly if it does not
raise after its first commit. -/
theorem raising_relist {f : Tables → Tables} (hmem : ∀ b ∈ bids, b ∈ t.db.communityBids)
    (hfees : (f (without t bids)).db.toFeeTables = t.db.toFeeTables)
    (hedit : ¬ Intact t (f (without t bids))) :
    Raising (Intact t) (clearBids fault bids >>= fun _ => publish fault user order i waived f)
      ⟨t, t⟩ ↔ ¬ Torn fault bids.length waived (unpaid t user order i) := by
  have hinjective : Function.Injective Point.softDelete := fun j k h => Point.softDelete.inj h
  have htake (k : Nat) (hk : k < bids.length) :
      Intact t (without t (bids.take k)) ↔ k = 0 := by
    rw [intact_without fun b hb => hmem b (List.mem_of_mem_take hb), List.take_eq_nil_iff,
      or_iff_left (List.ne_nil_of_length_pos (Nat.zero_lt_of_lt hk))]
  have hunpaid : unpaid (without t bids) user order i = unpaid t user order i := rfl
  unfold clearBids
  rw [raising_eachCommitted hinjective]
  simp only [foldl_softDelete, Nat.zero_add]
  rw [raising_publish hfees, intact_without hmem, hunpaid]
  constructor
  · rintro ⟨hbids, hrest⟩ (⟨k, hpos, hk, hfault⟩ | ⟨hsave, hpos⟩ | ⟨hnone, hsave, hlate⟩)
    · exact absurd ((htake k hk).mp (hbids k hk hfault)) (Nat.pos_iff_ne_zero.mp hpos)
    · have hnil := (hrest fun k _ => by simp [hsave]).1 hsave
      simp [hnil] at hpos
    · exact hedit ((hrest hnone).2 hsave hlate)
  · intro h
    refine ⟨fun k hk hfault => (htake k hk).mpr ?_, fun hnone => ⟨fun hsave => ?_,
      fun hsave hlate => absurd (.inr (.inr ⟨hnone, hsave, hlate⟩)) h⟩⟩
    · by_contra hne
      exact h (.inl ⟨k, Nat.pos_of_ne_zero hne, hk, hfault⟩)
    · by_contra hne
      exact h (.inr (.inl ⟨hsave, List.length_pos_iff.mpr hne⟩))

/-! ## The rows that are written -/

theorem not_intact_insert : ¬ Intact t (insert r form t) := by
  intro h
  have hlength := congrArg List.length h.community
  simp [insert] at hlength

theorem not_intact_edit {f : CommunityAuction → CommunityAuction} {t' : Tables}
    (hrow : t.db.community[i]? = some a) (hwrites : t'.db.community = t.db.community.modify i f)
    (hchanges : f a ≠ a) : ¬ Intact t t' := by
  intro h
  have hget : (t.db.community.modify i f)[i]? = t.db.community[i]? := by
    rw [← hwrites, h.community]
  rw [List.getElem?_modify_eq, hrow] at hget
  exact hchanges (Option.some.inj hget)

theorem raising_new :
    Raising (Intact t) (publish fault user order i waived (insert r form)) ⟨t, t⟩ ↔
      ¬ Torn fault 0 waived (unpaid t user order i) := by
  have hnone : ∀ b ∈ ([] : List BidRow), b ∈ t.db.communityBids := by simp
  exact raising_relist hnone rfl not_intact_insert

theorem raising_renew (hrow : t.db.community[i]? = some a)
    (hdone : Community.terminal a.status = true) :
    Raising (Intact t) (clearBids fault (bidsOf t i) >>= fun _ =>
      publish fault user order i waived (goLive i r form)) ⟨t, t⟩ ↔
      ¬ Torn fault (bidsOf t i).length waived (unpaid t user order i) := by
  refine raising_relist (fun b => mem_bidsOf) rfl (not_intact_edit hrow rfl fun heq => ?_)
  have hstatus : AuctionStatus.active = a.status := congrArg CommunityAuction.status heq
  rw [← hstatus] at hdone
  cases hdone

theorem raising_restart {r : ReAuctionRequest} (hrow : t.db.community[r.auction]? = some a)
    (hunsold : a.status = .unsold) :
    Raising (Intact t) (clearBids fault (bidsOf t r.auction) >>= fun _ =>
      publish fault user order r.auction waived (restart r)) ⟨t, t⟩ ↔
      ¬ Torn fault (bidsOf t r.auction).length waived (unpaid t user order r.auction) := by
  refine raising_relist (fun b => mem_bidsOf) rfl (not_intact_edit hrow rfl fun heq => ?_)
  have hstatus : AuctionStatus.active = a.status := congrArg CommunityAuction.status heq
  cases hstatus.trans hunsold

theorem raising_prepare :
    Raising (Intact t) (save fault (prepare i r form) >>= fun _ => reach fault .announce) ⟨t, t⟩ ↔
      ¬ ((fault = some .refresh ∨ fault = some .announce) ∧ ¬ Intact t (prepare i r form t)) := by
  unfold save
  simp only [raising_assoc, raising_write_bind, raising_reach, raising_commit_bind]
  rw [reach, raising_strike]
  have hself := intact_refl t
  by_cases hsave : fault = some .save
  · simp [hsave, hself]
  · by_cases hrefresh : fault = some .refresh
    · simp [hrefresh]
    · simp [hsave, hrefresh]

/-! ## The exact condition -/

theorem raising_createAuction {validId : Bool} :
    Raising (Intact t) (createAuction fault validId r form) ⟨t, t⟩ ↔
      ¬ (validId = true ∧ fault ≠ some .lookup ∧ r.owner = some r.user ∧
        CreateTorn fault r form t) := by
  have hself := intact_refl t
  unfold createAuction
  by_cases hvalid : validId = true
  swap
  · rw [if_neg hvalid]
    simp [raise, hvalid, hself]
  rw [if_pos hvalid, raising_check_ok_bind, raising_reach]
  by_cases hlookup : fault = some .lookup
  · simp [hlookup, hself]
  simp only [hlookup, ne_eq, not_false_eq_true, true_and, IsEmpty.forall_iff, forall_const, hvalid]
  cases howner : r.owner with
  | none => simp [raise, hself]
  | some owner =>
    by_cases hmine : owner = r.user
    swap
    · simp [hmine, raise, hself]
    dsimp only
    rw [if_pos hmine, raising_check_ok_bind, raising_read_bind]
    dsimp only
    simp only [hmine, true_and]
    unfold CreateTorn
    cases Community.latest t.db r.communityId with
    | none => exact raising_new
    | some i =>
      dsimp only
      cases hrow : t.db.community[i]? with
      | none => simp [raise, hself]
      | some a =>
        simp only [Option.map_some]
        by_cases hpending : a.status = .paymentPending
        · simp only [if_pos hpending]
          exact raising_prepare
        simp only [if_neg hpending]
        by_cases hlive : a.status.live = true
        · simp [hlive, raise, hself]
        simp only [if_neg hlive]
        by_cases hdone : Community.terminal a.status = true
        · simp only [if_pos hdone]
          exact raising_renew hrow hdone
        · simp only [if_neg hdone]
          exact raising_new

theorem raising_reAuction {r : ReAuctionRequest} :
    Raising (Intact t) (reAuction fault r) ⟨t, t⟩ ↔
      ¬ (fault ≠ some .lookup ∧ ReAuctionTorn fault r t) := by
  have hself := intact_refl t
  unfold reAuction ReAuctionTorn
  rw [raising_reach]
  by_cases hlookup : fault = some .lookup
  · simp [hlookup, hself]
  simp only [hlookup, ne_eq, not_false_eq_true, true_and, IsEmpty.forall_iff, forall_const,
    raising_read_bind]
  cases hrow : t.db.community[r.auction]? with
  | none => simp [raise, hself]
  | some a =>
    by_cases hmine : r.owner = some r.user
    swap
    · simp [hmine, raise, hself]
    by_cases hunsold : a.status = .unsold
    swap
    · simp [hmine, hunsold, raise, hself]
    simp only [if_pos hmine, if_pos hunsold, raising_check_ok_bind]
    rw [raising_restart hrow hunsold]
    simp [hmine, hunsold]

/-- **A listing that fails leaves the old one intact**, unless it fails after its first commit: for
any tables, request and fault, if the call raises, auctions and bids are as before, exactly if it is
not the case that it gets past its checks and raises at a later bid, at the commit of the row after
bids, or after that commit. -/
theorem failed_listing_intact_iff (t : Tables) (fault : Option Point) :
    (∀ validId r form, ((call (createAuction fault validId r form) t).result.isOk = false →
        Intact t (call (createAuction fault validId r form) t).tables) ↔
      ¬ (validId = true ∧ fault ≠ some .lookup ∧ r.owner = some r.user ∧
        CreateTorn fault r form t)) ∧
    ∀ r, ((call (reAuction fault r) t).result.isOk = false →
        Intact t (call (reAuction fault r) t).tables) ↔
      ¬ (fault ≠ some .lookup ∧ ReAuctionTorn fault r t) :=
  ⟨fun _ _ _ => raising_call.symm.trans raising_createAuction,
    fun _ => raising_call.symm.trans raising_reAuction⟩

/-- The auction of profile 3 of user 7 has ended: user 8 is to pay 500 rupees. -/
def endedWithWinner : Tables where
  db := {
    fees := []
    wallets := .empty
    gateway := .empty
    software := []
    softwareBids := []
    purchases := []
    community := [{
      communityId := 3
      createdBy := 7
      minBidPrice := 10000
      durationDays := 3
      status := .ended
      endTime := some 100
      currentHighestBid := some 50000
      currentWinnerId := some 8
      totalBids := 1
      winnerPaymentOrderId := none
      winnerPaymentId := none
      winnerPaymentPaid := false }]
    communityBids := [⟨0, 8, 50000, 90, true⟩] }
  details := fun _ => ⟨⟨"Design", none, none, none, none, none⟩, some 0, some 100, none, none, true⟩

/-- User 7 lists the profile again and has paid no fee. -/
def unpaidRelisting : CreateRequest where
  communityId := 3
  owner := some 7
  user := 7
  minBidPrice := 20000
  durationDays := 5
  creationFeeOrderId := 0
  feeWaived := false
  now := 200

/-- **A listing without a fee** is refused, and has deleted the bids and the winner of the old one. -/
theorem unpaid_relisting_wipes :
    let o := call (createAuction none true unpaidRelisting
      ⟨"Design", none, none, none, none, none⟩) endedWithWinner
    o.result.isOk = false ∧ o.tables.db.communityBids = [] ∧
      (o.tables.db.community[0]?).map CommunityAuction.status = some .active ∧
      (o.tables.db.community[0]?).bind CommunityAuction.currentWinnerId = none ∧
      ¬ Intact endedWithWinner o.tables := by
  refine ⟨by decide, by decide, by decide, by decide, fun h => absurd h.bids (by decide)⟩

end Deltapreneur.Auction.Relisting

import Deltapreneur.Marketplace.Frame
import Deltapreneur.WinnerPayment.Lifecycle

/-!
# One claim on a domain

The whole life of a domain auction: the calls of `Marketplace/Sales.lean` together with
`re_auction` and `close_auction` (`app/service/auction/auction_service.py:420-531`),
`reject_verification` and `request_more_information`
(`app/service/domain/domain_auction_verification_service.py:216-297`), bids that extend their
auction, and the forfeiture of an unpaid win.

* An auction claims its domain as long as a buyer is or may become entitled to it
  (`AuctionStatus.claims`).
* `create_auction` and `re_auction` look for an auction in `_BLOCKING_STATUSES`. An auction that
  awaits the payment of its winner is not among them.
* The texts of a rejection and of a question are left out, except that they must not be blank.

Results:

* `one_claim_iff`: in every run, every domain is claimed at most once in every state reached,
  exactly if no call opens an auction beside an awaited payment.
* `won_and_drafted`: a seller auctions a domain off again while the winner may still pay.
-/

namespace Deltapreneur.Auction.Domain

open EdgePoints Marketplace Razorpay Transfer

/-! ## Calls -/

/-- `RE_AUCTIONABLE`. -/
def reAuctionable : AuctionStatus → Bool
  | .unsold | .cancelled | .ended => true
  | _ => false

/-- `get_blocking_auction_by_domain` finds one. -/
def blocked (db : Db) (listing : ListingId) : Bool :=
  db.auctions.any fun a => a.domainId = listing && a.status.blocking

structure ReAuctionRequest where
  prior : AuctionId
  /-- `domain_id` of the payload. -/
  listing : ListingId
  actor : UserId
  isAdmin : Bool
  minBidPrice : Option Paise
  /-- `creation_fee_order_id` is a completed creation fee of the actor. -/
  feeValid : Bool
  deriving Repr, DecidableEq

/-- The row `re_auction` inserts. -/
def ReAuctionRequest.auction (r : ReAuctionRequest) (prior : Marketplace.Auction) :
    Marketplace.Auction where
  domainId := r.listing
  createdBy := r.actor
  status := .draft
  minBidPrice := r.minBidPrice.getD prior.minBidPrice
  currentHighestBid := none
  currentWinnerId := none

/-- The listing of a new round goes to the admins again. -/
def resubmit (l : Listing) : Listing :=
  if l.saleType = .auction then { l with verificationStatus := .pending } else l

/-- `re_auction`; an admin pays the fee too. -/
def reAuction (db : Db) (r : ReAuctionRequest) : Outcome :=
  match db.auctions[r.prior]? with
  | none => db.fail "Auction not found." 404
  | some prior =>
    if r.isAdmin = false ∧ prior.createdBy ≠ r.actor then
      db.fail "You do not have permission to modify this auction." 403
    else match db.listings r.listing with
      | none => db.fail "Domain not found." 404
      | some l =>
        if r.isAdmin = false ∧ l.listedByUserId ≠ some r.actor then
          db.fail "You do not have access to this domain." 403
        else if reAuctionable prior.status = false then
          db.fail ("Auction in status " ++ prior.status.value ++ " cannot be re-auctioned.") 409
        else if prior.domainId ≠ r.listing then
          db.fail "domain_id does not match the source auction." 400
        else if blocked db r.listing then
          db.fail "Domain already has an active or pending auction." 409
        else if r.feeValid = false then
          db.fail "Valid auction creation fee payment is required." 402
        else
          ({ db with auctions := db.auctions ++ [r.auction prior] }.editListing r.listing
            resubmit).done

/-- The listing of an auction that was cancelled. -/
def withdraw (l : Listing) : Listing :=
  if l.saleType = .auction then { l with saleType := .oneTime } else l

/-- `close_auction`. -/
def closeAuction (db : Db) (auction : AuctionId) (actor : UserId) (isAdmin forceCancel : Bool)
    (price : Paise) : Outcome :=
  match db.auctions[auction]? with
  | none => db.fail "Auction not found." 404
  | some a =>
    if isAdmin = false ∧ a.createdBy ≠ actor then
      db.fail "You do not have permission to modify this auction." 403
    else if a.status.nonResolvable then
      db.fail ("Auction already in terminal status " ++ a.status.value ++ ".") 409
    else if forceCancel then
      ((db.editAuction auction fun a => { a with status := .cancelled }).editListing a.domainId
        withdraw).done
    else resolveAuction db auction price

/-- `reject_verification`. -/
def rejectVerification (db : Db) (listing : ListingId) (reasonGiven : Bool) : Outcome :=
  match db.listings listing with
  | none => db.fail "Domain listing not found." 404
  | some l =>
    if l.saleType ≠ .auction then
      db.fail "Reject verification applies only to auction domain listings." 400
    else if reasonGiven = false then db.fail "Rejection reason is required." 400
    else
      let rejected := db.editListing listing fun l => { l with verificationStatus := .rejected }
      match db.latestAuction listing with
      | none => rejected.done
      | some i =>
        match (db.auctions[i]?).map Auction.status with
        | some .draft | some .active | some .extended =>
          (rejected.editAuction i fun a => { a with status := .cancelled }).done
        | _ => rejected.done

/-- `request_more_information`. -/
def requestMoreInformation (db : Db) (listing : ListingId) (messageGiven : Bool) : Outcome :=
  match db.listings listing with
  | none => db.fail "Domain listing not found." 404
  | some l =>
    if l.saleType ≠ .auction then
      db.fail "Request more information applies only to auction domain listings." 400
    else if messageGiven = false then db.fail "Message is required." 400
    else (db.editListing listing fun l => { l with verificationStatus := .moreInfoRequested }).done

/-- An accepted bid in the last minutes of a running auction. -/
def extendAuction (db : Db) (auction : AuctionId) (bidder : UserId) (amount : Paise) : Db :=
  match (db.auctions[auction]?).map Auction.status with
  | some .active | some .extended =>
    db.editAuction auction fun a =>
      { a with currentHighestBid := some amount, currentWinnerId := some bidder, status := .extended }
  | _ => db

/-! ## Labels and steps -/

inductive Label
  /-- A call of `Marketplace/Sales.lean`. -/
  | sale (l : Marketplace.Label)
  | reAuction (r : ReAuctionRequest)
  | closeAuction (auction : AuctionId) (actor : UserId) (isAdmin forceCancel : Bool) (price : Paise)
  | rejectVerification (listing : ListingId) (reasonGiven : Bool)
  | requestMoreInformation (listing : ListingId) (messageGiven : Bool)
  | extendAuction (auction : AuctionId) (bidder : UserId) (amount : Paise)
  | forfeit (auction : AuctionId) (price : ListingId → Paise)

/-- The database after one call. -/
def step (db : Db) : Label → Db
  | .sale l => Marketplace.step db l
  | .reAuction r => (reAuction db r).db
  | .closeAuction auction actor isAdmin forceCancel price =>
    (closeAuction db auction actor isAdmin forceCancel price).db
  | .rejectVerification listing reasonGiven => (rejectVerification db listing reasonGiven).db
  | .requestMoreInformation listing messageGiven =>
    (requestMoreInformation db listing messageGiven).db
  | .extendAuction auction bidder amount => extendAuction db auction bidder amount
  | .forfeit auction price => WinnerPayment.forfeitDomain db auction price

/-! ## Claims -/

/-- A buyer is or may become entitled to the domain. -/
def claims : AuctionStatus → Bool
  | .draft | .active | .extended | .paymentPending => true
  | _ => false

/-- No domain is claimed by two auctions. -/
def OneClaim (db : Db) : Prop :=
  ∀ (i j : Nat) (a b : Marketplace.Auction), db.auctions[i]? = some a →
    db.auctions[j]? = some b → a.domainId = b.domainId → claims a.status = true →
      claims b.status = true → i = j

/-- The winner of an auction of the domain may still pay. -/
def awaited (db : Db) (listing : ListingId) : Bool :=
  db.auctions.any fun a => a.domainId = listing && a.status = .paymentPending

/-- `create_auction` passes its checks. -/
def creates (db : Db) (r : CreateAuctionRequest) : Bool :=
  (db.listings r.listing).any (fun l => r.isAdmin ||
    (l.listedByUserId = some r.actor && r.feeOrderGiven && r.feeValid)) &&
  !blocked db r.listing

/-- `re_auction` passes its checks. -/
def recreates (db : Db) (r : ReAuctionRequest) : Bool :=
  (db.auctions[r.prior]?).any (fun prior => (r.isAdmin || prior.createdBy = r.actor) &&
    reAuctionable prior.status && prior.domainId = r.listing) &&
  (db.listings r.listing).any (fun l => r.isAdmin || l.listedByUserId = some r.actor) &&
  !blocked db r.listing && r.feeValid

/-- The call opens an auction of a domain while a winner may still pay for it. -/
def beside (db : Db) : Label → Bool
  | .sale (.createAuction r) => creates db r && awaited db r.listing
  | .reAuction r => recreates db r && awaited db r.listing
  | _ => false

/-! ## What a call does to the auctions -/

def reached : AuctionStatus → Bool
  | .ended | .closed | .takenDown => false
  | _ => true

variable {db db' : Db} {rows rows' : List Marketplace.Auction} {listing : ListingId} {i : Nat}
  {f : Marketplace.Auction → Marketplace.Auction} {l : Label} {new : Marketplace.Auction}

/-- The rows of the table of auctions before and after a call. -/
inductive Change (rows : List Marketplace.Auction) : List Marketplace.Auction → Prop
  | same : Change rows rows
  /-- A draft is inserted for a domain that nothing claims. -/
  | opened (new : Marketplace.Auction) (draft : new.status = .draft)
      (free : ∀ a ∈ rows, a.domainId = new.domainId → claims a.status = false) :
      Change rows (rows ++ [new])
  /-- The latest auction of its domain goes live, perhaps after it was cancelled. -/
  | revived (i : Nat) (a : Marketplace.Auction) (get : rows[i]? = some a)
      (latest : ∀ (j : Nat) (b : Marketplace.Auction), i < j → rows[j]? = some b →
        b.domainId ≠ a.domainId) :
      Change rows (rows.modify i fun a => { a with status := .active })
  /-- An auction goes on or ends. -/
  | moved (i : Nat) (f : Marketplace.Auction → Marketplace.Auction)
      (domain : ∀ a, (f a).domainId = a.domainId)
      (status : ∀ a, rows[i]? = some a → reached a.status = true →
        reached (f a).status = true ∧ (claims (f a).status = true → claims a.status = true)) :
      Change rows (rows.modify i f)

theorem latestAuction_spec (h : db.latestAuction listing = some i) :
    ∃ a, db.auctions[i]? = some a ∧ a.domainId = listing ∧
      ∀ (j : Nat) (b : Marketplace.Auction), i < j → db.auctions[j]? = some b →
        b.domainId ≠ listing := by
  obtain ⟨hi, hlater⟩ := Table.find?_reverse_range h
  obtain ⟨a, hget, ha⟩ := (Option.any_eq_true _ _).mp hi
  refine ⟨a, hget, by simpa using ha, fun j b hj hb hdom => ?_⟩
  have hlt : j < db.auctions.length := (List.getElem?_eq_some_iff.mp hb).1
  have hno := hlater j hj hlt
  rw [hb] at hno
  simp [hdom] at hno

theorem unclaimed (hblocked : blocked db listing = false) (hawaited : awaited db listing = false) :
    ∀ a ∈ db.auctions, a.domainId = listing → claims a.status = false := by
  intro a ha hdom
  unfold blocked at hblocked
  unfold awaited at hawaited
  rw [List.any_eq_false] at hblocked hawaited
  have hb := hblocked a ha
  have hw := hawaited a ha
  cases hst : a.status <;> simp_all [claims, AuctionStatus.blocking]

theorem Change.of_modify {a : Marketplace.Auction} (h : rows' = rows.modify i f)
    (get : rows[i]? = some a) (domain : ∀ a, (f a).domainId = a.domainId)
    (status : reached a.status = true →
      reached (f a).status = true ∧ (claims (f a).status = true → claims a.status = true)) :
    Change rows rows' := by
  rw [h]
  refine .moved i f domain fun b hb hr => ?_
  cases get.symm.trans hb
  exact status hr

theorem Change.of_closed (h : rows' = rows.modify i f) (domain : ∀ a, (f a).domainId = a.domainId)
    (status : ∀ a, reached (f a).status = true ∧ claims (f a).status = false) :
    Change rows rows' := by
  rw [h]
  refine .moved i f domain fun a _ _ => ⟨(status a).1, fun hc => ?_⟩
  rw [(status a).2] at hc
  cases hc

/-! ### Call by call -/

theorem createAuction_auctions (r : CreateAuctionRequest) :
    (createAuction db r).db.auctions =
      if creates db r then db.auctions ++ [r.auction] else db.auctions := by
  unfold createAuction creates
  cases hl : db.listings r.listing with
  | none => simp
  | some l =>
    have hblocked : (db.auctions.any fun a => a.domainId = r.listing && a.status.blocking) =
        blocked db r.listing := rfl
    simp only [Option.any_some, hblocked]
    cases hadm : r.isAdmin <;> split_ifs <;> simp_all [Db.editListing]

theorem reAuction_auctions (db : Db) (r : ReAuctionRequest) :
    (recreates db r = false ∧ (reAuction db r).db.auctions = db.auctions) ∨
      ∃ prior, recreates db r = true ∧
        (reAuction db r).db.auctions = db.auctions ++ [r.auction prior] := by
  unfold reAuction recreates
  cases hp : db.auctions[r.prior]? with
  | none => exact .inl (by simp)
  | some prior =>
    by_cases hactor : r.isAdmin = false ∧ prior.createdBy ≠ r.actor
    · exact .inl (by simp [hactor])
    cases hl : db.listings r.listing with
    | none => exact .inl (by simp [hactor])
    | some l =>
      by_cases howner : r.isAdmin = false ∧ l.listedByUserId ≠ some r.actor
      · refine .inl ⟨by simp [howner], ?_⟩
        dsimp only
        rw [if_neg hactor, if_pos howner]
        rfl
      by_cases hstatus : reAuctionable prior.status = false
      · exact .inl (by simp [hactor, howner, hstatus])
      by_cases hdomain : prior.domainId = r.listing
      · by_cases hblocked : blocked db r.listing = true
        · exact .inl (by simp [hactor, howner, hstatus, hdomain, hblocked])
        by_cases hfee : r.feeValid = false
        · exact .inl (by simp [hactor, howner, hstatus, hdomain, hblocked, hfee])
        refine .inr ⟨prior, ?_, ?_⟩
        · cases hadm : r.isAdmin <;> simp_all
        · simp [hactor, howner, hstatus, hdomain, hblocked, hfee, Db.editListing]
      · exact .inl (by simp [hactor, howner, hstatus, hdomain])

theorem change_createAuction {r : CreateAuctionRequest}
    (hb : (creates db r && awaited db r.listing) = false) :
    Change db.auctions (createAuction db r).db.auctions := by
  rw [createAuction_auctions]
  split_ifs with hcreates
  · rw [hcreates, Bool.true_and] at hb
    simp only [creates, Bool.and_eq_true, Bool.not_eq_true'] at hcreates
    exact .opened r.auction rfl (unclaimed hcreates.2 hb)
  · exact .same

theorem change_reAuction {r : ReAuctionRequest}
    (hb : (recreates db r && awaited db r.listing) = false) :
    Change db.auctions (reAuction db r).db.auctions := by
  rcases reAuction_auctions db r with ⟨-, h⟩ | ⟨prior, hpasses, h⟩
  · rw [h]
    exact .same
  · rw [hpasses, Bool.true_and] at hb
    simp only [recreates, Bool.and_eq_true, Bool.not_eq_true'] at hpasses
    rw [h]
    exact .opened (r.auction prior) rfl (unclaimed hpasses.1.2 hb)

theorem change_approveAndGoLive (listing : ListingId) :
    Change db.auctions (approveAndGoLive db listing).db.auctions := by
  rcases approveAndGoLive_auctions db listing with h | ⟨i, a, hlatest, hget, -, h⟩
  · rw [h]
    exact .same
  · rw [h]
    obtain ⟨a', hget', hdom, hlater⟩ := latestAuction_spec hlatest
    cases hget.symm.trans hget'
    refine .revived i a hget fun j b hj hb => ?_
    rw [hdom]
    exact hlater j b hj hb

theorem change_resolveAuction (auction : AuctionId) (price : Paise) :
    Change db.auctions (resolveAuction db auction price).db.auctions := by
  unfold resolveAuction
  split
  · exact .same
  next a hget =>
  split_ifs with hover hbid
  · exact .same
  · -- a row that can be resolved and is in a status of a domain auction is blocking
    refine .of_modify rfl hget (fun _ => rfl) fun hreached => ⟨rfl, fun _ => ?_⟩
    cases hst : a.status <;> simp_all [reached, claims, AuctionStatus.nonResolvable]
  · refine .of_closed (congrArg Db.auctions restoreAfterNoSale_frame) (fun _ => rfl) fun _ => ?_
    exact ⟨rfl, rfl⟩

theorem change_recordBid (auction : AuctionId) (bidder : UserId) (amount : Paise) :
    Change db.auctions (recordBid db auction bidder amount).auctions := by
  unfold recordBid
  split
  all_goals first
    | exact .moved auction _ (fun _ => rfl) fun a _ hr => ⟨hr, fun hc => hc⟩
    | exact .same

theorem change_extendAuction (auction : AuctionId) (bidder : UserId) (amount : Paise) :
    Change db.auctions (extendAuction db auction bidder amount).auctions := by
  unfold extendAuction
  split
  · next hst =>
    obtain ⟨a, hget, hst⟩ := Option.map_eq_some_iff.mp hst
    exact .of_modify rfl hget (fun _ => rfl) fun _ => ⟨rfl, fun _ => by rw [hst]; rfl⟩
  · next hst =>
    obtain ⟨a, hget, hst⟩ := Option.map_eq_some_iff.mp hst
    exact .of_modify rfl hget (fun _ => rfl) fun _ => ⟨rfl, fun _ => by rw [hst]; rfl⟩
  · exact .same

theorem change_forfeitDomain (auction : AuctionId) (price : ListingId → Paise) :
    Change db.auctions (WinnerPayment.forfeitDomain db auction price).auctions := by
  unfold WinnerPayment.forfeitDomain
  split
  · exact .same
  split_ifs
  · refine .of_closed (congrArg Db.auctions restoreAfterNoSale_frame) (fun _ => rfl) fun _ => ?_
    exact ⟨rfl, rfl⟩
  · exact .same

theorem change_closeAuction (auction : AuctionId) (actor : UserId) (isAdmin forceCancel : Bool)
    (price : Paise) :
    Change db.auctions (closeAuction db auction actor isAdmin forceCancel price).db.auctions := by
  unfold closeAuction
  split
  · exact .same
  split_ifs
  · exact .same
  · exact .same
  · exact .of_closed rfl (fun _ => rfl) fun _ => ⟨rfl, rfl⟩
  · exact change_resolveAuction auction price

theorem change_rejectVerification (listing : ListingId) (reasonGiven : Bool) :
    Change db.auctions (rejectVerification db listing reasonGiven).db.auctions := by
  unfold rejectVerification
  split
  · exact .same
  split_ifs
  · exact .same
  · exact .same
  dsimp only
  split
  · exact .same
  split
  all_goals first
    | exact .same
    | exact .of_closed rfl (fun _ => rfl) fun _ => ⟨rfl, rfl⟩

theorem change_requestMoreInformation (listing : ListingId) (messageGiven : Bool) :
    (requestMoreInformation db listing messageGiven).db.auctions = db.auctions := by
  unfold requestMoreInformation
  split
  · rfl
  split_ifs
  all_goals rfl

theorem change_verifyWinnerPayment (r : VerifyWinnerRequest) :
    Change db.auctions (verifyWinnerPayment db r).db.auctions := by
  rcases verifyWinnerPayment_auctions db r with h | ⟨i, h⟩
  · rw [h]
    exact .same
  · exact .of_closed h (fun _ => rfl) fun _ => ⟨rfl, rfl⟩

/-- **What a call does to the auctions**, if it opens none beside an awaited payment. -/
theorem auctions_step (hb : beside db l = false) : Change db.auctions (step db l).auctions := by
  cases l with
  | sale l =>
    by_cases hof : l.ofAuction = true
    · cases l with
      | createAuction r => exact change_createAuction hb
      | approveAndGoLive listing => exact change_approveAndGoLive listing
      | recordBid auction bidder amount => exact change_recordBid auction bidder amount
      | resolveAuction auction price => exact change_resolveAuction auction price
      | createWinnerOrder r =>
        show Change db.auctions (createWinnerOrder db r).db.auctions
        rw [createWinnerOrder_auctions]
        exact .same
      | verifyWinnerPayment r => exact change_verifyWinnerPayment r
      | _ => cases hof
    · have haside : Aside db (Marketplace.step db l) := aside_step (by simpa using hof)
      show Change db.auctions (Marketplace.step db l).auctions
      rw [haside.auctions]
      exact .same
  | reAuction r => exact change_reAuction hb
  | closeAuction auction actor isAdmin forceCancel price =>
    exact change_closeAuction auction actor isAdmin forceCancel price
  | rejectVerification listing reasonGiven => exact change_rejectVerification listing reasonGiven
  | requestMoreInformation listing messageGiven =>
    show Change db.auctions (requestMoreInformation db listing messageGiven).db.auctions
    rw [change_requestMoreInformation]
    exact .same
  | extendAuction auction bidder amount => exact change_extendAuction auction bidder amount
  | forfeit auction price => exact change_forfeitDomain auction price

/-! ## Every claim is on the latest auction -/

/-- The auctions that claim a domain are the latest of it, and a domain auction never has a status
that `resolve_auction` would bring back. -/
structure Sole (rows : List Marketplace.Auction) : Prop where
  latest : ∀ (i j : Nat) (a b : Marketplace.Auction), rows[i]? = some a →
    claims a.status = true → i < j → rows[j]? = some b → b.domainId ≠ a.domainId
  reached : ∀ a ∈ rows, reached a.status = true

theorem Sole.oneClaim (h : Sole db.auctions) : OneClaim db := by
  intro i j a b ha hb hdom hca hcb
  rcases Nat.lt_trichotomy i j with hij | hij | hij
  · exact absurd hdom.symm (h.latest i j a b ha hca hij hb)
  · exact hij
  · exact absurd hdom (h.latest j i b a hb hcb hij ha)

theorem modify_row {j : Nat} {b : Marketplace.Auction} (h : (rows.modify i f)[j]? = some b) :
    (i ≠ j ∧ rows[j]? = some b) ∨ ∃ a, i = j ∧ rows[i]? = some a ∧ f a = b := by
  rw [List.getElem?_modify] at h
  by_cases hij : i = j
  · subst hij
    obtain ⟨a, ha, hfa⟩ := Option.map_eq_some_iff.mp h
    exact .inr ⟨a, rfl, ha, by simpa using hfa⟩
  · refine .inl ⟨hij, ?_⟩
    simpa [hij] using h

/-- An update keeps the claims as they are if the row it touches either claimed its domain before
or has no later auction beside it. -/
theorem Sole.modify (h : Sole rows) (domain : ∀ a, (f a).domainId = a.domainId)
    (hf : ∀ a, rows[i]? = some a → Domain.reached (f a).status = true ∧
      (claims (f a).status = true → ∀ (j : Nat) (b : Marketplace.Auction), i < j →
        rows[j]? = some b → b.domainId ≠ a.domainId)) : Sole (rows.modify i f) := by
  -- a row of the new table is one of the old table with the same domain
  have hold : ∀ (j : Nat) (b : Marketplace.Auction), (rows.modify i f)[j]? = some b →
      ∃ b', rows[j]? = some b' ∧ b'.domainId = b.domainId := by
    intro j b hb
    rcases modify_row hb with ⟨-, hb⟩ | ⟨a, rfl, ha, rfl⟩
    · exact ⟨b, hb, rfl⟩
    · exact ⟨a, ha, (domain a).symm⟩
  refine ⟨fun j k a b ha hc hjk hb => ?_, fun a ha => ?_⟩
  · obtain ⟨b', hb', hdom⟩ := hold k b hb
    rw [← hdom]
    rcases modify_row ha with ⟨-, ha⟩ | ⟨a', rfl, ha', rfl⟩
    · exact h.latest j k a b' ha hc hjk hb'
    · rw [domain]
      exact (hf a' ha').2 hc k b' hjk hb'
  · obtain ⟨j, hj⟩ := List.mem_iff_getElem?.mp ha
    rcases modify_row hj with ⟨-, hj⟩ | ⟨a', rfl, ha', rfl⟩
    · exact h.reached a (List.mem_of_getElem? hj)
    · exact (hf a' ha').1

theorem Sole.append (h : Sole rows) (hnew : Domain.reached new.status = true)
    (hfree : ∀ a ∈ rows, a.domainId = new.domainId → claims a.status = false) :
    Sole (rows ++ [new]) := by
  have hrow : ∀ (j : Nat) (b : Marketplace.Auction), (rows ++ [new])[j]? = some b →
      rows[j]? = some b ∨ (j = rows.length ∧ b = new) := by
    intro j b hb
    rcases Nat.lt_or_ge j rows.length with hj | hj
    · rw [List.getElem?_append_left hj] at hb
      exact .inl hb
    · rw [List.getElem?_append_right hj] at hb
      obtain ⟨hlt, hget⟩ := List.getElem?_eq_some_iff.mp hb
      rw [List.length_singleton] at hlt
      exact .inr ⟨by omega, by simpa using hget.symm⟩
  refine ⟨fun i j a b ha hc hij hb => ?_, fun a ha => ?_⟩
  · rcases hrow i a ha with hi | ⟨hi, -⟩
    · rcases hrow j b hb with hj | ⟨-, hj⟩
      · exact h.latest i j a b hi hc hij hj
      · intro hdom
        rw [hfree a (List.mem_of_getElem? hi) (by rw [← hdom, hj])] at hc
        cases hc
    · have hlt : j < (rows ++ [new]).length := (List.getElem?_eq_some_iff.mp hb).1
      rw [List.length_append, List.length_singleton] at hlt
      omega
  · rcases List.mem_append.mp ha with ha | ha
    · exact h.reached a ha
    · rw [List.mem_singleton.mp ha]
      exact hnew

theorem Sole.change (h : Sole rows) (hc : Change rows rows') : Sole rows' := by
  cases hc with
  | same => exact h
  | opened new draft free => exact h.append (by rw [draft]; rfl) free
  | revived i a get latest =>
    refine h.modify (fun _ => rfl) fun a' get' => ⟨rfl, fun _ => ?_⟩
    cases get.symm.trans get'
    exact latest
  | moved i f domain status =>
    refine h.modify domain fun a get => ?_
    obtain ⟨hreached, hclaims⟩ := status a get (h.reached a (List.mem_of_getElem? get))
    exact ⟨hreached, fun hc j b => h.latest i j a b get (hclaims hc)⟩

/-! ## Runs -/

/-- **The step lemma.** -/
theorem sole_step (h : Sole db.auctions) (hb : beside db l = false) : Sole (step db l).auctions :=
  h.change (auctions_step hb)

theorem not_oneClaim_append (hw : awaited db new.domainId = true) (hnew : claims new.status = true)
    (h : db'.auctions = db.auctions ++ [new]) : ¬ OneClaim db' := by
  intro hone
  obtain ⟨a, ha, hst⟩ := List.any_eq_true.mp hw
  simp only [Bool.and_eq_true, decide_eq_true_eq] at hst
  obtain ⟨i, hi⟩ := List.mem_iff_getElem?.mp ha
  have hlt : i < db.auctions.length := (List.getElem?_eq_some_iff.mp hi).1
  have hold : db'.auctions[i]? = some a := by rw [h, List.getElem?_append_left hlt, hi]
  have hlast : db'.auctions[db.auctions.length]? = some new := by rw [h]; simp
  have heq := hone i db.auctions.length a new hold hlast hst.1 (by rw [hst.2]; rfl) hnew
  exact absurd heq (Nat.ne_of_lt hlt)

theorem not_oneClaim_step (hb : beside db l = true) : ¬ OneClaim (step db l) := by
  cases l with
  | sale l =>
    cases l with
    | createAuction r =>
      obtain ⟨hcreates, hw⟩ := Bool.and_eq_true_iff.mp hb
      have hrow : (createAuction db r).db.auctions = db.auctions ++ [r.auction] := by
        rw [createAuction_auctions, if_pos hcreates]
      exact not_oneClaim_append hw rfl hrow
    | _ => cases hb
  | reAuction r =>
    obtain ⟨hpasses, hw⟩ := Bool.and_eq_true_iff.mp hb
    rcases reAuction_auctions db r with ⟨hno, -⟩ | ⟨prior, -, h⟩
    · rw [hno] at hpasses
      cases hpasses
    · exact not_oneClaim_append hw rfl h
  | _ => cases hb

/-- **One claim on a domain at a time.** From a database without auctions, in every run, no domain
is claimed by two auctions in any state reached, exactly if no call of the run opens an auction of
a domain while the winner of another may still pay. -/
theorem one_claim_iff {db : Db} (hnew : db.auctions = []) (ls : List Label) :
    Run.AllSteps step (fun _ _ db' => OneClaim db') db ls ↔
      Run.Meets step (fun db l => beside db l = false) db ls := by
  constructor
  · intro h
    rw [Run.Meets, Run.allSteps_iff]
    rw [Run.allSteps_iff] at h
    intro pre l post heq
    by_contra hb
    exact not_oneClaim_step (by simpa using hb) (h pre l post heq)
  · have hinit : Sole db.auctions := by
      rw [hnew]
      exact ⟨fun i j a b ha => by simp at ha, fun a ha => by simp at ha⟩
    intro h
    exact Run.allSteps_of_inv (P := fun db : Db => Sole db.auctions)
      (fun s l hs hb => sole_step hs hb) (fun s l hs hb => (sole_step hs hb).oneClaim) hinit h

/-- User 1 wins the auction of listing 0, and the seller takes a second attempt at it only after
the win was forfeited. -/
def auctionedTwice : List Label :=
  [.sale (.createAuction ⟨0, 9, false, 1000, true, true⟩), .sale (.approveAndGoLive 0),
    .extendAuction 0 1 50000, .sale (.resolveAuction 0 0), .forfeit 0 fun _ => 0,
    .reAuction ⟨0, 0, 9, false, none, true⟩]

theorem one_claim_auctionedTwice :
    Run.AllSteps step (fun _ _ db' => OneClaim db') oneListing auctionedTwice :=
  (one_claim_iff rfl auctionedTwice).mpr (by decide)

/-- User 1 wins the auction of listing 0, and the seller creates another before the payment. -/
def auctionedBeforePaid : List Label :=
  [.sale (.createAuction ⟨0, 9, false, 1000, true, true⟩), .sale (.approveAndGoLive 0),
    .sale (.recordBid 0 1 50000), .sale (.resolveAuction 0 0),
    .sale (.createAuction ⟨0, 9, false, 1000, true, true⟩)]

/-- The winner may still pay for the first auction, and the second one is about to run. -/
theorem won_and_drafted :
    (Run.exec step oneListing auctionedBeforePaid).auctions.map (fun a => (a.domainId, a.status)) =
        [(0, .paymentPending), (0, .draft)] ∧
      ¬ OneClaim (Run.exec step oneListing auctionedBeforePaid) := by
  have hrows : (Run.exec step oneListing auctionedBeforePaid).auctions =
      [⟨0, 9, .paymentPending, 1000, some 50000, some 1⟩, ⟨0, 9, .draft, 1000, none, none⟩] := by
    decide
  refine ⟨by rw [hrows]; rfl, fun hone => ?_⟩
  have hfirst := congrArg (fun rows => rows[0]?) hrows
  have hsecond := congrArg (fun rows => rows[1]?) hrows
  have heq := hone 0 1 _ _ hfirst hsecond rfl rfl rfl
  exact absurd heq (by decide)

end Deltapreneur.Auction.Domain

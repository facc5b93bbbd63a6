import Deltapreneur.Auction.Rounds
import Deltapreneur.Marketplace.Sales

/-!
# All services on one database

Domain sales (`Marketplace/Sales.lean`), fees and the auctions of software and community profiles
(`Auction/Rounds.lean`), and the fee of a bid on a domain auction, on the same wallets and the same
gateway. Users present any triples at any time, in any order.
-/

namespace Deltapreneur.Services

open EdgePoints Marketplace Auction

/-- The tables of both systems; wallets and gateway are those of `market`. -/
structure Db where
  market : Marketplace.Db
  fees : List FeePayment
  software : List SoftwareAuction
  softwareBids : List BidRow
  purchases : List OrderId
  community : List CommunityAuction
  communityBids : List BidRow

def Db.wallets (db : Db) : Wallets := db.market.wallets

def Db.feeTables (db : Db) : FeeTables := ⟨db.fees, db.market.wallets, db.market.gateway⟩

/-- The tables of the auction services. -/
def Db.auctions (db : Db) : AuctionDb where
  toFeeTables := db.feeTables
  software := db.software
  softwareBids := db.softwareBids
  purchases := db.purchases
  community := db.community
  communityBids := db.communityBids

/-- The tables after a call of the fee services. -/
def Db.putFees (db : Db) (t : FeeTables) : Db :=
  { db with
    market := { db.market with wallets := t.wallets, gateway := t.gateway }
    fees := t.fees }

/-- The tables after a call of the auction services. -/
def Db.putAuctions (db : Db) (a : AuctionDb) : Db :=
  { db.putFees a.toFeeTables with
    software := a.software
    softwareBids := a.softwareBids
    purchases := a.purchases
    community := a.community
    communityBids := a.communityBids }

/-- A bid on a domain auction that has got as far as its fee. -/
structure DomainBid where
  auction : AuctionId
  bidder : UserId
  amount : Paise
  fee : Triple
  /-- The rest of `place_bid` goes through. -/
  placed : Bool
  deriving Repr, DecidableEq

/-- The fee of a domain bid: verified, then consumed with the bid or rolled back with it. -/
def domainBidFee (t : FeeTables) (r : DomainBid) : FeeTables × Except AppException Unit :=
  let fee := verifyBidFeePayment t .domain r.auction r.bidder r.fee r.amount
  match fee.result with
  | .error e => (fee.committed, .error e)
  | .ok () =>
    if r.placed then (fee.session.consumeBidFee r.fee.order, .ok ())
    else (fee.committed, raise "Auction creator cannot bid on their own auction." 403)

inductive Label
  | market (l : Marketplace.Label)
  | auction (l : Auction.Label)
  | domainBid (r : DomainBid)

/-- The tables after one call. -/
def step (db : Db) : Label → Db
  | .market l => { db with market := Marketplace.step db.market l }
  | .auction l => db.putAuctions (Auction.step db.auctions l)
  | .domainBid r => db.putFees (domainBidFee db.feeTables r).1

end Deltapreneur.Services

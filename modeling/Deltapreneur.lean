import Deltapreneur.EdgePoints.Interleaving
import Deltapreneur.Marketplace.AddonPrice
import Deltapreneur.Marketplace.DoubleSale
import Deltapreneur.Auction.RoundWinner
import Deltapreneur.Auction.WinnerBinding
import Deltapreneur.Discount.Once
import Deltapreneur.Auction.CreationFees
import Deltapreneur.WinnerPayment.FeeRefund
import Deltapreneur.Cart.Priced
import Deltapreneur.Cart.Managed
import Deltapreneur.Marketplace.WinnerOrders
import Deltapreneur.Transfer.TickRace
import Deltapreneur.Technology.OrderedOnce
import Deltapreneur.WinnerPayment.Relist
import Deltapreneur.Storefront.Refunded
import Deltapreneur.Storefront.PaidOnly
import Deltapreneur.Storefront.Ownership
import Deltapreneur.Storefront.CartRefunds
import Deltapreneur.Storefront.TransferRefunds
import Deltapreneur.Storefront.Checkout
import Deltapreneur.Storefront.Recorded
import Deltapreneur.Meetings.DoubleBooking
import Deltapreneur.Auth.RotationLaws
import Deltapreneur.Registrar.OneLogin
import Deltapreneur.Storefront.AddonRecord
import Deltapreneur.Auth.Takeover
import Deltapreneur.Auth.CleanCut
import Deltapreneur.Registrar.DnsEdits
import Deltapreneur.TldSearch.Paging
import Deltapreneur.TldSearch.OnePrice
import Deltapreneur.Venture.OneDeal
import Deltapreneur.Venture.Escrow
import Deltapreneur.Venture.Reopened
import Deltapreneur.Platform.Agreement
import Deltapreneur.TldSearch.Poison
import Deltapreneur.Currency.BelowCost
import Deltapreneur.Storefront.CodeRelease
import Deltapreneur.Creator.Eligibility
import Deltapreneur.Creator.LinkedInCallback
import Deltapreneur.Realtime.Delivery
import Deltapreneur.Payout.Approved
import Deltapreneur.Referral.Counter
import Deltapreneur.Referral.RateLimiter
import Deltapreneur.Auth.RevealOtp
import Deltapreneur.Technology.ProductMapper
import Deltapreneur.Technology.StoredCredentials
import Deltapreneur.Technology.AccessEmail
import Deltapreneur.Assistant.OneLive
import Deltapreneur.Marketplace.SaleShares
import Deltapreneur.Auction.AntiSnipe
import Deltapreneur.Auction.BidWindow
import Deltapreneur.WinnerPayment.Registry
import Deltapreneur.Auction.RejectedBid
import Deltapreneur.Auction.Relisting
import Deltapreneur.Auction.FeeTwins
import Deltapreneur.Marketplace.Failures
import Deltapreneur.Transfer.DisputeResolution
import Deltapreneur.Referral.Rewards
import Deltapreneur.Cart.Stamps
import Deltapreneur.EdgePoints.Chargeable
import Deltapreneur.Cart.Cancelled
import Deltapreneur.TldSearch.DomainLabel
import Deltapreneur.Currency.CommissionConfig
import Deltapreneur.Technology.RefundedCharge
import Deltapreneur.Marketplace.ListingViews

import Deltapreneur.Auction.PlaceBid

/-!
# Expiry sweeps against bids

Any number of sweeps over one auction, interleaved with its bids (`PlaceBid.lean`) on a clock that
only goes forward. A sweep reads the candidates whose end has passed and later closes each of them;
a bid that was checked before the end may commit in between and extend the auction. The services
differ in what a sweep reads again before it writes, which a `Sweeper` collects.

* A sweep's write waits for the row lock and commits; nothing gets between the two, so they are one
  step.
* A sweep may be given up at any point.

Results:

* `inv_step`: candidates had ended when they were found, and a committed bid shows in the row.
* `no_cut_off`: in every run whose sweeps write over the auction they have read, no sweep closes an
  auction before its committed end or marks one UNSOLD that has a bid.
-/

namespace Deltapreneur.Auction.Sweep

open Marketplace PlaceBid

/-! ## Sweeps -/

/-- What is particular to the sweep of a service with auction rows `ρ`. -/
structure Sweeper (ρ : Type) where
  status : ρ → AuctionStatus
  endTime : ρ → Option Time
  /-- The candidate query takes the row. -/
  expired : ρ → Time → Bool
  /-- Closing works on the object that the candidate query loaded, not on the locked row. -/
  cached : Bool
  /-- The commit of another candidate expires the object: its attributes are read again. -/
  rereads : Bool
  /-- The row says that there is a bid. -/
  counts : ρ → Bool
  /-- Closing: object, committed row, bids; `none` when the sweep leaves the auction alone. -/
  close : ρ → ρ → List Bid → Option (ρ × List Bid)

/-- A candidate of a sweep: the row as the query found it and the object as it is now. -/
structure Candidate (ρ : Type) where
  found : ρ
  object : ρ
  deriving Repr, DecidableEq

/-- The auction with its bids, the clock and the sweeps that have taken the auction up. -/
structure State (ρ : Type) where
  auction : PlaceBid.State ρ
  clock : Time
  sweeps : Nat → Option (Candidate ρ)

inductive Label
  | bid (l : PlaceBid.Label)
  | pass (seconds : Nat)
  /-- The candidate query of sweep `j`. -/
  | collect (j : Nat)
  | reread (j : Nat)
  | close (j : Nat)
  | giveUp (j : Nat)
  deriving Repr

/-- A step of a bid reads the clock. -/
def atTime (now : Time) : PlaceBid.Label → PlaceBid.Label
  | .verify k g => .verify k { g with now := now }
  | .clear k _ => .clear k now
  | l => l

variable {ρ : Type} (v : Service ρ) (w : Sweeper ρ)

def State.setSweep (s : State ρ) (j : Nat) (c : Option (Candidate ρ)) : State ρ :=
  { s with sweeps := Function.update s.sweeps j c }

/-- The row and the bids a sweep leaves. -/
def State.write (s : State ρ) (row : ρ) (bids : List Bid) : State ρ :=
  { s with auction := { s.auction with row := row, bids := bids } }

def step (s : State ρ) : Label → State ρ
  | .bid l => { s with auction := PlaceBid.step v s.auction (atTime s.clock l) }
  | .pass seconds => { s with clock := s.clock + seconds }
  | .collect j =>
    if w.expired s.auction.row s.clock then s.setSweep j (some ⟨s.auction.row, s.auction.row⟩) else s
  | .reread j =>
    match s.sweeps j with
    | some c => if w.rereads then s.setSweep j (some ⟨c.found, s.auction.row⟩) else s
    | none => s
  | .close j =>
    match s.sweeps j, s.auction.lock with
    | some c, none =>
      match w.close (if w.cached then c.object else s.auction.row) s.auction.row s.auction.bids with
      | some (row, bids) => (s.write row bids).setSweep j none
      | none => s.setSweep j none
    | _, _ => s
  | .giveUp j => s.setSweep j none

/-! ## Cutting off -/

/-- The auction takes bids. -/
def State.live (s : State ρ) : Bool := (w.status s.auction.row).live

/-- A sweep that closes a running auction does so at its committed end or later, and one that marks
an auction UNSOLD finds no bid. -/
def NoCutOff (s : State ρ) (l : Label) (s' : State ρ) : Prop :=
  match l with
  | .close _ =>
    (s.live w = true → s'.live w = false →
      (w.endTime s.auction.row).any (· ≤ s.clock) = true) ∧
    (w.status s'.auction.row = .unsold → w.status s.auction.row ≠ .unsold → s.auction.bids = [])
  | _ => True

instance (s : State ρ) (l : Label) (s' : State ρ) : Decidable (NoCutOff w s l s') :=
  match l with
  | .close _ => inferInstanceAs (Decidable (_ ∧ _))
  | .bid _ | .pass _ | .collect _ | .reread _ | .giveUp _ => .isTrue trivial

/-- What the sweep has read is still committed: the end, and the object it works on. -/
def Candidate.Undisturbed (c : Candidate ρ) (row : ρ) : Prop :=
  w.endTime row = w.endTime c.found ∧ (w.cached = true → c.object = row)

/-- The condition on a step: a sweep closes an auction undisturbed. -/
def Undisturbed (s : State ρ) : Label → Prop
  | .close j => ∀ c ∈ s.sweeps j, c.Undisturbed w s.auction.row
  | _ => True

instance [DecidableEq ρ] (s : State ρ) : (l : Label) → Decidable (Undisturbed w s l)
  | .close j =>
    match h : s.sweeps j with
    | none => .isTrue (by simp [Undisturbed, h])
    | some c =>
      decidable_of_iff (w.endTime s.auction.row = w.endTime c.found ∧
        (w.cached = true → c.object = s.auction.row)) (by simp [Undisturbed, h, Candidate.Undisturbed])
  | .bid _ | .pass _ | .collect _ | .reread _ | .giveUp _ => .isTrue trivial

/-! ## What a sweeper must be like -/

/-- The part of a service's code that its sweep relies on. -/
structure Lawful : Prop where
  /-- A candidate has ended. -/
  expired_le : ∀ a now, w.expired a now = true → (w.endTime a).any (· ≤ now) = true
  /-- A committed bid shows in the row. -/
  counts_bid : ∀ loaded r g t now row, v.validate loaded r g = .ok () →
    w.counts (v.flush loaded (v.bidOn r t now loaded) row) = true
  /-- Closing keeps the bids, and what the row says of them. -/
  counts_close : ∀ {object row bids row' bids'}, w.close object row bids = some (row', bids') →
    w.counts row' = w.counts row ∧ (bids = [] → bids' = [])
  /-- UNSOLD is for auctions without bids, as far as the code can see. -/
  unsold_close : ∀ {object row bids row' bids'}, w.close object row bids = some (row', bids') →
    w.status row' = .unsold →
      w.status row = .unsold ∨ bids = [] ∨ (w.cached = true ∧ w.counts object = false)

/-! ## The invariant -/

/-- What request `k` is about to write shows a bid. -/
def Counting : Phase ρ → Prop
  | .verified r loaded _ => ∃ g, v.validate loaded r g = .ok ()
  | .cleared r loaded new _ | .flushed r loaded new _ =>
    ∃ g t now, v.validate loaded r g = .ok () ∧ new = v.bidOn r t now loaded
  | .idle | .locked _ _ => True

structure Inv (s : State ρ) : Prop where
  /-- Candidates had ended when they were found. -/
  found : ∀ j, ∀ c ∈ s.sweeps j, (w.endTime c.found).any (· ≤ s.clock) = true
  /-- A bid shows in the row. -/
  counts : s.auction.bids ≠ [] → w.counts s.auction.row = true
  requests : ∀ k, Counting v (s.auction.requests k)

variable {v w} {s s' : State ρ} {a a' : PlaceBid.State ρ} {p p' : Phase ρ}

theorem Counting.move (hmove : Moves v a p p') (h : Counting v p) : Counting v p' := by
  cases hmove with
  | finish p => trivial
  | lock r hfree => trivial
  | verify r loaded g hv => exact ⟨g, hv⟩
  | clear r loaded checked now =>
    obtain ⟨g, hg⟩ := h
    exact ⟨g, checked, now, hg, rfl⟩
  | flush r loaded new flags => exact h

theorem counting_step (hlaw : Lawful v w) {l : PlaceBid.Label} (h : BidStep v a l a')
    (hcounts : a.bids ≠ [] → w.counts a.row = true) (hreq : ∀ k, Counting v (a.requests k)) :
    (a'.bids ≠ [] → w.counts a'.row = true) ∧ ∀ k, Counting v (a'.requests k) := by
  have hupdate (j : Nat) (p : Phase ρ) (hp : Counting v p) :
      ∀ k, Counting v (Function.update a.requests j p k) :=
    (Function.forall_update_iff a.requests fun _ p => Counting v p).mpr ⟨hp, fun k _ => hreq k⟩
  cases h with
  | same a' hrow hbids hr =>
    rw [hrow, hbids, hr]
    exact ⟨hcounts, hreq⟩
  | move a' j p hl hmove hrow hbids hr =>
    rw [hrow, hbids, hr]
    exact ⟨hcounts, hupdate j p ((hreq j).move hmove)⟩
  | commit j r loaded new flags hl hk =>
    refine ⟨fun _ => ?_, hupdate j .idle trivial⟩
    have hnew := hreq j
    rw [hk] at hnew
    obtain ⟨g, t, now, hg, rfl⟩ := hnew
    exact hlaw.counts_bid loaded r g t now a.row hg

theorem Inv.setSweep (h : Inv v w s) {j : Nat} {c : Option (Candidate ρ)}
    (hc : ∀ x ∈ c, (w.endTime x.found).any (· ≤ s.clock) = true) : Inv v w (s.setSweep j c) := by
  refine ⟨?_, h.counts, h.requests⟩
  exact (Function.forall_update_iff s.sweeps fun _ c =>
    ∀ x ∈ c, (w.endTime x.found).any (· ≤ s.clock) = true).mpr ⟨hc, fun i _ => h.found i⟩

theorem any_le_mono {e : Option Time} {t t' : Time} (h : e.any (· ≤ t) = true) (ht : t ≤ t') :
    e.any (· ≤ t') = true := by
  cases e with
  | none => cases h
  | some x =>
    simp only [Option.any_some, decide_eq_true_eq] at h ⊢
    exact h.trans ht

/-- **Every step keeps the invariant.** -/
theorem inv_step (hlaw : Lawful v w) (s : State ρ) (l : Label) (h : Inv v w s) :
    Inv v w (step v w s l) := by
  cases l with
  | bid l =>
    obtain ⟨hcounts, hreq⟩ :=
      counting_step hlaw (bidStep_step v s.auction (atTime s.clock l)) h.counts h.requests
    exact ⟨h.found, hcounts, hreq⟩
  | pass seconds =>
    exact ⟨fun j c hc => any_le_mono (h.found j c hc) (Nat.le_add_right _ _), h.counts, h.requests⟩
  | collect j =>
    simp only [step]
    split
    · next hexp =>
      refine h.setSweep fun x hx => ?_
      cases hx
      exact hlaw.expired_le _ _ hexp
    · exact h
  | reread j =>
    simp only [step]
    split
    · next c hc =>
      split
      · refine h.setSweep fun x hx => ?_
        cases hx
        exact h.found j c hc
      · exact h
    · exact h
  | close j =>
    simp only [step]
    split
    · next c hc hfree =>
      split
      · next row bids hclose =>
        obtain ⟨hrow, hbids⟩ := hlaw.counts_close hclose
        have hwrite : Inv v w (s.write row bids) :=
          ⟨h.found, fun hne => hrow.trans (h.counts fun hnil => hne (hbids hnil)), h.requests⟩
        exact hwrite.setSweep (by simp)
      · exact h.setSweep (by simp)
    · exact h
  | giveUp j => exact h.setSweep (by simp)

theorem noCutOff_step (hlaw : Lawful v w) (s : State ρ) (l : Label) (h : Inv v w s)
    (hok : Undisturbed w s l) : NoCutOff w s l (step v w s l) := by
  cases l with
  | close j =>
    have unchanged {s' : State ρ} (heq : s'.auction.row = s.auction.row) :
        NoCutOff w s (.close j) s' := by
      refine ⟨fun hlive hdead => ?_, fun hnew hold => ?_⟩
      · rw [State.live, heq] at hdead
        cases hlive.symm.trans hdead
      · rw [heq] at hnew
        exact absurd hnew hold
    simp only [step]
    split
    · next c hc hfree =>
      obtain ⟨hend, hobject⟩ := hok c hc
      split
      · next row bids hclose =>
        refine ⟨fun _ _ => ?_, fun hnew hold => ?_⟩
        · rw [hend]
          exact h.found j c hc
        · rcases hlaw.unsold_close hclose hnew with hun | hnil | ⟨hcached, hzero⟩
          · exact absurd hun hold
          · exact hnil
          · -- the object shows no bid, and it is the committed row
            rw [if_pos hcached, hobject hcached] at hzero
            by_contra hne
            cases (h.counts hne).symm.trans hzero
      · exact unchanged rfl
    · exact unchanged rfl
  | _ => trivial

/-- An auction without bids, requests and sweeps. -/
def State.opened (auction : AuctionId) (row : ρ) (fees : FeeTables) (clock : Time) : State ρ :=
  ⟨.opened auction row fees, clock, fun _ => none⟩

theorem inv_opened {auction : AuctionId} {row : ρ} {fees : FeeTables} {clock : Time} :
    Inv v w (.opened auction row fees clock) :=
  ⟨fun _ _ hc => absurd hc (by simp [State.opened]), fun hne => absurd rfl hne, fun _ => trivial⟩

/-- **No sweep cuts a bid off** in a run whose sweeps close undisturbed. -/
theorem no_cut_off (hlaw : Lawful v w) {auction : AuctionId} {row : ρ} {fees : FeeTables}
    {clock : Time} {ls : List Label}
    (h : Run.Meets (step v w) (Undisturbed w) (.opened auction row fees clock) ls) :
    Run.AllSteps (step v w) (NoCutOff w) (.opened auction row fees clock) ls :=
  Run.allSteps_of_inv (fun s l hs _ => inv_step hlaw s l hs)
    (fun s l hs hok => noCutOff_step hlaw s l hs hok) inv_opened h

end Deltapreneur.Auction.Sweep

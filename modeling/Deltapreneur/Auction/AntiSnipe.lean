import Deltapreneur.Auction.BidFees

/-!
# The anti-snipe extension over all bids

`apply_anti_snipe` (`app/utils/auction_place_bid_common.py:56-74`) as the three services call it
(`app/service/auction/bid_service.py:162-193`,
`app/service/cocreation/software_auction_service.py:291-302`,
`app/service/community/community_auction_service.py:949-960`): what the bids since an auction went
live have made of its end and its status.

* An auction goes live with `end_time = original_end_time` and the status `ACTIVE`
  (`domain_auction_verification_service.py:199-202`, `software_auction_service.py:184-187, 466-469,
  718-721`, `community_auction_service.py:534-538, 824-830, 1090-1093`). No bid writes
  `original_end_time`.
* The domain service decides with a second look at the clock, the other two with the time of their
  checks (`decidedAt`).
* A bid at the end or after it, and one five minutes before it or earlier, extends nothing.

Results:

* `anti_snipe_law`: for whole requests one after another, accepted, rejected or cut off anywhere.
* `law_unredeemed`: for requests in any interleaving, as long as no verification commits.
-/

namespace Deltapreneur.Auction.PlaceBid

open EdgePoints Marketplace UnitOfWork

variable {t : FeeAuctionType} {loaded new : Row t} {requests : Nat → Phase (Row t)}
  {decided : Nat → Time} {k : Nat} {p : Phase (Row t)} {r : Request} {g : Guards} {l : Label}
  {s : State (Row t)}

/-! ## The columns -/

/-- The column `end_time`. -/
def endTime : (t : FeeAuctionType) → Row t → Option Time
  | .domain => fun a : DomainRow => some a.endTime
  | .software => SoftwareAuction.endTime
  | .community => CommunityAuction.endTime

/-- The column `status`. -/
def status : (t : FeeAuctionType) → Row t → AuctionStatus
  | .domain => DomainRow.status
  | .software => SoftwareAuction.status
  | .community => CommunityAuction.status

/-- The time `apply_anti_snipe` is given: the second look at the clock or the first. -/
def decidedAt (checked now : Time) : FeeAuctionType → Time
  | .domain => now
  | .software | .community => checked

/-- The decision on a row. -/
def snipe (t : FeeAuctionType) (row : Row t) (now : Time) : Option Time × AuctionStatus × Bool :=
  applyAntiSnipe (endTime t row) now (status t row)

/-- The object has end and status as decided. -/
structure Sniped (t : FeeAuctionType) (loaded new : Row t) (now : Time) : Prop where
  endsAt : endTime t new = (snipe t loaded now).1
  isIn : status t new = (snipe t loaded now).2.1

theorem sniped_bidOn (r : Request) (checked now : Time) (a : Row t) :
    Sniped t a ((service t).bidOn r checked now a) (decidedAt checked now t) := by
  cases t with
  | domain =>
    refine ⟨?_, rfl⟩
    show some ((applyAntiSnipe (some (DomainRow.endTime a)) now (DomainRow.status a)).1.getD _) =
      (applyAntiSnipe (some (DomainRow.endTime a)) now (DomainRow.status a)).1
    unfold applyAntiSnipe
    dsimp only
    split_ifs <;> rfl
  | software => exact ⟨rfl, rfl⟩
  | community => exact ⟨rfl, rfl⟩

theorem Sniped.flush {now : Time} (h : Sniped t loaded new now) :
    Sniped t loaded ((service t).flush loaded new loaded) now := by
  have hcolumns : endTime t ((service t).flush loaded new loaded) = endTime t new ∧
      status t ((service t).flush loaded new loaded) = status t new := by
    cases t with
    | domain => exact ⟨congrArg some (flushColumn_fresh _ _), flushColumn_fresh _ _⟩
    | software => exact ⟨flushColumn_fresh _ _, flushColumn_fresh _ _⟩
    | community => exact ⟨flushColumn_fresh _ _, flushColumn_fresh _ _⟩
  exact ⟨hcolumns.1.trans h.endsAt, hcolumns.2.trans h.isIn⟩

/-! ## Following an auction -/

/-- An auction with its requests, the time of each request's decision, and the number of accepted
bids that have extended it. -/
structure Followed (t : FeeAuctionType) where
  state : State (Row t)
  decided : Nat → Time
  extensions : Nat

/-- The step commits a bid whose decision was to extend. -/
def Extends (w : Followed t) : Label → Bool
  | .commit k =>
    match w.state.requests k with
    | .flushed _ loaded _ _ => (snipe t loaded (w.decided k)).2.2
    | _ => false
  | _ => false

/-- One step, with the decision taken down at step 3 of a request. -/
def follow (w : Followed t) (l : Label) : Followed t where
  state := step (service t) w.state l
  decided := match l with
    | .clear k now =>
      match w.state.requests k with
      | .verified _ _ checked => Function.update w.decided k (decidedAt checked now t)
      | _ => w.decided
    | _ => w.decided
  extensions := w.extensions + (Extends w l).toNat

/-- An auction that has just gone live. -/
structure GoneLive (t : FeeAuctionType) where
  row : Row t
  originalEndTime : Option Time
  active : status t row = .active
  whole : endTime t row = originalEndTime

/-- No bids yet. -/
def GoneLive.opened (a : GoneLive t) (auction : AuctionId) (fees : FeeTables) : Followed t :=
  ⟨.opened auction a.row fees, fun _ => 0, 0⟩

/-- **The law.** The end is the original one plus five minutes for each bid that extended it, and
the status tells whether there was one. -/
structure Law (originalEndTime : Option Time) (w : Followed t) : Prop where
  endsAt : endTime t w.state.row =
    originalEndTime.map (· + antiSnipeExtension * w.extensions)
  isIn : status t w.state.row = if w.extensions = 0 then .active else .extended

/-- What a step does to the end: it is never earlier, and after a bid that was decided before the
end it is five minutes away at least. -/
structure EndKept (w : Followed t) (l : Label) (w' : Followed t) : Prop where
  mono : ∀ e ∈ endTime t w.state.row, ∃ e' ∈ endTime t w'.state.row, e ≤ e'
  reach : ∀ k r, l = .commit k → accepts w.state l = some r →
    ∀ e ∈ endTime t w.state.row, w.decided k < e →
      ∃ e' ∈ endTime t w'.state.row, w.decided k + antiSnipeWindow ≤ e'

/-! ## One decision -/

variable {originalEndTime : Option Time} {w : Followed t} {n : Nat} {now : Time}

theorem applyAntiSnipe_law :
    applyAntiSnipe (originalEndTime.map (· + antiSnipeExtension * n)) now
        (if n = 0 then .active else .extended) =
      let extended := (applyAntiSnipe (originalEndTime.map (· + antiSnipeExtension * n)) now
        (if n = 0 then .active else .extended)).2.2
      (originalEndTime.map (· + antiSnipeExtension * (n + extended.toNat)),
        if n + extended.toNat = 0 then .active else .extended, extended) := by
  cases originalEndTime with
  | none => rfl
  | some o =>
    simp only [Option.map_some, applyAntiSnipe]
    split_ifs <;> simp_all [Nat.mul_succ, Nat.add_assoc]

theorem applyAntiSnipe_mono {e : Time} {s : AuctionStatus} :
    ∃ e' ∈ (applyAntiSnipe (some e) now s).1, e ≤ e' ∧ (now < e → now + antiSnipeWindow ≤ e') := by
  simp only [applyAntiSnipe]
  split_ifs with hover hnear
  · exact ⟨e, rfl, le_rfl, fun h => absurd h (Nat.not_lt.mpr hover)⟩
  · exact ⟨e + antiSnipeExtension, rfl, Nat.le_add_right _ _, fun h => Nat.add_le_add_right h.le _⟩
  · exact ⟨e, rfl, le_rfl, fun h => Nat.add_le_of_le_sub' h.le (Nat.not_lt.mp hnear)⟩

/-! ## Steps -/

/-- End and status of the object of a request that is about to write are as it has decided. -/
def Phase.Decided (now : Time) : Phase (Row t) → Prop
  | .cleared _ loaded new _ | .flushed _ loaded new _ => Sniped t loaded new now
  | .idle | .locked _ _ | .verified _ _ _ => True

/-- Every object of a request in flight is as it has decided. -/
def AllDecided (w : Followed t) : Prop := ∀ k, (w.state.requests k).Decided (w.decided k)

/-- The condition on a step: the row is as the committing request has loaded it. -/
def FreshCommit (w : Followed t) : Label → Prop
  | .commit k => ∀ r loaded new flags, w.state.requests k = .flushed r loaded new flags →
      loaded = w.state.row
  | _ => True

theorem AllDecided.decide (h : ∀ j, (requests j).Decided (decided j)) (hp : p.Decided now) :
    ∀ j, (Function.update requests k p j).Decided (Function.update decided k now j) := by
  intro j
  by_cases hjk : j = k
  · subst hjk
    rwa [Function.update_self, Function.update_self]
  · rw [Function.update_of_ne hjk, Function.update_of_ne hjk]
    exact h j

theorem AllDecided.update (h : ∀ j, (requests j).Decided (decided j)) (hp : p.Decided (decided k)) :
    ∀ j, (Function.update requests k p j).Decided (decided j) := by
  have hdecide := AllDecided.decide (k := k) h hp
  rwa [Function.update_eq_self] at hdecide

theorem allDecided_verify (h : AllDecided w) :
    ∀ j, ((verify (service t) w.state k r loaded g).requests j).Decided (w.decided j) := by
  unfold verify
  split
  · exact AllDecided.update h trivial
  · dsimp only
    split
    · exact AllDecided.update h trivial
    · split <;> exact AllDecided.update h trivial

/-- **Every step keeps what the requests have decided.** -/
theorem allDecided_follow (w : Followed t) (l : Label) (h : AllDecided w) :
    AllDecided (follow w l) := by
  unfold AllDecided
  cases l with
  | lock k r =>
    simp only [follow, step]
    split
    · exact AllDecided.update h trivial
    · exact h
  | verify k g =>
    simp only [follow, step]
    split
    · exact allDecided_verify h
    · exact h
  | clear k now =>
    cases hk : w.state.requests k with
    | verified r loaded checked =>
      simp only [follow, step, hk]
      split
      · exact AllDecided.decide h trivial
      · exact AllDecided.decide h (sniped_bidOn r checked now loaded)
    | _ =>
      simp only [follow, step, hk]
      exact h
  | flush k =>
    simp only [follow, step]
    split
    · next r loaded new flags hk =>
      have hnew : Sniped t loaded new (w.decided k) := by
        have hdecided := h k
        rwa [hk] at hdecided
      split
      · exact AllDecided.update h hnew
      · exact h
    · exact h
  | commit k =>
    simp only [follow, step]
    split
    · exact AllDecided.update h trivial
    · exact h
  | abort k => exact AllDecided.update h trivial
  | bidFeeOrder r amount => exact h
  | capture order => exact h
  | award user points => exact h

/-- Only a commit writes the row. -/
theorem follow_row (h : ∀ k, l = .commit k → accepts w.state l = none) :
    (follow w l).state.row = w.state.row ∧ (follow w l).extensions = w.extensions := by
  constructor
  · have hstep := bidStep_step (service t) w.state l
    show (step (service t) w.state l).row = w.state.row
    generalize step (service t) w.state l = s' at hstep
    cases hstep with
    | same s' hrow hbids hreq => exact hrow
    | move s' k p hl hmove hrow hbids hreq => exact hrow
    | commit k r loaded new flags hl hk =>
      have hnone := h k hl
      rw [hl] at hnone
      simp [accepts, hk] at hnone
  · cases l with
    | commit k =>
      have hnone := h k rfl
      simp only [accepts] at hnone
      simp only [follow, Extends]
      split
      · next r loaded new flags hk =>
        rw [hk] at hnone
        cases hnone
      · rfl
    | _ => rfl

theorem follow_commit {flags : List Nat} (hk : w.state.requests k = .flushed r loaded new flags) :
    (follow w (.commit k)).state.row = (service t).flush loaded new w.state.row ∧
      (follow w (.commit k)).extensions =
        w.extensions + (snipe t loaded (w.decided k)).2.2.toNat := by
  constructor
  · simp only [follow, step, hk]
    rfl
  · simp only [follow, Extends, hk]

/-- The invariant of a run. -/
structure Lawful (originalEndTime : Option Time) (w : Followed t) : Prop where
  law : Law originalEndTime w
  decided : AllDecided w

/-- A bid that is written over the row it has read keeps the law and moves the end as it should. -/
theorem law_commit {flags : List Nat} (h : Lawful originalEndTime w)
    (hk : w.state.requests k = .flushed r w.state.row new flags) :
    Law originalEndTime (follow w (.commit k)) ∧
      EndKept w (.commit k) (follow w (.commit k)) := by
  have hnew : Sniped t w.state.row new (w.decided k) := by
    have hdecided := h.decided k
    rwa [hk] at hdecided
  obtain ⟨hrow, hcount⟩ := follow_commit hk
  have hflush := hnew.flush
  rw [← hrow] at hflush
  have hlaw : snipe t w.state.row (w.decided k) =
      (originalEndTime.map (· + antiSnipeExtension * (follow w (.commit k)).extensions),
        if (follow w (.commit k)).extensions = 0 then .active else .extended,
        (snipe t w.state.row (w.decided k)).2.2) := by
    rw [hcount]
    unfold snipe
    rw [h.law.endsAt, h.law.isIn]
    exact applyAntiSnipe_law
  refine ⟨⟨?_, ?_⟩, ?_⟩
  · rw [hflush.endsAt, hlaw]
  · rw [hflush.isIn, hlaw]
  · have hmono : ∀ e ∈ endTime t w.state.row,
        ∃ e' ∈ endTime t (follow w (.commit k)).state.row,
          e ≤ e' ∧ (w.decided k < e → w.decided k + antiSnipeWindow ≤ e') := by
      intro e he
      rw [hflush.endsAt, snipe, Option.mem_def.mp he]
      exact applyAntiSnipe_mono
    constructor
    · intro e he
      obtain ⟨e', he', hle, -⟩ := hmono e he
      exact ⟨e', he', hle⟩
    · rintro j r' hj - e he hlt
      obtain rfl := Label.commit.inj hj
      obtain ⟨e', he', -, hreach⟩ := hmono e he
      exact ⟨e', he', hreach hlt⟩

/-- **Every fresh step keeps the law and the end.** -/
theorem law_follow (w : Followed t) (l : Label) (h : Lawful originalEndTime w)
    (hfresh : FreshCommit w l) :
    Lawful originalEndTime (follow w l) ∧ EndKept w l (follow w l) := by
  by_cases hbid : ∃ k r new flags, l = .commit k ∧
      w.state.requests k = .flushed r w.state.row new flags
  · obtain ⟨k, r, new, flags, rfl, hk⟩ := hbid
    obtain ⟨hlaw, hkept⟩ := law_commit h hk
    exact ⟨⟨hlaw, allDecided_follow w _ h.decided⟩, hkept⟩
  · -- nothing is written
    have hnone : ∀ k, l = .commit k → accepts w.state l = none := by
      rintro k rfl
      simp only [accepts]
      split
      · next r loaded new flags hk =>
        obtain rfl := hfresh r loaded new flags hk
        exact absurd ⟨k, r, new, flags, rfl, hk⟩ hbid
      · rfl
    obtain ⟨hrow, hcount⟩ := follow_row hnone
    refine ⟨⟨⟨?_, ?_⟩, allDecided_follow w l h.decided⟩, ?_, ?_⟩
    · rw [hrow, hcount]
      exact h.law.endsAt
    · rw [hrow, hcount]
      exact h.law.isIn
    · intro e he
      rw [hrow]
      exact ⟨e, he, le_rfl⟩
    · intro k r hl haccept
      rw [hnone k hl] at haccept
      cases haccept

theorem lawful_opened (a : GoneLive t) (auction : AuctionId) (fees : FeeTables) :
    Lawful a.originalEndTime (a.opened auction fees) := by
  refine ⟨⟨?_, a.active⟩, fun k => trivial⟩
  show endTime t a.row = _
  rw [a.whole]
  cases a.originalEndTime <;> rfl

/-- The law and the end over a run. -/
def Abides (a : GoneLive t) (auction : AuctionId) (fees : FeeTables) (ls : List Label) : Prop :=
  Run.AllSteps follow (EndKept (t := t)) (a.opened auction fees) ls ∧
    Law a.originalEndTime (Run.exec follow (a.opened auction fees) ls)

theorem abides_of_fresh {a : GoneLive t} {auction : AuctionId} {fees : FeeTables} {ls : List Label}
    (h : Run.Meets follow FreshCommit (a.opened auction fees) ls) : Abides a auction fees ls := by
  have hopened := lawful_opened a auction fees
  constructor
  · exact Run.allSteps_of_inv (fun w l hw hl => (law_follow w l hw hl).1)
      (fun w l hw hl => (law_follow w l hw hl).2) hopened h
  · exact (Run.exec_inv (fun w l hw hl => (law_follow w l hw hl).1) hopened h).law

/-! ## Whole requests -/

/-- What happens to the auction and around it, one after another. -/
inductive Turn
  /-- A `place_bid` request, which an error cuts off after `steps` of its steps; then its session is
  closed. Five steps are all. -/
  | placeBid (k : Nat) (r : Request) (g : Guards) (now : Time) (steps : Nat)
  | bidFeeOrder (r : FeeOrderRequest) (bidAmount : Paise)
  | capture (order : OrderId)
  | award (user : UserId) (points : Nat)

/-- The steps of a turn. -/
def Turn.labels : Turn → List Label
  | .placeBid k r g now steps =>
    [Label.lock k r, .verify k g, .clear k now, .flush k, .commit k].take steps ++ [.abort k]
  | .bidFeeOrder r bidAmount => [.bidFeeOrder r bidAmount]
  | .capture order => [.capture order]
  | .award user points => [.award user points]

/-- Request `k` is alone, and what it has read is the row. -/
structure Alone (k : Nat) (s : State (Row t)) : Prop where
  idle : ∀ j, j ≠ k → s.requests j = .idle
  row : ∀ a, (s.requests k).heldRow = some a → a = s.row

theorem alone_of_quiet (h : s.Quiet) (k : Nat) : Alone k s := by
  refine ⟨fun j _ => h j, fun a ha => ?_⟩
  rw [h k] at ha
  cases ha

/-- Its own steps leave a request alone. -/
theorem alone_step (h : Alone k s) (hl : l.request = some k) : Alone k (step (service t) s l) := by
  have hstep := bidStep_step (service t) s l
  generalize step (service t) s l = s' at hstep
  cases hstep with
  | same s' hrow hbids hreq => exact ⟨by rw [hreq]; exact h.idle, by rw [hreq, hrow]; exact h.row⟩
  | move s' j p hj hmove hrow hbids hreq =>
    obtain rfl : j = k := Option.some.inj (hj.symm.trans hl)
    refine ⟨fun i hi => ?_, ?_⟩
    · rw [hreq, Function.update_of_ne hi]
      exact h.idle i hi
    · rw [hreq, Function.update_self, hrow]
      have hheld := h.row
      generalize s.requests j = q at hmove hheld
      cases hmove with
      | finish p => exact fun a ha => absurd ha (by simp [Phase.heldRow])
      | lock r hfree => exact fun a ha => (Option.some.inj ha).symm
      | _ => exact hheld
  | commit j r loaded new flags hj hk =>
    obtain rfl : j = k := by
      subst hj
      exact Option.some.inj hl
    refine ⟨fun i hi => ?_, fun a ha => ?_⟩
    · exact (Function.update_of_ne hi _ _).trans (h.idle i hi)
    · simp [State.finish, State.setRequest, Phase.heldRow] at ha

theorem fresh_of_alone (h : Alone k w.state) (hl : l.request = some k) : FreshCommit w l := by
  cases l with
  | commit j =>
    cases hl
    intro r loaded new flags hk
    exact h.row loaded (by rw [hk]; rfl)
  | _ => trivial

theorem request_of_mem_labels {steps : Nat} (h : l ∈ (Turn.placeBid k r g now steps).labels) :
    l.request = some k := by
  rcases List.mem_append.mp h with htake | habort
  · have hmem := List.mem_of_mem_take htake
    simp only [List.mem_cons, List.not_mem_nil, or_false] at hmem
    rcases hmem with rfl | rfl | rfl | rfl | rfl <;> rfl
  · rw [List.mem_singleton.mp habort]
    rfl

/-- A whole request is fresh, and leaves no request behind. -/
theorem fresh_placeBid {steps : Nat} (hquiet : w.state.Quiet) :
    Run.Meets follow FreshCommit w (Turn.placeBid k r g now steps).labels ∧
      (Run.exec follow w (Turn.placeBid k r g now steps).labels).state.Quiet := by
  have halone := alone_of_quiet hquiet k
  have hown : Run.Meets follow (fun _ l => l.request = some k) w
      (Turn.placeBid k r g now steps).labels :=
    Run.meets_of_forall w fun l => request_of_mem_labels
  have hkeep : ∀ (w : Followed t) l, Alone k w.state → l.request = some k →
      Alone k (follow w l).state := fun w l h hl => alone_step h hl
  refine ⟨Run.allSteps_of_inv hkeep (fun w l h hl => fresh_of_alone h hl) halone hown, ?_⟩
  rw [Turn.labels, Run.meets_append] at hown
  rw [Turn.labels, Run.exec_append, Run.exec_cons, Run.exec_nil]
  have hlast := Run.exec_inv hkeep halone hown.1
  generalize Run.exec follow w _ = last at hlast ⊢
  intro j
  show Function.update last.state.requests k .idle j = .idle
  by_cases hjk : j = k
  · rw [hjk, Function.update_self]
  · rw [Function.update_of_ne hjk]
    exact hlast.idle j hjk

theorem fresh_turns : ∀ {w : Followed t} (turns : List Turn), w.state.Quiet →
    Run.Meets follow FreshCommit w (turns.flatMap Turn.labels)
  | _, [], _ => trivial
  | w, turn :: turns, hquiet => by
    rw [List.flatMap_cons, Run.meets_append]
    have hturn : Run.Meets follow FreshCommit w turn.labels ∧
        (Run.exec follow w turn.labels).state.Quiet := by
      cases turn with
      | placeBid k r g now steps => exact fresh_placeBid hquiet
      | _ => exact ⟨⟨trivial, trivial⟩, hquiet⟩
    exact ⟨hturn.1, fresh_turns turns hturn.2⟩

/-- **The anti-snipe law.** Whatever requests come one after another, and whatever becomes of
them: the end never moves back, after a bid that was decided before the end it is five minutes away
at least, and at any time end and status tell how many bids have extended the auction. -/
theorem anti_snipe_law (t : FeeAuctionType) (a : GoneLive t) (auction : AuctionId)
    (fees : FeeTables) (turns : List Turn) : Abides a auction fees (turns.flatMap Turn.labels) :=
  abides_of_fresh (fresh_turns turns fun _ => rfl)

/-- **The same for requests at the same time**, while the lock keeps them apart. -/
theorem law_unredeemed (a : GoneLive t) (auction : AuctionId) (fees : FeeTables) (ls : List Label)
    (h : Run.Meets follow (fun w l => Unredeemed (service t) w.state l) (a.opened auction fees) ls) :
    Abides a auction fees ls := by
  have hexclusive : Exclusive (a.opened auction fees).state := exclusive_of_quiet fun _ => rfl
  refine abides_of_fresh (Run.allSteps_of_inv (P := fun w => Exclusive w.state)
    (fun w l => exclusive_step w.state l) (fun w l hw _ => ?_) hexclusive h)
  cases l with
  | commit k =>
    intro r loaded new flags hk
    exact (hw k loaded (by rw [hk]; rfl)).2
  | _ => trivial

/-- A domain auction until 1000, with two requests at a time. -/
theorem law_unredeemed_waiting :
    Abides (t := .domain) ⟨(⟨9, 10000, .active, 1000, none, none, 0⟩ : DomainRow), some 1000, rfl, rfl⟩ 0
      ⟨[], .empty, .empty⟩
      [.bidFeeOrder ⟨.domain, 1, 11800, false, true⟩ 12000, .capture 0,
        .lock 0 ⟨1, 12000, ⟨0, 0, true⟩⟩, .lock 1 ⟨2, 14000, ⟨1, 1, true⟩⟩,
        .verify 0 ⟨900, true, true, none⟩, .clear 0 901, .flush 0, .commit 0] :=
  law_unredeemed _ 0 _ _
    ⟨trivial, trivial, trivial, trivial, rfl, trivial, trivial, trivial, trivial⟩

end Deltapreneur.Auction.PlaceBid

import Mathlib.Algebra.Order.Ring.Rat
import Mathlib.Tactic.Linarith
import Deltapreneur.Lib.Run

/-!
# Views of domain listings

Model of `record_domain_listing_view` (`app/service/marketplace/listing_view_counter.py:22-124`) in
one worker process, whose clock does not go back. The random cleaning of the cache and the owner of
the listing are part of a request. Left out: admin deletions, the analytics columns.

Result:

* `viewed_once`: no account has two views of a listing, no address two within the cooldown.
-/

namespace Deltapreneur.ListingViews

open Run

def COOLDOWN_SECONDS : ℚ := 600

/-- `auth_view:{entity_id}:{viewer.id}` and `anon_view:{entity_id}:{client_ip}`. -/
inductive CacheKey
  | auth (entityId viewerId : ℕ)
  | anon (entityId : ℕ) (clientIp : String)
  deriving Repr, DecidableEq

structure Worker where
  clock : ℚ
  cache : CacheKey → Option ℚ
  /-- `domain_listing_views`: listing and viewer. -/
  rows : List (ℕ × Option ℕ)
  /-- When the process counted a view under a key. -/
  counted : CacheKey → List ℚ

structure Request where
  listingId : ℕ
  owner : Option ℕ
  viewer : Option ℕ
  clientIp : Option String
  now : ℚ
  clean : Bool

def cleanCooldownCache (now : ℚ) (cache : CacheKey → Option ℚ) : CacheKey → Option ℚ :=
  fun k => (cache k).filter fun v => ¬ COOLDOWN_SECONDS < now - v

def isOwner (r : Request) : Bool := r.viewer.isSome && r.owner == r.viewer

def viewerHasViewed (w : Worker) (listingId viewerId : ℕ) : Bool :=
  (listingId, some viewerId) ∈ w.rows

def Request.cacheKey (r : Request) : Option CacheKey :=
  match r.viewer, r.clientIp with
  | some viewer, _ => some (.auth r.listingId viewer)
  | none, none | none, some "" => none
  | none, some ip => some (.anon r.listingId ip)

/-- `record_domain_listing_view` after a cleaning. -/
def Worker.count (w : Worker) (r : Request) : Worker :=
  let row := (r.listingId, r.viewer)
  match r.cacheKey with
  | none => { w with rows := w.rows ++ [row] }
  | some k =>
    if (w.cache k).any fun v => w.clock - v < COOLDOWN_SECONDS then w
    else
      let cache := Function.update w.cache k (some w.clock)
      if r.viewer.any (viewerHasViewed w r.listingId) then { w with cache }
      else
        { w with
          cache, rows := w.rows ++ [row]
          counted := Function.update w.counted k (w.counted k ++ [w.clock]) }

/-- A request, or a restart of the process. -/
def Worker.step (w : Worker) : Option Request → Worker
  | none => { w with cache := fun _ => none, counted := fun _ => [] }
  | some r =>
    if isOwner r then w else
    let now := max w.clock r.now
    let cache := if r.clean then cleanCooldownCache now w.cache else w.cache
    { w with clock := now, cache }.count r

def Worker.start : Worker := ⟨0, fun _ => none, [], fun _ => []⟩

/-! ## What a request keeps -/

/-- The views are a cooldown apart, and each is remembered or a cooldown old. -/
def Kept (now : ℚ) (cached : Option ℚ) (log : List ℚ) : Prop :=
  log.Pairwise (fun a b => a + COOLDOWN_SECONDS ≤ b) ∧
    ∀ t ∈ log, t + COOLDOWN_SECONDS ≤ now ∨ ∃ v ∈ cached, t ≤ v

structure Worker.Sound (w : Worker) : Prop where
  once (l v : ℕ) : w.rows.count (l, some v) ≤ 1
  kept (k : CacheKey) : Kept w.clock (w.cache k) (w.counted k)

variable {w : Worker} {now : ℚ} {log : List ℚ}

theorem Kept.later {c : Option ℚ} {t : ℚ} (h : Kept now c log) (hle : now ≤ t) : Kept t c log :=
  ⟨h.1, fun t ht => (h.2 t ht).imp_left (·.trans hle)⟩

theorem Kept.clean {cache : CacheKey → Option ℚ} {k : CacheKey} (h : Kept now (cache k) log) :
    Kept now (cleanCooldownCache now cache k) log := by
  refine ⟨h.1, fun t ht => ?_⟩
  obtain hold | ⟨v, hv, hle⟩ := h.2 t ht
  · exact .inl hold
  · by_cases hgone : COOLDOWN_SECONDS < now - v
    · exact .inl (by linarith)
    · exact .inr ⟨v, Option.mem_filter_iff.mpr ⟨hv, decide_eq_true hgone⟩, hle⟩

theorem Worker.Sound.count (h : w.Sound) (r : Request) : (w.count r).Sound := by
  have honce (hnew : ∀ v, r.viewer = some v → (r.listingId, some v) ∉ w.rows) (l v : ℕ) :
      (w.rows ++ [(r.listingId, r.viewer)]).count (l, some v) ≤ 1 := by
    by_cases heq : (r.listingId, r.viewer) = (l, some v)
    · obtain ⟨rfl, hv⟩ := Prod.mk.inj heq
      simp [hv, List.count_eq_zero.mpr (hnew v hv)]
    · simpa [List.count_cons, heq] using h.once l v
  unfold Worker.count
  dsimp only
  split
  case h_1 hkey =>
    -- Without a key there is no viewer.
    exact ⟨honce fun v hv => by simp [Request.cacheKey, hv] at hkey, h.kept⟩
  case h_2 k hkey =>
    split
    · exact h
    case isFalse hfree =>
      -- What was counted under the key is a cooldown old.
      have hdue : ∀ t ∈ w.counted k, t + COOLDOWN_SECONDS ≤ w.clock := by
        intro t ht
        obtain hold | ⟨v, hv, hle⟩ := (h.kept k).2 t ht
        · exact hold
        · have : ¬ w.clock - v < COOLDOWN_SECONDS := by simpa [Option.mem_def.mp hv] using hfree
          linarith
      split
      · refine ⟨h.once, fun x => ?_⟩
        by_cases hx : x = k
        · subst hx
          exact ⟨(h.kept x).1, fun t ht => .inl (hdue t ht)⟩
        · simpa [hx] using h.kept x
      case isFalse hnot =>
        refine ⟨honce fun v hv hmem => hnot (by simpa [hv, viewerHasViewed] using hmem),
          fun x => ?_⟩
        by_cases hx : x = k
        · subst hx
          simpa [Kept, List.pairwise_append, or_imp, forall_and, (h.kept x).1] using
            ⟨hdue, fun t ht => Or.inl (hdue t ht)⟩
        · simpa [hx] using h.kept x

theorem Worker.Sound.step (h : w.Sound) (e : Option Request) : (w.step e).Sound := by
  cases e with
  | none => exact ⟨h.once, fun k => ⟨.nil, fun _ ht => absurd ht List.not_mem_nil⟩⟩
  | some r =>
    simp only [Worker.step]
    split
    · exact h
    · apply Worker.Sound.count
      refine ⟨h.once, fun k => ?_⟩
      have hlater := (h.kept k).later (le_max_left w.clock r.now)
      dsimp only
      split
      · exact hlater.clean
      · exact hlater

/-- **A view is counted once**: after any requests and restarts, no account has two views of a
listing, and the views that the process counted for one account or address are a cooldown apart. -/
theorem viewed_once (events : List (Option Request)) (listingId viewerId : ℕ) (k : CacheKey) :
    let w := exec Worker.step .start events
    w.rows.count (listingId, some viewerId) ≤ 1 ∧
      (w.counted k).Pairwise (fun a b => a + COOLDOWN_SECONDS ≤ b) := by
  have hrun : (exec Worker.step .start events).Sound :=
    exec_preserves (fun _ e h => h.step e) events
      ⟨fun _ _ => Nat.zero_le 1, fun k => ⟨.nil, fun _ ht => absurd ht List.not_mem_nil⟩⟩
  exact ⟨hrun.once _ _, (hrun.kept k).1⟩

end Deltapreneur.ListingViews

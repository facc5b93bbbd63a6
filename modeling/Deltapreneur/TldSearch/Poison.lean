import Deltapreneur.TldSearch.BatchCheck
import Mathlib.Data.List.ProdSigma

/-!
# A poisoned extension hides no other

What a search in batches returns, if the registrar refuses every priced request with a poisoned
item and any request may fail transiently (`Scan.Answers`):

* a batch raises just if some request on the way to its items stays unanswered (`Throttled`), and
  otherwise it returns one result for each item that is healthy or recovered, in order
  (`checkIsolated_spec`);
* the search over extensions, with its second pass over the batches that raised, returns one
  result for each such extension and no other, unless a batch raised and no extension has a
  result (`poison_isolated_iff`). There the search raises, though the second pass has checked
  everything (`dropped_extension_raises`).
-/

namespace Deltapreneur.BatchCheck

open RegistrationPrice (Text)
open Windows (windows)

variable {ι ρ : Type} {S : Scan ι ρ} {P : ι → Prop} {key : ρ → ι} {idx : ℕ} {chunk items : List ι}
  {withPrice : Bool} {v : Except Raised (List ρ)} {b : ℕ × List ι} {tlds : List Text}

/-! ## The registrar -/

/-- The registrar answers a priced request with a poison code if there is a poisoned item in it,
and otherwise with one result for each item, in order. Without prices it may have no result for an
item. Any attempt may fail transiently. -/
structure Scan.Answers (S : Scan ι ρ) (P : ι → Prop) (key : ρ → ι) : Prop where
  poison : ∀ idx chunk attempt, (∃ x ∈ chunk, P x) →
    judge (S.post idx true chunk attempt) = none ∨
      ∃ message, judge (S.post idx true chunk attempt) = some (.error (.poison message))
  priced : ∀ idx chunk attempt, (∀ x ∈ chunk, ¬ P x) →
    judge (S.post idx true chunk attempt) = none ∨
      ∃ results, judge (S.post idx true chunk attempt) = some (.ok results) ∧
        results.map key = chunk
  priceless : ∀ idx x attempt results,
    judge (S.post idx false [x] attempt) = some (.ok results) →
      results = [] ∨ results.map key = [x]

/-- A request on the way to the items of the chunk fails transiently at every attempt: the one for
the chunk, or, with a poisoned item in the chunk, one on the way to the items of a half. -/
inductive Scan.Throttled (S : Scan ι ρ) (P : ι → Prop) (idx : ℕ) : List ι → Prop
  | here {chunk : List ι} (h : S.verdict idx true chunk = none) : S.Throttled P idx chunk
  | left {chunk : List ι} (hbad : ∃ x ∈ chunk, P x) (hlen : 1 < chunk.length)
      (h : S.Throttled P idx (chunk.take (chunk.length / 2))) : S.Throttled P idx chunk
  | right {chunk : List ι} (hbad : ∃ x ∈ chunk, P x) (hlen : 1 < chunk.length)
      (h : S.Throttled P idx (chunk.drop (chunk.length / 2))) : S.Throttled P idx chunk

/-- The price-less request for the item alone succeeds. -/
def Scan.Recovers (S : Scan ι ρ) (idx : ℕ) (x : ι) : Prop :=
  ∃ results, S.verdict idx false [x] = some (.ok results) ∧ results ≠ []

/-- The item has a result: it is healthy, or recovered. -/
def Scan.Yields (S : Scan ι ρ) (P : ι → Prop) (idx : ℕ) (x : ι) : Prop :=
  ¬ P x ∨ S.Recovers idx x

section Decided

open scoped Classical

/-- The items of the batches that raise on the first pass. -/
noncomputable def Scan.missing (S : Scan ι ρ) (P : ι → Prop) (items : List ι) : List ι :=
  ((numbered 0 items).filter fun b => S.Throttled P b.1 b.2).flatMap (·.2)

/-- The batches that return their results: those of the first pass that do not raise, and those of
the second pass. -/
noncomputable def Scan.decided (S : Scan ι ρ) (P : ι → Prop) (items : List ι) :
    List (ℕ × List ι) :=
  (numbered 0 items).filter (fun b => ¬ S.Throttled P b.1 b.2) ++
    numbered (totalBatches items) (S.missing P items)

end Decided

/-! ## The property and its condition -/

/-- One result for each healthy item, at most one for a poisoned one and just one if its
price-less request succeeds, and no other results; in input order if no batch raises. -/
structure Scan.Isolates [DecidableEq ι] (S : Scan ι ρ) (P : ι → Prop) (key : ρ → ι)
    (items : List ι) (results : List ρ) : Prop where
  healthy : ∀ x ∈ items, ¬ P x → (results.map key).count x = 1
  poisoned : ∀ x ∈ items, P x → (results.map key).count x ≤ 1
  recovered : ∀ b ∈ S.decided P items, ∀ x ∈ b.2, P x → S.Recovers b.1 x →
    (results.map key).count x = 1
  only : ∀ r ∈ results, key r ∈ items
  ordered : (∀ b ∈ numbered 0 items, ¬ S.Throttled P b.1 b.2) → (results.map key).Sublist items

/-- No batch raises on the first pass, or some item has a result. -/
def Scan.Settled (S : Scan ι ρ) (P : ι → Prop) (items : List ι) : Prop :=
  (∀ b ∈ numbered 0 items, ¬ S.Throttled P b.1 b.2) ∨
    ∃ b ∈ S.decided P items, ∃ x ∈ b.2, S.Yields P b.1 x

/-! ## A batch -/

theorem judge_of_verdict (h : S.verdict idx withPrice chunk = some v) :
    ∃ attempt, judge (S.post idx withPrice chunk attempt) = some v := by
  obtain ⟨attempt, -, hattempt⟩ := List.exists_of_findSome?_eq_some h
  exact ⟨attempt, hattempt⟩

theorem verdict_poison (idx : ℕ) (h : S.Answers P key) (hbad : ∃ x ∈ chunk, P x) :
    S.verdict idx true chunk = none ∨
      ∃ message, S.verdict idx true chunk = some (.error (.poison message)) := by
  cases hv : S.verdict idx true chunk with
  | none => exact .inl rfl
  | some v =>
    obtain ⟨attempt, hattempt⟩ := judge_of_verdict hv
    rcases h.poison idx chunk attempt hbad with hnone | ⟨message, hm⟩
    · rw [hnone] at hattempt
      cases hattempt
    · rw [hm] at hattempt
      exact .inr ⟨message, by rw [← hattempt]⟩

theorem verdict_priced (idx : ℕ) (h : S.Answers P key) (hgood : ∀ x ∈ chunk, ¬ P x) :
    S.verdict idx true chunk = none ∨
      ∃ results, S.verdict idx true chunk = some (.ok results) ∧ results.map key = chunk := by
  cases hv : S.verdict idx true chunk with
  | none => exact .inl rfl
  | some v =>
    obtain ⟨attempt, hattempt⟩ := judge_of_verdict hv
    rcases h.priced idx chunk attempt hgood with hnone | ⟨results, hr, hkey⟩
    · rw [hnone] at hattempt
      cases hattempt
    · rw [hr] at hattempt
      exact .inr ⟨results, by rw [← hattempt], hkey⟩

theorem checkChunk_none (h : S.verdict idx withPrice chunk = none) :
    S.checkChunk idx withPrice chunk = .error (.runtimeError (S.gaveUp idx)) := by
  rw [Scan.checkChunk, h, Option.getD_none]

theorem checkChunk_some (h : S.verdict idx withPrice chunk = some v) :
    S.checkChunk idx withPrice chunk = v := by
  rw [Scan.checkChunk, h, Option.getD_some]

open scoped Classical in
/-- The fallback for a poisoned item returns its result if there is one. -/
theorem fallback_spec (h : S.Answers P key) {x : ι} (hx : P x) :
    ∃ results, (match S.checkChunk idx false [x] with
      | .ok fallback => Except.ok fallback
      | .error _ => .ok []) = (.ok results : Except Text (List ρ)) ∧
      results.map key = [x].filter fun y => S.Yields P idx y := by
  by_cases hrec : S.Recovers idx x
  · obtain ⟨results, hv, hne⟩ := hrec
    obtain ⟨attempt, hattempt⟩ := judge_of_verdict hv
    refine ⟨results, by rw [checkChunk_some hv], ?_⟩
    have hyields : S.Yields P idx x := .inr ⟨results, hv, hne⟩
    simp [(h.priceless idx x attempt results hattempt).resolve_left hne, hyields]
  · have hno : ¬ S.Yields P idx x := fun hy => hy.elim (· hx) hrec
    refine ⟨[], ?_, by simp [hno]⟩
    cases hv : S.verdict idx false [x] with
    | none => rw [checkChunk_none hv]
    | some v =>
      rw [checkChunk_some hv]
      cases v with
      | error _ => rfl
      | ok results =>
        have hnil : results = [] := by
          by_contra hne
          exact hrec ⟨results, hv, hne⟩
        rw [hnil]

open scoped Classical in
/-- **A batch raises just if it is throttled; otherwise it returns one result for each item that
has one, in order.** -/
theorem checkIsolated_spec (idx : ℕ) (h : S.Answers P key) (hne : chunk ≠ []) :
    (S.Throttled P idx chunk ∧ S.checkIsolated idx chunk = .error (S.gaveUp idx)) ∨
      (¬ S.Throttled P idx chunk ∧ ∃ results, S.checkIsolated idx chunk = .ok results ∧
        results.map key = chunk.filter fun x => S.Yields P idx x) := by
  induction hn : chunk.length using Nat.strong_induction_on generalizing chunk with
  | _ n ih =>
  subst hn
  rw [Scan.checkIsolated]
  by_cases hbad : ∃ x ∈ chunk, P x
  · rcases verdict_poison idx h hbad with hnone | ⟨message, hv⟩
    · rw [checkChunk_none hnone]
      exact .inl ⟨.here hnone, rfl⟩
    rw [checkChunk_some hv]
    have hhere : S.verdict idx true chunk ≠ none := by simp [hv]
    by_cases hlen : 1 < chunk.length
    · -- The halves are shorter, and neither is empty.
      have hleft := ih (chunk.take (chunk.length / 2)).length
        (by rw [List.length_take]; omega) (show chunk.take (chunk.length / 2) ≠ [] from
          List.ne_nil_of_length_pos (by rw [List.length_take]; omega)) rfl
      have hright := ih (chunk.drop (chunk.length / 2)).length
        (by rw [List.length_drop]; omega) (show chunk.drop (chunk.length / 2) ≠ [] from
          List.ne_nil_of_length_pos (by rw [List.length_drop]; omega)) rfl
      simp only [dif_pos hlen]
      rcases hleft with ⟨hthr, hl⟩ | ⟨hfreel, left, hl, hkeyl⟩
      · rw [hl]
        exact .inl ⟨.left hbad hlen hthr, rfl⟩
      rcases hright with ⟨hthr, hr⟩ | ⟨hfreer, right, hr, hkeyr⟩
      · rw [hl, hr]
        exact .inl ⟨.right hbad hlen hthr, rfl⟩
      rw [hl, hr]
      refine .inr ⟨fun hthr => ?_, left ++ right, rfl, ?_⟩
      · cases hthr with
        | here hnone => exact hhere hnone
        | left _ _ hthr => exact hfreel hthr
        | right _ _ hthr => exact hfreer hthr
      · rw [List.map_append, hkeyl, hkeyr, ← List.filter_append, List.take_append_drop]
    · obtain ⟨x, rfl⟩ : ∃ x, chunk = [x] :=
        List.length_eq_one_iff.mp (by have := List.length_pos_iff.mpr hne; omega)
      obtain ⟨y, hy, hpy⟩ := hbad
      obtain rfl := List.mem_singleton.mp hy
      simp only [List.length_singleton, lt_self_iff_false, dite_false, List.cons_ne_nil, if_false]
      refine .inr ⟨fun hthr => ?_, fallback_spec h hpy⟩
      cases hthr with
      | here hnone => exact hhere hnone
      | left _ hlen' _ => exact hlen hlen'
      | right _ hlen' _ => exact hlen hlen'
  · have hgood : ∀ x ∈ chunk, ¬ P x := fun x hx hp => hbad ⟨x, hx, hp⟩
    rcases verdict_priced idx h hgood with hnone | ⟨results, hv, hkey⟩
    · rw [checkChunk_none hnone]
      exact .inl ⟨.here hnone, rfl⟩
    rw [checkChunk_some hv]
    refine .inr ⟨fun hthr => ?_, results, rfl, ?_⟩
    · cases hthr with
      | here hnone => simp [hv] at hnone
      | left hbad' _ _ => exact hbad hbad'
      | right hbad' _ _ => exact hbad hbad'
    · rw [hkey, eq_comm, List.filter_eq_self]
      exact fun x hx => decide_eq_true (.inl (hgood x hx))

/-! ## The passes -/

open scoped Classical in
/-- The items of a batch that have a result. -/
noncomputable def Scan.yielded (S : Scan ι ρ) (P : ι → Prop) (b : ℕ × List ι) : List ι :=
  b.2.filter fun x => S.Yields P b.1 x

theorem mem_yielded {x : ι} : x ∈ S.yielded P b ↔ x ∈ b.2 ∧ S.Yields P b.1 x := by
  simp [Scan.yielded]

theorem ne_nil_of_mem_numbered {start : ℕ} (hb : b ∈ numbered start items) : b.2 ≠ [] := by
  obtain ⟨i, hi, rfl⟩ := List.mem_mapIdx.mp hb
  exact Windows.ne_nil_of_mem_windows (by decide) (List.getElem_mem hi)

theorem flatMap_numbered (start : ℕ) (items : List ι) :
    (numbered start items).flatMap (·.2) = items := by
  have hsnd : (numbered start items).map (·.2) = windows DOMAIN_SEARCH_BATCH_SIZE items := by
    apply List.ext_getElem
    · simp [numbered]
    · simp [numbered]
  rw [List.flatMap_def, hsnd, Windows.flatten_windows (by decide)]

open scoped Classical in
/-- What the loop over the first pass gathers. -/
theorem gather_spec (h : S.Answers P key) (habort : ∀ idx, abortsSearch (S.gaveUp idx) = false)
    (bs : List (ℕ × List ι)) (hbs : ∀ b ∈ bs, b.2 ≠ []) :
    ∃ g, gather (bs.map fun b => (S.checkIsolated b.1 b.2, b.2)) = .ok g ∧
      g.rawResults.map key = (bs.filter fun b => ¬ S.Throttled P b.1 b.2).flatMap (S.yielded P) ∧
      g.failedChunks = (bs.filter fun b => S.Throttled P b.1 b.2).length ∧
      g.missing = (bs.filter fun b => S.Throttled P b.1 b.2).flatMap (·.2) := by
  induction bs with
  | nil => exact ⟨{}, rfl, rfl, rfl, rfl⟩
  | cons b bs ih =>
    obtain ⟨g, hg, hraw, hfailed, hmissing⟩ := ih fun c hc => hbs c (List.mem_cons_of_mem b hc)
    rw [List.map_cons]
    rcases checkIsolated_spec b.1 h (hbs b List.mem_cons_self) with
      ⟨hthr, hres⟩ | ⟨hfree, results, hres, hkey⟩
    · refine ⟨{ g with failedChunks := g.failedChunks + 1, missing := b.2 ++ g.missing },
        by rw [hres, gather, habort, if_neg Bool.false_ne_true, hg]; rfl, ?_, ?_, ?_⟩
      · rw [hraw, List.filter_cons_of_neg (by simpa using hthr)]
      · rw [hfailed, List.filter_cons_of_pos (by simpa using hthr), List.length_cons]
      · rw [hmissing, List.filter_cons_of_pos (by simpa using hthr), List.flatMap_cons]
    · refine ⟨{ g with rawResults := results ++ g.rawResults },
        by rw [hres, gather, hg]; rfl, ?_, ?_, ?_⟩
      · rw [List.map_append, hkey, hraw, List.filter_cons_of_pos (by simpa using hfree),
          List.flatMap_cons, Scan.yielded]
      · rw [hfailed, List.filter_cons_of_neg (by simpa using hfree)]
      · rw [hmissing, List.filter_cons_of_neg (by simpa using hfree)]

theorem secondPass_spec (h : S.Answers P key) {missing : List ι}
    (hfree : ∀ b ∈ numbered (totalBatches items) missing, ¬ S.Throttled P b.1 b.2) :
    (S.secondPass items missing).map key =
      (numbered (totalBatches items) missing).flatMap (S.yielded P) := by
  rw [Scan.secondPass, List.map_flatMap]
  refine List.flatMap_congr fun b hb => ?_
  rcases checkIsolated_spec b.1 h (ne_nil_of_mem_numbered hb) with
    ⟨hthr, -⟩ | ⟨-, results, hres, hkey⟩
  · exact absurd hthr (hfree b hb)
  · rw [hres, Scan.yielded]
    exact hkey

open scoped Classical in
theorem perm_decided (S : Scan ι ρ) (P : ι → Prop) (items : List ι) :
    ((S.decided P items).flatMap (·.2)).Perm items := by
  have hsplit := List.filter_append_perm (fun b => decide (S.Throttled P b.1 b.2))
    (numbered 0 items)
  rw [Scan.decided, List.flatMap_append, flatMap_numbered, Scan.missing]
  refine List.perm_append_comm.trans ?_
  rw [← List.flatMap_append]
  have hall := hsplit.flatMap_right (·.2)
  rw [flatMap_numbered] at hall
  simpa only [decide_not] using hall

theorem decided_of_free (hfree : ∀ b ∈ numbered 0 items, ¬ S.Throttled P b.1 b.2) :
    S.decided P items = numbered 0 items := by
  classical
  have hmissing : S.missing P items = [] := by
    rw [Scan.missing, List.filter_eq_nil_iff.mpr (by simpa using hfree), List.flatMap_nil]
  rw [Scan.decided, hmissing, List.filter_eq_self.mpr (by simpa using hfree)]
  simp [numbered, windows, DOMAIN_SEARCH_BATCH_SIZE]

theorem sublist_yielded (S : Scan ι ρ) (P : ι → Prop) (bs : List (ℕ × List ι)) :
    (bs.flatMap (S.yielded P)).Sublist (bs.flatMap (·.2)) := by
  induction bs with
  | nil => exact List.Sublist.refl _
  | cons b bs ih =>
    rw [List.flatMap_cons, List.flatMap_cons]
    exact List.filter_sublist.append ih

/-- **Results for what the deciding batches yield are as the property wants them.** -/
theorem isolates_of_yielded [DecidableEq ι] (hitems : items.Nodup) {results : List ρ}
    (hkey : results.map key = (S.decided P items).flatMap (S.yielded P)) :
    S.Isolates P key items results := by
  have hperm := perm_decided S P items
  have hsub : (results.map key).Sublist ((S.decided P items).flatMap (·.2)) :=
    hkey ▸ sublist_yielded S P _
  have hnodup : (results.map key).Nodup := (hperm.nodup_iff.mpr hitems).sublist hsub
  have hone {b : ℕ × List ι} {x : ι} (hb : b ∈ S.decided P items) (hx : x ∈ b.2)
      (hyields : S.Yields P b.1 x) : (results.map key).count x = 1 := by
    refine List.count_eq_one_of_mem hnodup ?_
    rw [hkey]
    exact List.mem_flatMap.mpr ⟨b, hb, mem_yielded.mpr ⟨hx, hyields⟩⟩
  exact
    { healthy := fun x hx hgood => by
        obtain ⟨b, hb, hxb⟩ := List.mem_flatMap.mp (hperm.mem_iff.mpr hx)
        exact hone hb hxb (.inl hgood)
      poisoned := fun x _ _ => List.nodup_iff_count_le_one.mp hnodup x
      recovered := fun b hb x hx _ hrec => hone hb hx (.inr hrec)
      only := fun r hr => hperm.mem_iff.mp (hsub.subset (List.mem_map_of_mem hr))
      ordered := fun hfree => by
        rw [decided_of_free hfree, flatMap_numbered] at hsub
        exact hsub }

/-! ## The error of an unanswered request -/

/-- The message in lower case, without its digits. -/
def frame (message : Text) : Text := (message.map Char.toLower).filter fun c => !c.isDigit

theorem frame_append (s t : Text) : frame (s ++ t) = frame s ++ frame t := by
  simp [frame]

theorem mentions_eq_false {word : String} {message : Text}
    (hno : ¬ word.toList.filter (fun c => !c.isDigit) <:+: frame message) :
    mentions word message = false :=
  decide_eq_false fun h => hno (h.filter _)

theorem toLower_of_isDigit {c : Char} (h : c.isDigit) : c.toLower = c := by
  have hle : c.val ≤ '9'.val := by
    simp only [Char.isDigit, Bool.and_eq_true, decide_eq_true_eq] at h
    exact h.2
  refine dif_neg fun hupper => ?_
  exact absurd (UInt32.le_trans hupper.1 hle) (by decide)

theorem frame_toDigits (n : ℕ) : frame (Nat.toDigits 10 n) = [] := by
  rw [frame, List.filter_eq_nil_iff]
  intro c hc
  obtain ⟨d, hd, rfl⟩ := List.mem_map.mp hc
  have hdigit : d.isDigit := Nat.isDigit_of_mem_toDigits (by decide) (by decide) hd
  simp [toLower_of_isDigit hdigit, hdigit]

theorem frame_two (before between word after : Text) (m n : ℕ) :
    frame (before ++ Nat.toDigits 10 m ++ between ++ (word ++ Nat.toDigits 10 n) ++ after) =
      frame before ++ frame between ++ frame word ++ frame after := by
  simp only [frame_append, frame_toDigits, List.append_nil]

/-- The error after the last attempt does not abort the search, whatever the numbers in it. -/
theorem gaveUp_aborts_not {word : Text} {number : ℕ} (idx : ℕ)
    (hbatch : S.batch idx = word ++ Nat.toDigits 10 number)
    (hword : word = "batch ".toList ∨ word = "pair-batch ".toList) :
    abortsSearch (S.gaveUp idx) = false := by
  have hframe : frame (S.gaveUp idx) = frame "OpenProvider domains/check failed after ".toList ++
      frame " attempts for ".toList ++ frame word ++ frame ".".toList := by
    unfold Scan.gaveUp
    rw [hbatch]
    exact frame_two _ _ _ _ _ _
  have hno : ∀ sought ∈ ["http 401", "code=196", "circuit breaker", "authentication"],
      mentions sought (S.gaveUp idx) = false := by
    intro sought hsought
    refine mentions_eq_false ?_
    rw [hframe]
    simp only [List.mem_cons, List.not_mem_nil, or_false] at hsought
    rcases hword with rfl | rfl
    · rcases hsought with rfl | rfl | rfl | rfl <;> decide +kernel
    · rcases hsought with rfl | rfl | rfl | rfl <;> decide +kernel
  simp [abortsSearch, hno]

/-! ## The searches -/

theorem ne_nil_decided_iff : (S.decided P items).flatMap (S.yielded P) ≠ [] ↔
    ∃ b ∈ S.decided P items, ∃ x ∈ b.2, S.Yields P b.1 x := by
  rw [ne_eq, List.flatMap_eq_nil_iff]
  simp only [List.eq_nil_iff_forall_not_mem, mem_yielded, not_forall, not_not, exists_prop]

theorem passes_spec (h : S.Answers P key) (habort : ∀ idx, abortsSearch (S.gaveUp idx) = false)
    (hfree : ∀ b ∈ numbered (totalBatches items) (S.missing P items), ¬ S.Throttled P b.1 b.2) :
    ∃ g, S.firstPass items = .ok g ∧
      (g.rawResults ++ S.secondPass items g.missing).map key =
        (S.decided P items).flatMap (S.yielded P) ∧
      (g.failedChunks = 0 ↔ ∀ b ∈ numbered 0 items, ¬ S.Throttled P b.1 b.2) := by
  classical
  obtain ⟨g, hg, hraw, hfailed, hmissing⟩ :=
    gather_spec h habort (numbered 0 items) fun b hb => ne_nil_of_mem_numbered hb
  rw [← Scan.missing] at hmissing
  refine ⟨g, hg, ?_, ?_⟩
  · rw [List.map_append, hraw, hmissing, secondPass_spec h hfree, Scan.decided,
      List.flatMap_append]
  · rw [hfailed, List.length_eq_zero_iff, List.filter_eq_nil_iff]
    simp only [decide_eq_true_eq]

variable {post : Wire ρ} {label : Text} {maxRetries : Option ℕ}

/-- The search over extensions returns what the batches yield, unless that is nothing and a batch
raised on the first pass. -/
theorem checkTldBatches_spec {key : ρ → Text} {P : Text → Prop}
    (h : (tldScan post label maxRetries).Answers P key)
    (hsecond : ∀ b ∈ numbered (totalBatches tlds) ((tldScan post label maxRetries).missing P tlds),
      ¬ (tldScan post label maxRetries).Throttled P b.1 b.2) :
    ((tldScan post label maxRetries).Settled P tlds ∧
        ∃ results, checkTldBatches post label tlds maxRetries = .ok results ∧
          results.map key = ((tldScan post label maxRetries).decided P tlds).flatMap
            ((tldScan post label maxRetries).yielded P)) ∨
      (¬ (tldScan post label maxRetries).Settled P tlds ∧
        ∃ message, checkTldBatches post label tlds maxRetries = .error message) := by
  obtain ⟨g, hg, hkey, hfailed⟩ :=
    passes_spec h (fun idx => gaveUp_aborts_not idx rfl (.inl rfl)) hsecond
  unfold checkTldBatches
  by_cases hnil : tlds = []
  · subst hnil
    refine .inl ⟨.inl fun b hb => absurd hb (List.not_mem_nil), [], if_pos rfl, ?_⟩
    rw [decided_of_free fun b hb => absurd hb (List.not_mem_nil)]
    rfl
  rw [if_neg hnil]
  simp only [hg]
  have hempty : (g.rawResults ++ (tldScan post label maxRetries).secondPass tlds g.missing) = [] ↔
      ¬ ∃ b ∈ (tldScan post label maxRetries).decided P tlds, ∃ x ∈ b.2,
        (tldScan post label maxRetries).Yields P b.1 x := by
    rw [← ne_nil_decided_iff, ← hkey, not_not, List.map_eq_nil_iff]
  by_cases hsettled : (tldScan post label maxRetries).Settled P tlds
  · refine .inl ⟨hsettled, _, if_neg ?_, hkey⟩
    rintro ⟨hraw, hne⟩
    rcases hsettled with hfree | hyields
    · exact hne (hfailed.mpr hfree)
    · exact hempty.mp (List.isEmpty_iff.mp hraw) hyields
  · refine .inr ⟨hsettled, _, if_pos ⟨?_, ?_⟩⟩
    · exact List.isEmpty_iff.mpr (hempty.mpr fun hyields => hsettled (.inr hyields))
    · exact fun h0 => hsettled (.inl (hfailed.mp h0))

/-- The search over pairs returns what the batches yield if none raises. -/
theorem checkLabelsBatch_spec {key : ρ → Pair} {P : Pair → Prop} {labels : List Text}
    (h : (labelsScan post maxRetries).Answers P key)
    (hfree : ∀ b ∈ numbered 0 (labels ×ˢ tlds), ¬ (labelsScan post maxRetries).Throttled P b.1 b.2)
    :
    ∃ results, checkLabelsBatch post labels tlds maxRetries = .ok results ∧
      results.map key = ((labelsScan post maxRetries).decided P (labels ×ˢ tlds)).flatMap
        ((labelsScan post maxRetries).yielded P) := by
  classical
  obtain ⟨g, hg, hraw, hfailed, -⟩ :=
    gather_spec h (fun idx => gaveUp_aborts_not idx rfl (.inr rfl)) (numbered 0 (labels ×ˢ tlds))
      fun b hb => ne_nil_of_mem_numbered hb
  rw [List.filter_eq_self.mpr (by simpa using hfree)] at hraw
  rw [List.filter_eq_nil_iff.mpr (by simpa using hfree)] at hfailed
  rw [decided_of_free hfree, ← hraw]
  unfold checkLabelsBatch
  by_cases hnil : labels = [] ∨ tlds = []
  · have hpairs : labels ×ˢ tlds = [] := by
      rcases hnil with rfl | rfl
      · exact List.nil_product _
      · exact List.product_nil _
    rw [hpairs] at hg
    obtain rfl : ({} : Gathered Pair ρ) = g := Except.ok.inj hg
    exact ⟨[], if_pos hnil, rfl⟩
  · rw [if_neg hnil]
    have hg' : (labelsScan post maxRetries).firstPass
        (labels.flatMap fun lab => tlds.map fun tld => (lab, tld)) = .ok g := hg
    simp only [hg']
    exact ⟨_, if_neg fun hne => hne.2 hfailed, rfl⟩

/-- **When a poisoned extension hides nothing**: the search over distinct extensions, whose second
pass is not throttled, returns what it should just if no batch raised on the first pass or some
extension has a result. A search over distinct pairs in which no batch is throttled returns what it
should. -/
theorem poison_isolated_iff (post : Wire ρ) (label : Text) (maxRetries : Option ℕ)
    (key : ρ → Text) (pairOf : ρ → Pair) (P : Text → Prop) (Q : Pair → Prop)
    (tlds labels extensions : List Text) (htlds : tlds.Nodup) (hlabels : labels.Nodup)
    (hextensions : extensions.Nodup)
    (htldAnswers : (tldScan post label maxRetries).Answers P key)
    (hsecond : ∀ b ∈ numbered (totalBatches tlds) ((tldScan post label maxRetries).missing P tlds),
      ¬ (tldScan post label maxRetries).Throttled P b.1 b.2)
    (hpairAnswers : (labelsScan post maxRetries).Answers Q pairOf)
    (hfree : ∀ b ∈ numbered 0 (labels ×ˢ extensions),
      ¬ (labelsScan post maxRetries).Throttled Q b.1 b.2) :
    ((∃ results, checkTldBatches post label tlds maxRetries = .ok results ∧
        (tldScan post label maxRetries).Isolates P key tlds results) ↔
      (tldScan post label maxRetries).Settled P tlds) ∧
    ∃ results, checkLabelsBatch post labels extensions maxRetries = .ok results ∧
      (labelsScan post maxRetries).Isolates Q pairOf (labels ×ˢ extensions) results := by
  refine ⟨?_, ?_⟩
  · rcases checkTldBatches_spec htldAnswers hsecond with
      ⟨hsettled, results, hok, hkey⟩ | ⟨hno, message, herror⟩
    · exact iff_of_true ⟨results, hok, isolates_of_yielded htlds hkey⟩ hsettled
    · refine iff_of_false ?_ hno
      rintro ⟨results, hok, -⟩
      rw [herror] at hok
      cases hok
  · obtain ⟨results, hok, hkey⟩ := checkLabelsBatch_spec hpairAnswers hfree
    exact ⟨results, hok, isolates_of_yielded (hlabels.product hextensions) hkey⟩

/-! ## A registrar that fails once -/

theorem not_throttled (h : ∀ part, part ⊆ chunk → S.verdict idx true part ≠ none) :
    ¬ S.Throttled P idx chunk := by
  intro hthr
  induction hthr with
  | here hnone => exact h _ (List.Subset.refl _) hnone
  | left _ _ _ ih =>
    exact ih fun part hpart => h part (List.Subset.trans hpart (List.take_subset _ _))
  | right _ _ _ ih =>
    exact ih fun part hpart => h part (List.Subset.trans hpart (List.drop_subset _ _))

theorem le_of_mem_numbered {start : ℕ} (hb : b ∈ numbered start items) : start ≤ b.1 := by
  obtain ⟨i, hi, rfl⟩ := List.mem_mapIdx.mp hb
  exact Nat.le_add_right start i

/-- The label of the searches below. -/
def brand : Text := "brand".toList

/-- The poisoned extension. -/
def bad : Text := "bad".toList

/-- The first batch of a search for `brand` times out; `bad` is refused with prices and has no
result without them; every other request is answered. -/
def failsOnce : Wire Pair := fun idx withPrice chunk _ =>
  if idx = 0 ∧ chunk.head?.map (·.1) = some brand then .transportError
  else if withPrice ∧ bad ∈ chunk.map (·.2) then
    .response ⟨500, false, [], some ⟨some 701, [], none⟩⟩
  else .response ⟨200, false, [], some ⟨some 0, [], some (if withPrice then chunk else [])⟩⟩

theorem judge_poisoned :
    judge (.response ⟨500, false, [], some ⟨some 701, [], none⟩⟩ : Answer Pair) =
      some (.error (poisoned 701 [])) := rfl

theorem judge_results (results : List Pair) :
    judge (.response ⟨200, false, [], some ⟨some 0, [], some results⟩⟩) = some (.ok results) := rfl

theorem judge_failsOnce (idx attempt : ℕ) (chunk : List Pair) :
    judge (failsOnce idx true chunk attempt) =
      if idx = 0 ∧ chunk.head?.map (·.1) = some brand then none
      else if bad ∈ chunk.map (·.2) then some (.error (poisoned 701 []))
      else some (.ok chunk) := by
  by_cases hfirst : idx = 0 ∧ chunk.head?.map (·.1) = some brand
  · rw [if_pos hfirst, failsOnce, if_pos hfirst]
    rfl
  rw [if_neg hfirst, failsOnce, if_neg hfirst]
  by_cases hbad : bad ∈ chunk.map (·.2)
  · rw [if_pos hbad, if_pos ⟨rfl, hbad⟩, judge_poisoned]
  · rw [if_neg hbad, if_neg fun h => hbad h.2, if_pos rfl, judge_results]

theorem priceless_failsOnce {attempt : ℕ} {chunk results : List Pair}
    (h : judge (failsOnce idx false chunk attempt) = some (.ok results)) : results = [] := by
  by_cases hfirst : idx = 0 ∧ chunk.head?.map (·.1) = some brand
  · rw [failsOnce, if_pos hfirst] at h
    cases h
  · rw [failsOnce, if_neg hfirst, if_neg fun hbad => Bool.false_ne_true hbad.1,
      if_neg Bool.false_ne_true, judge_results] at h
    cases h
    rfl

/-- The checks of both searches are answered so. -/
theorem answers_failsOnce {S : Scan ι Pair} {key : Pair → ι} (pairOf : ι → Pair)
    (hpost : ∀ idx withPrice chunk attempt, S.post idx withPrice chunk attempt =
      failsOnce idx withPrice (chunk.map pairOf) attempt) (hkey : ∀ x, key (pairOf x) = x)
    (hP : ∀ x, P x ↔ (pairOf x).2 = bad) : S.Answers P key := by
  have hmem (chunk : List ι) : bad ∈ (chunk.map pairOf).map (·.2) ↔ ∃ x ∈ chunk, P x := by
    simp [hP, eq_comm]
  constructor
  · intro idx chunk attempt hbad
    rw [hpost, judge_failsOnce, if_pos ((hmem chunk).mpr hbad)]
    split_ifs
    · exact .inl rfl
    · exact .inr ⟨_, rfl⟩
  · intro idx chunk attempt hgood
    have hno : bad ∉ (chunk.map pairOf).map (·.2) := fun hbad => by
      obtain ⟨x, hx, hpx⟩ := (hmem chunk).mp hbad
      exact hgood x hx hpx
    rw [hpost, judge_failsOnce, if_neg hno]
    split_ifs
    · exact .inl rfl
    · exact .inr ⟨_, rfl, by simp [Function.comp_def, hkey]⟩
  · intro idx x attempt results h
    rw [hpost] at h
    exact .inl (priceless_failsOnce h)

theorem tldScan_answers : (tldScan failsOnce brand none).Answers (· = bad) (·.2) :=
  answers_failsOnce (fun tld => (brand, tld)) (fun _ _ _ _ => rfl) (fun _ => rfl) fun _ => Iff.rfl

theorem labelsScan_answers : (labelsScan failsOnce none).Answers (·.2 = bad) id := by
  refine answers_failsOnce id (fun idx withPrice chunk attempt => ?_) (fun _ => rfl) fun _ => Iff.rfl
  rw [List.map_id]
  rfl

theorem verdict_ne_none {S : Scan ι Pair} (pairOf : ι → Pair) (hretries : 0 < S.maxRetries)
    (hpost : ∀ idx withPrice chunk attempt, S.post idx withPrice chunk attempt =
      failsOnce idx withPrice (chunk.map pairOf) attempt)
    (hlate : ¬ (idx = 0 ∧ (chunk.map pairOf).head?.map (·.1) = some brand)) :
    S.verdict idx true chunk ≠ none := by
  intro hnone
  have hone := List.findSome?_eq_none_iff.mp hnone 1 (by simp; omega)
  rw [hpost, judge_failsOnce, if_neg hlate] at hone
  split_ifs at hone

theorem second_not_throttled {missing : List Text} :
    ∀ b ∈ numbered (totalBatches tlds) missing,
      ¬ (tldScan failsOnce brand none).Throttled (· = bad) b.1 b.2 := by
  intro b hb
  have hpos : 0 < b.1 := lt_of_lt_of_le (Nat.le_max_left 1 _) (le_of_mem_numbered hb)
  refine not_throttled fun part _ => ?_
  exact verdict_ne_none _ (by decide) (fun _ _ _ _ => rfl) fun h => hpos.ne' h.1

/-- Two extensions, one of them poisoned, and a label of a second search. -/
theorem poison_isolated_iff_failsOnce :
    ((∃ results, checkTldBatches failsOnce brand ["com".toList, bad] none = .ok results ∧
        (tldScan failsOnce brand none).Isolates (· = bad) (·.2) ["com".toList, bad] results) ↔
      (tldScan failsOnce brand none).Settled (· = bad) ["com".toList, bad]) ∧
    ∃ results, checkLabelsBatch failsOnce ["deltap".toList] ["com".toList, bad] none = .ok results ∧
      (labelsScan failsOnce none).Isolates (·.2 = bad) id
        (["deltap".toList] ×ˢ ["com".toList, bad]) results := by
  refine poison_isolated_iff failsOnce brand none (·.2) id (· = bad) (·.2 = bad) _ _ _
    (by decide) (by decide) (by decide) tldScan_answers second_not_throttled labelsScan_answers ?_
  intro b hb
  refine not_throttled fun part hpart => ?_
  refine verdict_ne_none id (by decide) (fun idx withPrice chunk attempt => ?_) ?_
  · rw [List.map_id]
    rfl
  · rintro ⟨-, hhead⟩
    obtain ⟨x, hx, hbrand⟩ := Option.map_eq_some_iff.mp hhead
    rw [List.map_id] at hx
    have hitem : x ∈ ["deltap".toList] ×ˢ ["com".toList, bad] := by
      rw [← flatMap_numbered 0 (["deltap".toList] ×ˢ ["com".toList, bad])]
      exact List.mem_flatMap.mpr ⟨b, hb, hpart (List.mem_of_mem_head? hx)⟩
    have hlabel : x.1 = "deltap".toList := List.mem_singleton.mp (List.mem_product.mp hitem).1
    exact absurd (hlabel.symm.trans hbrand) (by decide)

/-- The search for the poisoned extension alone raises, though the second pass is answered. -/
theorem dropped_extension_raises :
    (tldScan failsOnce brand none).Answers (· = bad) (·.2) ∧
    (∀ b ∈ numbered (totalBatches [bad]) ((tldScan failsOnce brand none).missing (· = bad) [bad]),
      ¬ (tldScan failsOnce brand none).Throttled (· = bad) b.1 b.2) ∧
    ¬ ∃ results, checkTldBatches failsOnce brand [bad] none = .ok results ∧
      (tldScan failsOnce brand none).Isolates (· = bad) (·.2) [bad] results := by
  refine ⟨tldScan_answers, second_not_throttled, ?_⟩
  rintro ⟨results, hok, -⟩
  have hunsettled : ¬ (tldScan failsOnce brand none).Settled (· = bad) [bad] := by
    rintro (hfree | ⟨b, hb, x, hx, hyields⟩)
    · refine hfree (0, [bad]) (List.mem_singleton.mpr rfl) (.here ?_)
      refine List.findSome?_eq_none_iff.mpr fun attempt _ => ?_
      exact (judge_failsOnce 0 attempt [(brand, bad)]).trans (if_pos ⟨rfl, rfl⟩)
    · -- The extension is poisoned, and its price-less request has no result.
      have hx' : x = bad := List.mem_singleton.mp
        ((perm_decided _ _ _).mem_iff.mp (List.mem_flatMap.mpr ⟨b, hb, hx⟩))
      rcases hyields with hgood | ⟨results, hv, hne⟩
      · exact hgood hx'
      · obtain ⟨attempt, hattempt⟩ := judge_of_verdict hv
        replace hattempt :
            judge (failsOnce b.1 false [(brand, x)] attempt) = some (.ok results) := hattempt
        exact hne (priceless_failsOnce hattempt)
  rcases checkTldBatches_spec tldScan_answers second_not_throttled with
    ⟨hsettled, -⟩ | ⟨-, message, herror⟩
  · exact hunsettled hsettled
  · rw [hok] at herror
    cases herror

end Deltapreneur.BatchCheck

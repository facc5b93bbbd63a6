import Mathlib.Data.List.Chain
import Mathlib.Data.List.TakeWhile
import Mathlib.Tactic.Linarith

/-!
# Sliding-window rate limits

A limiter keeps the times of the recent events in a queue, oldest first. Before an event it drops
from the front what is at least a window old (`trim`), and lets the event through when fewer than
`limit` are left.

* `Limited`: the log of all events is some old ones followed by the queue, and no half-open window
  holds more than `limit` of them. `Limited.trim`, `Limited.later` and `Limited.extend` are the
  three things that happen to it.
* `Spaced`: events are at least `gap` apart. A source that spaces its events never meets a limit
  that allows a window full of them (`Spaced.trim_length_lt`).
-/

namespace RateLimit

section Window

variable {τ : Type*} [AddCommGroup τ] [LinearOrder τ] [IsOrderedAddMonoid τ]
  {window : τ} {limit : Nat} {now now' : τ} {log recent : List τ}

/-- Drop what is at least a window old. -/
def trim (window now : τ) (recent : List τ) : List τ :=
  recent.dropWhile fun t => decide (window ≤ now - t)

/-- The events of the half-open window that starts at `t`. -/
def inWindow (window t : τ) (log : List τ) : List τ :=
  log.filter fun x => decide (t ≤ x ∧ x < t + window)

/-- At time `now` the queue holds all events younger than a window, and no window holds more than
`limit`. -/
structure Limited (window : τ) (limit : Nat) (now : τ) (log recent : List τ) : Prop where
  split : ∃ old, log = old ++ recent ∧ ∀ x ∈ old, x + window ≤ now
  count : ∀ t, (inWindow window t log).length ≤ limit

omit [IsOrderedAddMonoid τ] in
theorem limited_nil : Limited window limit now [] [] :=
  ⟨⟨[], rfl, fun _ hx => absurd hx List.not_mem_nil⟩, fun _ => Nat.zero_le limit⟩

omit [IsOrderedAddMonoid τ] in
theorem Limited.later (h : Limited window limit now log recent) (hle : now ≤ now') :
    Limited window limit now' log recent := by
  obtain ⟨old, hlog, hold⟩ := h.split
  exact ⟨⟨old, hlog, fun x hx => (hold x hx).trans hle⟩, h.count⟩

theorem Limited.trim (h : Limited window limit now log recent) :
    Limited window limit now log (trim window now recent) := by
  obtain ⟨old, hlog, hold⟩ := h.split
  refine ⟨⟨old ++ recent.takeWhile fun t => decide (window ≤ now - t), ?_, fun x hx => ?_⟩,
    h.count⟩
  · rw [List.append_assoc, RateLimit.trim, List.takeWhile_append_dropWhile, hlog]
  · rcases List.mem_append.mp hx with hx | hx
    · exact hold x hx
    · have hw : window ≤ now - x := by simpa using List.mem_takeWhile_imp hx
      exact le_sub_iff_add_le'.mp hw

/-- **One more event.** A window that holds it holds none that the queue has lost. -/
theorem Limited.extend (h : Limited window limit now log recent) (hlen : recent.length < limit) :
    Limited window limit now (log ++ [now]) (recent ++ [now]) := by
  obtain ⟨old, rfl, hold⟩ := h.split
  refine ⟨⟨old, by rw [List.append_assoc], hold⟩, fun t => ?_⟩
  by_cases hin : t ≤ now ∧ now < t + window
  · have hnone : inWindow window t old = [] := by
      refine List.filter_eq_nil_iff.mpr fun x hx hmem => ?_
      have hlt : x + window < t + window := (hold x hx).trans_lt hin.2
      exact absurd (of_decide_eq_true hmem).1 (not_le.mpr (lt_of_add_lt_add_right hlt))
    have hrecent : (inWindow window t recent).length ≤ recent.length := List.length_filter_le _ _
    have hsplit : inWindow window t (old ++ recent ++ [now]) =
        inWindow window t old ++ inWindow window t recent ++ inWindow window t [now] := by
      simp [inWindow]
    have hnow : inWindow window t [now] = [now] := by simp [inWindow, hin]
    rw [hsplit, hnone, hnow, List.nil_append, List.length_append, List.length_singleton]
    omega
  · have hsplit : inWindow window t (old ++ recent ++ [now]) = inWindow window t (old ++ recent) := by
      simp [inWindow, hin]
    rw [hsplit]
    exact h.count t

end Window

/-! ## Spaced events -/

section Spaced

variable {τ : Type*} [CommRing τ] [LinearOrder τ] [IsStrictOrderedRing τ]
  {window gap now : τ} {limit : Nat} {events : List τ}

/-- Each event comes at least `gap` after the one before. -/
def Spaced (gap : τ) (events : List τ) : Prop := events.IsChain fun a b => a + gap ≤ b

/-- The first of spaced events is early: one gap for each that follows. -/
theorem Spaced.head_le : ∀ {first : τ} {rest : List τ}, Spaced gap (first :: rest) →
    ∀ last ∈ (first :: rest).getLast?, first + rest.length * gap ≤ last
  | first, [], _, last, h => by
    obtain rfl : first = last := by simpa using h
    simp
  | first, b :: rest, hs, last, h => by
    obtain ⟨hab, hrest⟩ := List.isChain_cons_cons.mp hs
    have ih := Spaced.head_le hrest last (by simpa using h)
    rw [List.length_cons, Nat.cast_succ]
    linarith

/-- **Spaced events stay below the limit.** When the last one is a gap ago and `limit` gaps fill
the window, fewer than `limit` are left in the queue. -/
theorem Spaced.trim_length_lt (h : Spaced gap events) (hgap : 0 ≤ gap)
    (hlast : ∀ last ∈ events.getLast?, last + gap ≤ now) (hpos : 0 < limit)
    (hfit : window ≤ limit * gap) : (trim window now events).length < limit := by
  have hsuffix : trim window now events <:+ events := List.dropWhile_suffix _
  have hspaced : Spaced gap (trim window now events) := List.IsChain.suffix h hsuffix
  cases htrim : trim window now events with
  | nil => exact hpos
  | cons first rest =>
    have hyoung : ¬ window ≤ now - first := by
      have hhead := List.head?_dropWhile_not (fun t => decide (window ≤ now - t)) events
      rw [← RateLimit.trim, htrim] at hhead
      simpa using hhead
    obtain ⟨old, hold⟩ := hsuffix
    rw [htrim] at hold hspaced
    obtain ⟨last, hl⟩ : ∃ last, last ∈ (first :: rest).getLast? :=
      ⟨_, List.getLast?_eq_some_getLast (List.cons_ne_nil first rest)⟩
    have hl' : last ∈ events.getLast? := by
      rw [← hold, List.getLast?_append, hl]
      rfl
    have hfirst := hspaced.head_le last hl
    have hnow := hlast last hl'
    have hlt : ((rest.length + 1 : Nat) : τ) * gap < (limit : τ) * gap := by
      rw [Nat.cast_succ]
      linarith
    exact_mod_cast lt_of_mul_lt_mul_right hlt hgap

omit [IsStrictOrderedRing τ] in
theorem Spaced.append (h : Spaced gap events) (hlast : ∀ last ∈ events.getLast?, last + gap ≤ now) :
    Spaced gap (events ++ [now]) := by
  refine List.IsChain.append h (List.isChain_singleton now) fun x hx y hy => ?_
  obtain rfl : now = y := by simpa using hy
  exact hlast x hx

end Spaced

end RateLimit

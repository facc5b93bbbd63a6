import Deltapreneur.Lib.RateLimit

/-!
# Entries that expire

An entry is kept with the time at which it is gone; `live now` is what a reader finds at `now`. A
cell is an entry or nothing.

Two counters over such a cell: `countFixed` keeps the expiry of the call that found the cell empty,
`countRenewed` sets it anew with every call.

* `count_eq_iff`: from cells that agree (`Together`) the two answer the same exactly when the
  renewed cell has not outlived the fixed one (`Outlived`). `Together.count`: they then agree
  afterwards.
* `Fits.count`: the fixed counter never answers more than the calls of one window.
* `Keeps.count`: of the calls that the renewed counter lets through, no window holds more than the
  limit.
-/

namespace Expiring

structure Entry (τ β : Type*) where
  expires : τ
  value : β
deriving Repr, DecidableEq

section Live

variable {τ β : Type*} [LinearOrder τ] {now : τ} {c : Option (Entry τ β)} {e : Entry τ β}

/-- What a reader finds at `now`. -/
def live (now : τ) (c : Option (Entry τ β)) : Option (Entry τ β) :=
  c.filter fun e => decide (now < e.expires)

theorem live_eq_some : live now c = some e ↔ c = some e ∧ now < e.expires := by
  simp [live, Option.filter_eq_some_iff]

@[simp] theorem live_none : live now (none : Option (Entry τ β)) = none := rfl

theorem live_some_of_lt (h : now < e.expires) : live now (some e) = some e :=
  live_eq_some.mpr ⟨rfl, h⟩

theorem live_some_of_le (h : e.expires ≤ now) : live now (some e) = none := by
  simp [live, Option.filter, not_lt.mpr h]

end Live

/-! ## Two counters -/

section Count

variable {τ : Type*} [AddCommGroup τ] [LinearOrder τ] [IsOrderedAddMonoid τ]
  {ttl now bound bound' : τ} {c d : Option (Entry τ ℕ)} {log : List τ}

/-- One more; the expiry is that of the first call. -/
def countFixed (ttl now : τ) (c : Option (Entry τ ℕ)) : Entry τ ℕ :=
  match live now c with
  | none => ⟨now + ttl, 1⟩
  | some e => ⟨e.expires, e.value + 1⟩

/-- One more; the expiry is that of this call. -/
def countRenewed (ttl now : τ) (c : Option (Entry τ ℕ)) : Entry τ ℕ :=
  match live now c with
  | none => ⟨now + ttl, 1⟩
  | some e => ⟨now + ttl, e.value + 1⟩

/-- Cells with the same count, the second of which expires later, and no later than `bound`. -/
inductive Together (bound : τ) : Option (Entry τ ℕ) → Option (Entry τ ℕ) → Prop
  | empty : Together bound none none
  | counted {a b : τ} {n : ℕ} (hn : 0 < n) (hab : a ≤ b) (hb : b ≤ bound) :
    Together bound (some ⟨a, n⟩) (some ⟨b, n⟩)

/-- The first entry is gone and the second is not. -/
def Outlived (now : τ) (c d : Option (Entry τ ℕ)) : Prop :=
  ∃ e ∈ c, ∃ e' ∈ d, e.expires ≤ now ∧ now < e'.expires

omit [AddCommGroup τ] [IsOrderedAddMonoid τ] in
theorem Together.mono (h : Together bound c d) (hle : bound ≤ bound') : Together bound' c d := by
  cases h with
  | empty => exact .empty
  | counted hn hab hb => exact .counted hn hab (hb.trans hle)

omit [IsOrderedAddMonoid τ] in
/-- **Where the counters part.** -/
theorem count_eq_iff (ttl now : τ) (h : Together bound c d) :
    (countFixed ttl now c).value = (countRenewed ttl now d).value ↔ ¬ Outlived now c d := by
  cases h with
  | empty => simp [countFixed, countRenewed, Outlived]
  | @counted a b n hn hab hb =>
    simp only [Outlived, Option.mem_def, Option.some.injEq, exists_eq_left', not_and, not_lt]
    rcases le_or_gt a now with ha | ha
    · rcases le_or_gt b now with hb' | hb'
      · simp [countFixed, countRenewed, live_some_of_le, ha, hb']
      · -- Fixed answers 1, and renewed at least 2.
        simp [countFixed, countRenewed, live_some_of_le, live_some_of_lt, ha, hb', hn.ne',
          not_le.mpr hb']
    · simp [countFixed, countRenewed, live_some_of_lt, ha, ha.trans_le hab, not_le.mpr ha]

omit [IsOrderedAddMonoid τ] in
/-- **Cells that have not parted stay together.** -/
theorem Together.count (h : Together bound c d) (hbound : bound ≤ now + ttl)
    (hno : ¬ Outlived now c d) :
    Together (now + ttl) (some (countFixed ttl now c)) (some (countRenewed ttl now d)) := by
  cases h with
  | empty => exact .counted Nat.one_pos le_rfl le_rfl
  | @counted a b n hn hab hb =>
    simp only [Outlived, Option.mem_def, Option.some.injEq, exists_eq_left', not_and, not_lt] at hno
    rcases le_or_gt a now with ha | ha
    · simp only [countFixed, countRenewed, live_some_of_le (e := ⟨a, n⟩) ha,
        live_some_of_le (e := ⟨b, n⟩) (hno ha)]
      exact .counted Nat.one_pos le_rfl le_rfl
    · simp only [countFixed, countRenewed, live_some_of_lt (e := ⟨a, n⟩) ha,
        live_some_of_lt (e := ⟨b, n⟩) (ha.trans_le hab)]
      exact .counted n.succ_pos (hab.trans (hb.trans hbound)) le_rfl

/-! ### The fixed counter counts within a window -/

/-- The count is at most that of the calls in the window which the expiry ends. -/
def Fits (ttl now : τ) (log : List τ) (c : Option (Entry τ ℕ)) : Prop :=
  ∀ e ∈ c, ∃ first, first ≤ now ∧ e.expires = first + ttl ∧
    e.value ≤ (RateLimit.inWindow ttl first log).length

omit [IsOrderedAddMonoid τ] in
theorem fits_none : Fits ttl now log none := fun _ he => absurd he (Option.not_mem_none _)

omit [IsOrderedAddMonoid τ] in
theorem Fits.later (h : Fits ttl now log c) {later : τ} (hle : now ≤ later) :
    Fits ttl later log c := by
  intro e he
  obtain ⟨first, hfirst, hexpires, hcount⟩ := h e he
  exact ⟨first, hfirst.trans hle, hexpires, hcount⟩

/-- **A count is that of one window.** -/
theorem Fits.count (h : Fits ttl now log c) (httl : 0 < ttl) :
    Fits ttl now (log ++ [now]) (some (countFixed ttl now c)) := by
  intro e' he'
  cases he'
  have hin {t : τ} (hle : t ≤ now) (hlt : now < t + ttl) :
      (RateLimit.inWindow ttl t (log ++ [now])).length =
        (RateLimit.inWindow ttl t log).length + 1 := by
    simp [RateLimit.inWindow, hle, hlt]
  cases hlive : live now c with
  | none =>
    refine ⟨now, le_rfl, by simp [countFixed, hlive], ?_⟩
    rw [hin le_rfl (lt_add_of_pos_right now httl), countFixed, hlive]
    exact Nat.le_add_left 1 _
  | some e =>
    obtain ⟨hc, hlt⟩ := live_eq_some.mp hlive
    obtain ⟨first, hfirst, hexpires, hcount⟩ := h e hc
    refine ⟨first, hfirst, by simp [countFixed, hlive, hexpires], ?_⟩
    rw [hin hfirst (hexpires ▸ hlt), countFixed, hlive]
    exact Nat.succ_le_succ hcount

/-! ### The renewed counter keeps a limit -/

/-- No window holds more than `limit` of the calls in the log. Those since the cell was last empty
have been counted, and the cell outlives them all by a window. -/
structure Keeps (ttl : τ) (limit : ℕ) (now : τ) (log : List τ) (c : Option (Entry τ ℕ)) : Prop where
  limited : ∃ recent, RateLimit.Limited ttl limit now log recent ∧
    ∀ e ∈ c, recent.length ≤ e.value
  outlived : ∀ x ∈ log, x ≤ now ∧ ∃ e ∈ c, x + ttl ≤ e.expires

variable {limit : ℕ}

omit [IsOrderedAddMonoid τ] in
theorem keeps_none : Keeps ttl limit now [] none :=
  ⟨⟨[], RateLimit.limited_nil, fun _ he => absurd he (Option.not_mem_none _)⟩,
    fun _ hx => absurd hx List.not_mem_nil⟩

omit [IsOrderedAddMonoid τ] in
theorem Keeps.later (h : Keeps ttl limit now log c) {later : τ} (hle : now ≤ later) :
    Keeps ttl limit later log c := by
  obtain ⟨recent, hlimited, hvalue⟩ := h.limited
  exact ⟨⟨recent, hlimited.later hle, hvalue⟩,
    fun x hx => ⟨(h.outlived x hx).1.trans hle, (h.outlived x hx).2⟩⟩

/-- **A call that is let through is within the limit.** -/
theorem Keeps.count (h : Keeps ttl limit now log c) {pass : Bool}
    (hpass : pass = true → (countRenewed ttl now c).value ≤ limit) :
    Keeps ttl limit now (if pass then log ++ [now] else log) (some (countRenewed ttl now c)) := by
  obtain ⟨recent, n, hlimited, hn, heq⟩ : ∃ recent n, RateLimit.Limited ttl limit now log recent ∧
      recent.length ≤ n ∧ countRenewed ttl now c = ⟨now + ttl, n + 1⟩ := by
    obtain ⟨recent, hlimited, hvalue⟩ := h.limited
    cases hlive : live now c with
    | none =>
      -- The cell is empty, so everything in the log is a window old.
      refine ⟨[], 0, ⟨⟨log, (List.append_nil log).symm, fun x hx => ?_⟩, hlimited.count⟩, le_rfl,
        by simp [countRenewed, hlive]⟩
      obtain ⟨-, e, he, hle⟩ := h.outlived x hx
      refine hle.trans (not_lt.mp fun hlt => ?_)
      cases hlive.symm.trans (live_eq_some.mpr ⟨he, hlt⟩)
    | some e =>
      exact ⟨recent, e.value, hlimited, hvalue e (live_eq_some.mp hlive).1,
        by simp [countRenewed, hlive]⟩
  rw [heq] at hpass ⊢
  have hold : ∀ x ∈ log, x ≤ now ∧ ∃ e ∈ some (⟨now + ttl, n + 1⟩ : Entry τ ℕ), x + ttl ≤ e.expires :=
    fun x hx => ⟨(h.outlived x hx).1, _, rfl, add_le_add_left (h.outlived x hx).1 ttl⟩
  cases pass with
  | false =>
    refine ⟨⟨recent, hlimited, fun e he => ?_⟩, hold⟩
    cases he
    exact hn.trans (Nat.le_succ n)
  | true =>
    refine ⟨⟨recent ++ [now], hlimited.extend (hn.trans_lt (hpass rfl)), fun e he => ?_⟩,
      fun x hx => ?_⟩
    · cases he
      simpa using hn
    · rcases List.mem_append.mp hx with hx | hx
      · exact hold x hx
      · obtain rfl := List.mem_singleton.mp hx
        exact ⟨le_rfl, _, rfl, le_rfl⟩

end Count

end Expiring

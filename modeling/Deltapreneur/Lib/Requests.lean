import Deltapreneur.Lib.Run

/-!
# Requests side by side

A service handles any number of requests on one store, each in several moves, and the moves of
different requests come in any order. What a move does depends on the store, on where its request
is and on what the environment decides for it.

* `Service`: how a request starts and what a move does.
* `World`: the store and all requests so far; `World.step`: one is called, or one moves.
* `Allowed ok`: the move is one that `ok` accepts.

Results:

* `each_exec`: what a move keeps of its own request holds of all requests along every run.
* `allSteps_iff`: if a move does to the store what it should exactly when it is allowed, then so do
  all the moves of exactly the allowed runs.
* `throughout_iff`: if a move keeps the store and its own request in order exactly when it is
  allowed, then they are in order throughout exactly the allowed runs.
-/

namespace Requests

variable {σ ρ κ ε : Type} {i : Nat} {r : ρ}

/-- A service: `arrive` is a new request, `move` what one of its moves does. -/
structure Service (σ ρ κ ε : Type) where
  arrive : κ → ρ
  move : σ → ρ → ε → σ × ρ

/-- The store and the requests, in the order of their arrival. -/
structure World (σ ρ : Type) where
  store : σ
  requests : List ρ

inductive Label (κ ε : Type)
  /-- A new request. -/
  | call (k : κ)
  /-- The request `i` moves. -/
  | go (i : Nat) (e : ε)

/-- One label. -/
def World.step (S : Service σ ρ κ ε) (w : World σ ρ) : Label κ ε → World σ ρ
  | .call k => { w with requests := w.requests ++ [S.arrive k] }
  | .go i e =>
    match w.requests[i]? with
    | none => w
    | some r => ⟨(S.move w.store r e).1, w.requests.set i (S.move w.store r e).2⟩

/-- The store before any request. -/
def World.start (s : σ) : World σ ρ := ⟨s, []⟩

/-- The condition `ok` on the moves. -/
def Allowed (ok : σ → ρ → ε → Prop) (w : World σ ρ) : Label κ ε → Prop
  | .call _ => True
  | .go i e => ∀ r ∈ w.requests[i]?, ok w.store r e

instance {ok : σ → ρ → ε → Prop} [∀ s r e, Decidable (ok s r e)] (w : World σ ρ) :
    (l : Label κ ε) → Decidable (Allowed ok w l)
  | .call _ => .isTrue trivial
  | .go i e => inferInstanceAs (Decidable (∀ r ∈ w.requests[i]?, ok w.store r e))

/-- The store is in order, and so is every request. -/
structure InOrder (I : σ → Prop) (F : σ → ρ → Prop) (w : World σ ρ) : Prop where
  store : I w.store
  each : ∀ r ∈ w.requests, F w.store r

variable {S : Service σ ρ κ ε} {w : World σ ρ} {I : σ → Prop} {F : σ → ρ → Prop}
  {ok : σ → ρ → ε → Prop}

theorem step_none (hi : w.requests[i]? = none) (e : ε) : w.step S (.go i e) = w := by
  simp only [World.step, hi]

theorem step_some (hi : w.requests[i]? = some r) (e : ε) :
    w.step S (.go i e) =
      ⟨(S.move w.store r e).1, w.requests.set i (S.move w.store r e).2⟩ := by
  simp only [World.step, hi]

theorem allowed_go (hi : w.requests[i]? = some r) (e : ε) :
    Allowed ok w (.go i e : Label κ ε) ↔ ok w.store r e := by
  refine ⟨fun hl => hl r hi, fun hok q hq => ?_⟩
  rw [hi] at hq
  cases hq
  exact hok

theorem each_append {P : ρ → Prop} {rs : List ρ} (h : ∀ q ∈ rs, P q) (hr : P r) :
    ∀ q ∈ rs ++ [r], P q := by
  intro q hq
  rcases List.mem_append.mp hq with hq | hq
  · exact h q hq
  · rwa [List.mem_singleton.mp hq]

theorem each_set {P : ρ → Prop} {rs : List ρ} (h : ∀ q ∈ rs, P q) (hr : P r) :
    ∀ q ∈ rs.set i r, P q := by
  intro q hq
  rcases List.mem_or_eq_of_mem_set hq with hq | rfl
  · exact h q hq
  · exact hr

/-! ## Invariants -/

/-- **One label.** A move may disturb neither the store, nor its own request, nor the others. -/
theorem InOrder.step (hcall : ∀ s k, I s → F s (S.arrive k))
    (hmove : ∀ s r e, I s → F s r → ok s r e →
      I (S.move s r e).1 ∧ F (S.move s r e).1 (S.move s r e).2)
    (hothers : ∀ s r e q, I s → F s r → F s q → ok s r e → F (S.move s r e).1 q)
    (h : InOrder I F w) {l : Label κ ε} (hl : Allowed ok w l) : InOrder I F (w.step S l) := by
  cases l with
  | call k => exact ⟨h.store, each_append h.each (hcall _ k h.store)⟩
  | go i e =>
    cases hi : w.requests[i]? with
    | none => rwa [step_none hi]
    | some r =>
      have hr := h.each r (List.mem_of_getElem? hi)
      have hok := hl r hi
      obtain ⟨hstore, hself⟩ := hmove _ r e h.store hr hok
      rw [step_some hi]
      exact ⟨hstore, each_set (fun q hq => hothers _ r e q h.store hr (h.each q hq) hok) hself⟩

/-- A property of the requests alone that every move keeps. -/
theorem each_exec {F : ρ → Prop} (hcall : ∀ k, F (S.arrive k))
    (hmove : ∀ s r e, F r → F (S.move s r e).2) (h : ∀ r ∈ w.requests, F r)
    (ls : List (Label κ ε)) : ∀ r ∈ (Run.exec (World.step S) w ls).requests, F r := by
  have hw : InOrder (fun _ => True) (fun _ => F) w := ⟨trivial, h⟩
  have hany : ∀ (w : World σ ρ) (l : Label κ ε), Allowed (fun _ _ _ => True) w l := by
    intro w l
    cases l with
    | call k => trivial
    | go i e => exact fun _ _ => trivial
  exact (Run.exec_preserves (P := InOrder (fun _ => True) fun _ => F)
    (fun w l hw => hw.step (fun _ k _ => hcall k) (fun s r e _ hr _ => ⟨trivial, hmove s r e hr⟩)
      (fun _ _ _ _ _ _ hq _ => hq) (hany w l)) ls hw).each

/-! ## The exact condition -/

/-- **The exact condition, on the steps.** `R` is what every move should do to the store. -/
theorem allSteps_iff {R : σ → σ → Prop} (hrefl : ∀ s, I s → R s s)
    (hcall : ∀ s k, I s → F s (S.arrive k))
    (hmove : ∀ s r e, I s → F s r → (R s (S.move s r e).1 ↔ ok s r e))
    (hkeep : ∀ s r e, I s → F s r → ok s r e →
      I (S.move s r e).1 ∧ F (S.move s r e).1 (S.move s r e).2)
    (hothers : ∀ s r e q, I s → F s r → F s q → ok s r e → F (S.move s r e).1 q)
    (h : InOrder I F w) (ls : List (Label κ ε)) :
    Run.AllSteps (World.step S) (fun w _ w' => R w.store w'.store) w ls ↔
      Run.Meets (World.step S) (Allowed ok) w ls := by
  refine Run.allSteps_iff_of_inv (P := InOrder I F)
    (fun _ _ hw hl => hw.step hcall hkeep hothers hl) (fun w l hw => ?_) ls h
  cases l with
  | call k => exact ⟨fun _ => trivial, fun _ => hrefl _ hw.store⟩
  | go i e =>
    cases hi : w.requests[i]? with
    | none =>
      rw [step_none hi]
      refine ⟨fun _ r hr => ?_, fun _ => hrefl _ hw.store⟩
      rw [hi] at hr
      cases hr
    | some r =>
      rw [step_some hi, allowed_go hi]
      exact hmove _ r e hw.store (hw.each r (List.mem_of_getElem? hi))

variable {J : σ → Prop} {F G : ρ → Prop}

/-- A label keeps everything in order exactly when it is allowed, given what `G` says of the
requests anyway. -/
theorem inOrder_step_iff (hcall : ∀ k, F (S.arrive k))
    (hmove : ∀ s r e, G r → J s → F r →
      (J (S.move s r e).1 ∧ F (S.move s r e).2 ↔ ok s r e))
    (hG : ∀ r ∈ w.requests, G r) (h : InOrder J (fun _ => F) w) (l : Label κ ε) :
    InOrder J (fun _ => F) (w.step S l) ↔ Allowed ok w l := by
  cases l with
  | call k => exact ⟨fun _ => trivial, fun _ => ⟨h.store, each_append h.each (hcall k)⟩⟩
  | go i e =>
    cases hi : w.requests[i]? with
    | none =>
      rw [step_none hi]
      refine ⟨fun _ r hr => ?_, fun _ => h⟩
      rw [hi] at hr
      cases hr
    | some r =>
      have hmem := List.mem_of_getElem? hi
      have hiff := hmove w.store r e (hG r hmem) h.store (h.each r hmem)
      have hlt : i < w.requests.length := (List.getElem?_eq_some_iff.mp hi).1
      rw [allowed_go hi, ← hiff, step_some hi]
      constructor
      · exact fun hw => ⟨hw.store, hw.each _ (List.mem_set hlt _)⟩
      · exact fun ⟨hstore, hself⟩ => ⟨hstore, each_set h.each hself⟩

/-- **The exact condition.** `G` is what holds of the requests in every run. -/
theorem throughout_iff (hcall : ∀ k, F (S.arrive k)) (hcallG : ∀ k, G (S.arrive k))
    (hmoveG : ∀ s r e, G r → G (S.move s r e).2)
    (hmove : ∀ s r e, G r → J s → F r →
      (J (S.move s r e).1 ∧ F (S.move s r e).2 ↔ ok s r e))
    (hG : ∀ r ∈ w.requests, G r) (h : InOrder J (fun _ => F) w) (ls : List (Label κ ε)) :
    (∀ pre, pre <+: ls → InOrder J (fun _ => F) (Run.exec (World.step S) w pre)) ↔
      Run.Meets (World.step S) (Allowed ok) w ls := by
  have heach : ∀ pre, ∀ r ∈ (Run.exec (World.step S) w pre).requests, G r :=
    fun pre => each_exec hcallG hmoveG hG pre
  have hstep : ∀ (w : World σ ρ) (l : Label κ ε),
      (∀ r ∈ w.requests, G r) ∧ InOrder J (fun _ => F) w →
      ((∀ r ∈ (w.step S l).requests, G r) ∧ InOrder J (fun _ => F) (w.step S l) ↔
        Allowed ok w l) := by
    intro w l hw
    have hGl : ∀ r ∈ (w.step S l).requests, G r := each_exec hcallG hmoveG hw.1 [l]
    rw [and_iff_right hGl]
    exact inOrder_step_iff hcall hmove hw.1 hw.2 l
  rw [← Run.inv_throughout_iff hstep ⟨hG, h⟩]
  exact forall₂_congr fun pre _ => (and_iff_right (heach pre)).symm

end Requests

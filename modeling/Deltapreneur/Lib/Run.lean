import Mathlib.Data.List.Induction

/-!
# Runs of a labelled step function

A system is a function `step : σ → ι → σ`: the label carries everything the environment
decides (the caller, the clock, an answer of an outside service), and a label that is not
enabled leaves the state as it is. A run is a list of labels.

* `exec step s ls` is the state a run ends in.
* `AllSteps step R s ls` says that every step `s₁ -l→ s₂` of the run satisfies `R s₁ l s₂`.
* `Meets step ok s ls` is the special case used for conditions: every step is taken from a
  state in which `ok` accepts its label.

Results:

* `exec_append`, `meets_append`: a run splits at any point.
* `allSteps_iff`: `AllSteps` read as a statement about every cut `pre ++ l :: post`.
* `exec_inv`: a property that every accepted step keeps holds after every accepted run.
* `exec_preserves`: the same without a condition on the steps.
* `allSteps_iff_meets`: where a step satisfies `R` exactly when it is accepted, so do runs.
* `allSteps_iff_of_inv`: the same where only the accepted steps keep the invariant.
* `throughout_iff`: where a step keeps the property exactly when it is accepted, the property
  holds throughout exactly the accepted runs. `inv_throughout_iff` is the case without a further
  invariant.
* `allSteps_of_inv`, `allSteps_of_preserved`: with such a property at hand, a fact about one step
  is a fact about every step of the run.
* `allSteps_flatMap`: the same for runs of whole operations, each a block of steps.
* `Since`: an event has happened, and a condition has held ever since. `since_of_latch` and
  `latch_of_since` relate it to a fact about the last state only.
* `exists_last_event`: what only an event brings about leads back to the last one.
-/

namespace Run

variable {σ ι : Type*}

/-- The state the run `ls` ends in. -/
def exec (step : σ → ι → σ) (s : σ) (ls : List ι) : σ := ls.foldl step s

/-- Every step of the run satisfies `R`. -/
def AllSteps (step : σ → ι → σ) (R : σ → ι → σ → Prop) : σ → List ι → Prop
  | _, [] => True
  | s, l :: ls => R s l (step s l) ∧ AllSteps step R (step s l) ls

/-- Every step of the run is accepted by `ok` in the state it starts from. -/
def Meets (step : σ → ι → σ) (ok : σ → ι → Prop) (s : σ) (ls : List ι) : Prop :=
  AllSteps step (fun s l _ => ok s l) s ls

variable {step : σ → ι → σ} {R : σ → ι → σ → Prop} {ok : σ → ι → Prop} {P : σ → Prop}

/-! ## Computing runs -/

@[simp] theorem exec_nil (s : σ) : exec step s [] = s := rfl

@[simp] theorem exec_cons (s : σ) (l : ι) (ls : List ι) :
    exec step s (l :: ls) = exec step (step s l) ls := rfl

theorem exec_append (s : σ) (ls ms : List ι) :
    exec step s (ls ++ ms) = exec step (exec step s ls) ms := List.foldl_append

@[simp] theorem allSteps_nil (s : σ) : AllSteps step R s [] := trivial

@[simp] theorem allSteps_cons (s : σ) (l : ι) (ls : List ι) :
    AllSteps step R s (l :: ls) ↔ R s l (step s l) ∧ AllSteps step R (step s l) ls := Iff.rfl

@[simp] theorem meets_nil (s : σ) : Meets step ok s [] := trivial

@[simp] theorem meets_cons (s : σ) (l : ι) (ls : List ι) :
    Meets step ok s (l :: ls) ↔ ok s l ∧ Meets step ok (step s l) ls := Iff.rfl

/-- A condition on runs over decidable conditions on steps can be evaluated. -/
instance decidableAllSteps [∀ s l s', Decidable (R s l s')] :
    (s : σ) → (ls : List ι) → Decidable (AllSteps step R s ls)
  | _, [] => .isTrue trivial
  | s, l :: ls =>
    have := decidableAllSteps (step s l) ls
    inferInstanceAs (Decidable (R s l (step s l) ∧ AllSteps step R (step s l) ls))

instance decidableMeets [∀ s l, Decidable (ok s l)] (s : σ) (ls : List ι) :
    Decidable (Meets step ok s ls) :=
  decidableAllSteps s ls

/-! ## Splitting a run -/

theorem allSteps_append : ∀ (s : σ) (ls ms : List ι),
    AllSteps step R s (ls ++ ms) ↔
      AllSteps step R s ls ∧ AllSteps step R (exec step s ls) ms
  | s, [], ms => by simp
  | s, l :: ls, ms => by
    simp only [List.cons_append, allSteps_cons, exec_cons]
    rw [allSteps_append (step s l) ls ms, and_assoc]

theorem meets_append (s : σ) (ls ms : List ι) :
    Meets step ok s (ls ++ ms) ↔ Meets step ok s ls ∧ Meets step ok (exec step s ls) ms :=
  allSteps_append s ls ms

/-- `AllSteps` speaks about the step at every cut of the run. -/
theorem allSteps_iff : ∀ (s : σ) (ls : List ι),
    AllSteps step R s ls ↔ ∀ pre l post, ls = pre ++ l :: post →
      R (exec step s pre) l (step (exec step s pre) l)
  | s, [] => by simp
  | s, m :: ls => by
    rw [allSteps_cons, allSteps_iff (step s m) ls]
    constructor
    · rintro ⟨hm, hls⟩ pre l post heq
      cases pre with
      | nil =>
        obtain ⟨rfl, -⟩ := List.cons.inj heq
        exact hm
      | cons p pre =>
        obtain ⟨rfl, htl⟩ := List.cons.inj heq
        exact hls pre l post htl
    · intro h
      refine ⟨h [] m ls rfl, fun pre l post heq => ?_⟩
      exact h (m :: pre) l post (by rw [heq, List.cons_append])

/-- A condition on the labels alone. -/
theorem meets_of_forall {Q : ι → Prop} : ∀ (s : σ) {ls : List ι}, (∀ l ∈ ls, Q l) →
    Meets step (fun _ l => Q l) s ls
  | _, [], _ => trivial
  | s, l :: _, h =>
    ⟨h l List.mem_cons_self,
      meets_of_forall (step s l) fun m hm => h m (List.mem_cons_of_mem l hm)⟩

/-- Two conditions on the steps. -/
theorem meets_and {ok' : σ → ι → Prop} : ∀ {s : σ} {ls : List ι}, Meets step ok s ls →
    Meets step ok' s ls → Meets step (fun s l => ok s l ∧ ok' s l) s ls
  | _, [], _, _ => trivial
  | _, _ :: _, ⟨hl, hls⟩, ⟨hl', hls'⟩ => ⟨⟨hl, hl'⟩, meets_and hls hls'⟩

/-! ## Invariants -/

/-- **The invariant rule.** What every accepted step keeps holds at the end of every accepted
run, so in every state such a run reaches. -/
theorem exec_inv (hstep : ∀ s l, P s → ok s l → P (step s l)) :
    ∀ {s : σ} {ls : List ι}, P s → Meets step ok s ls → P (exec step s ls)
  | _, [], hs, _ => hs
  | s, l :: ls, hs, h => by
    obtain ⟨hl, hls⟩ := h
    rw [exec_cons]
    exact exec_inv hstep (hstep s l hs hl) hls

/-- What every step keeps holds at the end of every run. -/
theorem exec_preserves (hstep : ∀ s l, P s → P (step s l)) :
    ∀ {s : σ} (ls : List ι), P s → P (exec step s ls)
  | _, [], hs => hs
  | s, l :: ls, hs => exec_preserves hstep ls (hstep s l hs)

/-- What holds of every accepted step from an invariant state holds of every step of an
accepted run. -/
theorem allSteps_of_inv (hstep : ∀ s l, P s → ok s l → P (step s l))
    (hR : ∀ s l, P s → ok s l → R s l (step s l)) :
    ∀ {s : σ} {ls : List ι}, P s → Meets step ok s ls → AllSteps step R s ls
  | _, [], _, _ => trivial
  | s, l :: ls, hs, h => by
    obtain ⟨hl, hls⟩ := h
    exact ⟨hR s l hs hl, allSteps_of_inv hstep hR (hstep s l hs hl) hls⟩

/-- The same without a condition on the steps. -/
theorem allSteps_of_preserved (hstep : ∀ s l, P s → P (step s l))
    (hR : ∀ s l, P s → R s l (step s l)) : ∀ {s : σ} (ls : List ι), P s → AllSteps step R s ls
  | _, [], _ => trivial
  | s, l :: ls, hs => ⟨hR s l hs, allSteps_of_preserved hstep hR ls (hstep s l hs)⟩

/-- If from an invariant state the accepted steps are exactly those that satisfy `R`, the accepted
runs are exactly those all of whose steps do. -/
theorem allSteps_iff_meets (hstep : ∀ s l, P s → P (step s l))
    (hR : ∀ s l, P s → (R s l (step s l) ↔ ok s l)) :
    ∀ {s : σ} (ls : List ι), P s → (AllSteps step R s ls ↔ Meets step ok s ls)
  | _, [], _ => Iff.rfl
  | s, l :: ls, hs => and_congr (hR s l hs) (allSteps_iff_meets hstep hR ls (hstep s l hs))

/-- The same where the invariant is kept by the accepted steps. -/
theorem allSteps_iff_of_inv (hstep : ∀ s l, P s → ok s l → P (step s l))
    (hR : ∀ s l, P s → (R s l (step s l) ↔ ok s l)) :
    ∀ {s : σ} (ls : List ι), P s → (AllSteps step R s ls ↔ Meets step ok s ls)
  | _, [], _ => Iff.rfl
  | s, l :: ls, hs => by
    refine ⟨fun ⟨hl, hls⟩ => ?_, fun ⟨hl, hls⟩ => ?_⟩
    · have hok := (hR s l hs).mp hl
      exact ⟨hok, (allSteps_iff_of_inv hstep hR ls (hstep s l hs hok)).mp hls⟩
    · exact ⟨(hR s l hs).mpr hl, (allSteps_iff_of_inv hstep hR ls (hstep s l hs hl)).mpr hls⟩

/-- **The exact condition.** Let a step keep the invariant `I` as long as the property has not
failed, and keep the property exactly when it is accepted. Then the property holds throughout the
runs of accepted steps and in no others. -/
theorem throughout_iff {I : σ → Prop}
    (hstep : ∀ s l, I s → P s → I (step s l) ∧ (P (step s l) ↔ ok s l)) :
    ∀ {s : σ} {ls : List ι}, I s → P s →
      ((∀ pre, pre <+: ls → P (exec step s pre)) ↔ Meets step ok s ls)
  | s, [], _, hs => by
    constructor
    · exact fun _ => trivial
    · rintro - pre hpre
      rw [List.prefix_nil.mp hpre]
      exact hs
  | s, l :: ls, hI, hs => by
    obtain ⟨hI', hiff⟩ := hstep s l hI hs
    constructor
    · intro h
      have hl : P (step s l) := h [l] (List.cons_prefix_cons.mpr ⟨rfl, List.nil_prefix⟩)
      refine ⟨hiff.mp hl, (throughout_iff hstep hI' hl).mp fun pre hpre => ?_⟩
      exact h (l :: pre) (List.cons_prefix_cons.mpr ⟨rfl, hpre⟩)
    · rintro ⟨hl, hls⟩ pre hpre
      have hl' := hiff.mpr hl
      cases pre with
      | nil => exact hs
      | cons m pre =>
        obtain ⟨rfl, hrest⟩ := List.cons_prefix_cons.mp hpre
        exact (throughout_iff hstep hI' hl').mpr hls pre hrest

/-- The same for a property that is its own invariant. -/
theorem inv_throughout_iff (hstep : ∀ s l, P s → (P (step s l) ↔ ok s l)) {s : σ} {ls : List ι}
    (hs : P s) : (∀ pre, pre <+: ls → P (exec step s pre)) ↔ Meets step ok s ls :=
  throughout_iff (I := fun _ => True) (fun s l _ hP => ⟨trivial, hstep s l hP⟩) trivial hs

/-- **Whole operations.** Let an operation be a block `labels k` of steps. If every accepted
operation from a `P` state ends in a `P` state and all its steps satisfy `R`, then so do all
the steps of a run of accepted operations. -/
theorem allSteps_flatMap {κ : Type*} {labels : κ → List ι} {okOp : σ → κ → Prop}
    (hop : ∀ s k, P s → okOp s k →
      AllSteps step R s (labels k) ∧ P (exec step s (labels k))) :
    ∀ {s : σ} {ks : List κ}, P s → Meets (fun s k => exec step s (labels k)) okOp s ks →
      AllSteps step R s (ks.flatMap labels)
  | _, [], _, _ => trivial
  | s, k :: ks, hs, h => by
    obtain ⟨hk, hks⟩ := h
    obtain ⟨hsteps, hend⟩ := hop s k hs hk
    rw [List.flatMap_cons, allSteps_append]
    exact ⟨hsteps, allSteps_flatMap hop hend hks⟩

/-! ## Since -/

/-- Some step of the run was an `event`, and every state from its end on satisfies `keep`. -/
def Since (step : σ → ι → σ) (event : σ → ι → Prop) (keep : σ → Prop) (s : σ) (ls : List ι) :
    Prop :=
  ∃ pre l post, ls = pre ++ l :: post ∧ event (exec step s pre) l ∧
    AllSteps step (fun _ _ s' => keep s') (exec step s pre) (l :: post)

variable {event : σ → ι → Prop} {keep : σ → Prop} {s : σ}

/-- A state that only an event brings about, and that implies `keep`, tells that an event has
happened and `keep` has held since. The induction is on the run from its end. -/
theorem since_of_latch (hinit : ¬ P s)
    (hstep : ∀ s l, P (step s l) → keep (step s l) ∧ (event s l ∨ P s)) (ls : List ι)
    (h : P (exec step s ls)) : Since step event keep s ls := by
  induction ls using List.reverseRecOn with
  | nil => exact absurd h hinit
  | append_singleton ls l ih =>
    rw [exec_append, exec_cons, exec_nil] at h
    obtain ⟨hkeep, hevent | hold⟩ := hstep _ l h
    · exact ⟨ls, l, [], rfl, hevent, hkeep, trivial⟩
    · obtain ⟨pre, m, post, rfl, hev, hall⟩ := ih hold
      refine ⟨pre, m, post ++ [l], by simp, hev, ?_⟩
      rw [← List.cons_append, allSteps_append]
      refine ⟨hall, ?_, trivial⟩
      rwa [← exec_append]

/-- A state that only an event brings about tells that an event has happened, and there is a last
one. The induction is on the run from its end. -/
theorem exists_last_event (hinit : ¬ P s) (hstep : ∀ s l, P (step s l) → event s l ∨ P s)
    (ls : List ι) (h : P (exec step s ls)) :
    ∃ pre l post, ls = pre ++ l :: post ∧ event (exec step s pre) l ∧
      Meets step (fun s l => ¬ event s l) (exec step s (pre ++ [l])) post := by
  induction ls using List.reverseRecOn with
  | nil => exact absurd h hinit
  | append_singleton ls l ih =>
    rw [exec_append, exec_cons, exec_nil] at h
    by_cases hlast : event (exec step s ls) l
    · exact ⟨ls, l, [], rfl, hlast, trivial⟩
    · obtain ⟨pre, m, post, rfl, hev, hno⟩ := ih ((hstep _ l h).resolve_left hlast)
      refine ⟨pre, m, post ++ [l], by simp, hev, (meets_append _ _ _).mpr ⟨hno, ?_, trivial⟩⟩
      rw [← exec_append, List.append_assoc]
      exact hlast

/-- What every event brings about, and what stays while `keep` holds, holds now. -/
theorem latch_of_since (hevent : ∀ s l, event s l → keep (step s l) → P (step s l))
    (hstep : ∀ s l, P s → keep (step s l) → P (step s l)) {ls : List ι}
    (h : Since step event keep s ls) : P (exec step s ls) := by
  obtain ⟨pre, l, post, rfl, hev, hkeep, hpost⟩ := h
  rw [exec_append, exec_cons]
  have hnow := hevent _ l hev hkeep
  generalize step (exec step s pre) l = t at hnow hpost
  induction post generalizing t with
  | nil => exact hnow
  | cons m post ih =>
    obtain ⟨hm, hrest⟩ := hpost
    exact ih (step t m) (hstep t m hnow hm) hrest

end Run

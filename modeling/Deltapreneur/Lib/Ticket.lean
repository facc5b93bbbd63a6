import Mathlib.Data.List.Nodup

/-!
# Tickets

A ticket pays for one thing. Some parties hold a ticket each while they are at work
(`holders : ι → Option τ`), and a list tells which tickets are spent, newest first.

`Sound` says that no ticket is spent twice, that nobody holds a spent one and that nobody else
holds the ticket one holds. A party that lets its ticket go (`Sound.shrink`), takes one that is
neither spent nor held (`Sound.take`) or spends the one it holds (`Sound.spend`) keeps that.
-/

namespace Ticket

variable {ι τ : Type*} {holders holders' : ι → Option τ} {spent : List τ} {i : ι} {t : τ}

/-- No ticket is spent twice, held when it is spent, or held by two. -/
structure Sound (holders : ι → Option τ) (spent : List τ) : Prop where
  nodup : spent.Nodup
  unspent : ∀ i t, holders i = some t → t ∉ spent
  apart : ∀ i j t, holders i = some t → holders j = some t → i = j

theorem sound_nil (h : ∀ i, holders i = none) : Sound holders [] :=
  ⟨List.nodup_nil, fun _ _ _ => List.not_mem_nil, fun i _ t hi => absurd (h i) (by simp [hi])⟩

theorem Sound.shrink (h : Sound holders spent)
    (hle : ∀ i, holders' i = holders i ∨ holders' i = none) : Sound holders' spent := by
  have hback : ∀ i t, holders' i = some t → holders i = some t := by
    intro i t hi
    rcases hle i with heq | hnone
    · exact heq ▸ hi
    · cases hnone.symm.trans hi
  exact ⟨h.nodup, fun i t hi => h.unspent i t (hback i t hi),
    fun i j t hi hj => h.apart i j t (hback i t hi) (hback j t hj)⟩

variable [DecidableEq ι]

theorem Sound.take (h : Sound holders spent) (hnew : t ∉ spent)
    (hfree : ∀ j, j ≠ i → holders j ≠ some t) :
    Sound (Function.update holders i (some t)) spent := by
  refine ⟨h.nodup, fun j u hj => ?_, fun j k u hj hk => ?_⟩
  · by_cases hji : j = i
    · rw [hji, Function.update_self] at hj
      exact Option.some.inj hj ▸ hnew
    · rw [Function.update_of_ne hji] at hj
      exact h.unspent j u hj
  · by_cases hji : j = i <;> by_cases hki : k = i
    · rw [hji, hki]
    · rw [hji, Function.update_self] at hj
      rw [Function.update_of_ne hki] at hk
      exact absurd (Option.some.inj hj ▸ hk) (hfree k hki)
    · rw [hki, Function.update_self] at hk
      rw [Function.update_of_ne hji] at hj
      exact absurd (Option.some.inj hk ▸ hj) (hfree j hji)
    · rw [Function.update_of_ne hji] at hj
      rw [Function.update_of_ne hki] at hk
      exact h.apart j k u hj hk

theorem Sound.spend (h : Sound holders spent) (hi : holders i = some t) :
    Sound (Function.update holders i none) (t :: spent) := by
  refine ⟨List.nodup_cons.mpr ⟨h.unspent i t hi, h.nodup⟩, fun j u hj => ?_, fun j k u hj hk => ?_⟩
  · by_cases hji : j = i
    · rw [hji, Function.update_self] at hj
      cases hj
    · rw [Function.update_of_ne hji] at hj
      intro hmem
      rcases List.mem_cons.mp hmem with rfl | hmem
      · exact hji (h.apart j i u hj hi)
      · exact h.unspent j u hj hmem
  · have hshrunk : Sound (Function.update holders i none) spent := h.shrink fun m => by
      by_cases hm : m = i
      · exact .inr (by rw [hm, Function.update_self])
      · exact .inl (Function.update_of_ne hm _ _)
    exact hshrunk.apart j k u hj hk

end Ticket

import Mathlib.Data.Set.Pairwise.Basic
import Mathlib.Order.Interval.Set.Basic
import Mathlib.Tactic.Common

/-!
# Calendars: bookings with participants

A booking takes a half-open slot of time and has participants. Two bookings clash when somebody
takes part in both and their slots overlap.

* `Slot.overlaps_iff`: the comparison of end points that programs make says that the two slots
  have an instant in common. It needs that no slot is empty, so `Slot` carries that.
* `Unclashed.confirm`: adding one booking to those in force, whatever else happens to them, keeps
  them free of clashes exactly when it clashes with none of them (`unclashed_confirm_iff`).
* `Unclashed.subset`: dropping bookings keeps it.
-/

namespace Calendar

/-! ## Slots -/

/-- A half-open slot of time, not empty. -/
structure Slot (τ : Type*) [LT τ] where
  start : τ
  stop : τ
  lt : start < stop

variable {τ β υ : Type*}

/-- The comparison of end points. -/
def Slot.Overlaps [LT τ] (a b : Slot τ) : Prop := b.start < a.stop ∧ a.start < b.stop

instance [LT τ] [DecidableLT τ] (a b : Slot τ) : Decidable (a.Overlaps b) :=
  inferInstanceAs (Decidable (_ ∧ _))

theorem Slot.Overlaps.symm [LT τ] {a b : Slot τ} (h : a.Overlaps b) : b.Overlaps a := ⟨h.2, h.1⟩

/-- **Overlapping slots are those with an instant in common.** -/
theorem Slot.overlaps_iff [LinearOrder τ] (a b : Slot τ) :
    a.Overlaps b ↔ (Set.Ico a.start a.stop ∩ Set.Ico b.start b.stop).Nonempty := by
  constructor
  · rintro ⟨hba, hab⟩
    refine ⟨max a.start b.start, ⟨le_max_left _ _, max_lt a.lt hba⟩, le_max_right _ _, ?_⟩
    exact max_lt hab b.lt
  · rintro ⟨t, ⟨hat, hta⟩, hbt, htb⟩
    exact ⟨hbt.trans_lt hta, hat.trans_lt htb⟩

/-! ## Bookings in force -/

variable [LT τ] {slot : β → Slot τ} {takesPart : υ → β → Prop}

/-- Somebody takes part in both, at overlapping times. -/
def Clash (slot : β → Slot τ) (takesPart : υ → β → Prop) (a b : β) : Prop :=
  (slot a).Overlaps (slot b) ∧ ∃ u, takesPart u a ∧ takesPart u b

/-- No two of the bookings in force clash. -/
def Unclashed (slot : β → Slot τ) (takesPart : υ → β → Prop) (inForce : Set β) : Prop :=
  inForce.Pairwise fun a b => ¬ Clash slot takesPart a b

theorem Clash.symm {a b : β} (h : Clash slot takesPart a b) : Clash slot takesPart b a := by
  obtain ⟨hover, u, ha, hb⟩ := h
  exact ⟨hover.symm, u, hb, ha⟩

theorem Unclashed.subset {s t : Set β} (h : Unclashed slot takesPart t) (hst : s ⊆ t) :
    Unclashed slot takesPart s :=
  Set.Pairwise.mono hst h

/-- **One more booking.** -/
theorem unclashed_confirm_iff {s : Set β} {b : β} (h : Unclashed slot takesPart s) :
    Unclashed slot takesPart (insert b s) ↔ ∀ a ∈ s, a ≠ b → ¬ Clash slot takesPart a b := by
  constructor
  · intro hall a ha hab
    exact hall (Set.mem_insert_of_mem b ha) (Set.mem_insert b s) hab
  · intro hnew x hx y hy hxy
    rcases Set.mem_insert_iff.mp hx with hxb | hxs <;>
      rcases Set.mem_insert_iff.mp hy with hyb | hys
    · exact absurd (hxb.trans hyb.symm) hxy
    · subst hxb
      exact fun hc => hnew y hys hxy.symm hc.symm
    · subst hyb
      exact hnew x hxs hxy
    · exact h hxs hys hxy

end Calendar

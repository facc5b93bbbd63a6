import Deltapreneur.Meetings.Schedule
import Mathlib.Data.Set.Lattice
import Mathlib.Order.CompletePartialOrder

/-!
# Double-booked meetings

`confirm_meeting` looks for meetings the lister has confirmed as a lister. The requester's
meetings, and those the lister takes part in as a requester, are not looked at, so two listers
can confirm the same requester for the same hour (`requester_double_booked`).

* `step_does`: what a call does to the table.
* `Schedules.confirmed`: the appointments in force, a calendar in the sense of `Lib/Calendar`.
  Requests leave it, cancelling and completing shrink it, a confirmation adds one appointment.
* `doubleBooking_iff`: nobody is ever double-booked exactly in the runs whose confirmations find
  the requester free in both roles and the lister free as a requester.
-/

namespace Deltapreneur.Meetings

open Calendar Run

/-! ## The calendar behind the table -/

theorem lt_meetingEnd (a : Appointment) : a.scheduledAt < meetingEnd a := by
  have hpos := a.durationMinutes.2.1
  exact Nat.lt_add_of_pos_right (Nat.mul_pos hpos (by decide))

/-- The time an appointment takes. -/
def Appointment.slot (a : Appointment) : Slot Instant := ⟨a.scheduledAt, meetingEnd a, lt_meetingEnd a⟩

/-- `u` is the lister or the requester. -/
def TakesPart (u : UserId) (a : Appointment) : Prop := a.listerId = u ∨ a.requesterId = u

/-- The appointments of the `CONFIRMED` rows. -/
def Schedules.confirmed (b : Schedules) : Set Appointment :=
  { a | ∃ m ∈ b.rows, m.status = .confirmed ∧ m.toAppointment = a }

/-- Nobody takes part in two confirmed meetings at the same time. -/
def Schedules.NoDoubleBooking (b : Schedules) : Prop :=
  ∀ u, ∀ m ∈ b.rows, ∀ m' ∈ b.rows, m.id ≠ m'.id → m.status = .confirmed → m'.status = .confirmed →
    TakesPart u m.toAppointment → TakesPart u m'.toAppointment →
    Disjoint (Set.Ico m.scheduledAt (meetingEnd m.toAppointment))
      (Set.Ico m'.scheduledAt (meetingEnd m'.toAppointment))

variable {b b' : Schedules} {m m' : MeetingSchedule} {c : Call}

theorem overlaps_eq (start stop : Instant) (h : start < stop) (a : Appointment) :
    overlaps start stop a = true ↔ a.slot.Overlaps ⟨start, stop, h⟩ := by
  simp [overlaps, Slot.Overlaps, Appointment.slot, and_comm]

theorem Schedules.nodup (b : Schedules) : (b.rows.map (·.id)).Nodup := by
  rw [b.numbered]
  exact List.nodup_range

theorem Schedules.eq_of_id (hm : m ∈ b.rows) (hm' : m' ∈ b.rows) (h : m.id = m'.id) : m = m' :=
  List.inj_on_of_nodup_map b.nodup hm hm' h

theorem noDoubleBooking_iff :
    b.NoDoubleBooking ↔ Unclashed Appointment.slot TakesPart b.confirmed := by
  constructor
  · rintro h _ ⟨m, hm, hconf, rfl⟩ _ ⟨m', hm', hconf', rfl⟩ hne ⟨hover, u, hu, hu'⟩
    have hid : m.id ≠ m'.id := fun heq => hne (by rw [Schedules.eq_of_id hm hm' heq])
    have hdisj := h u m hm m' hm' hid hconf hconf' hu hu'
    obtain ⟨t, ht⟩ := (Slot.overlaps_iff _ _).mp hover
    exact Set.disjoint_left.mp hdisj ht.1 ht.2
  · intro h u m hm m' hm' hid hconf hconf' hu hu'
    have hne : m.toAppointment ≠ m'.toAppointment := fun heq => hid (by rw [heq])
    rw [Set.disjoint_left]
    intro t ht ht'
    exact h ⟨m, hm, hconf, rfl⟩ ⟨m', hm', hconf', rfl⟩ hne
      ⟨(Slot.overlaps_iff _ _).mpr ⟨t, ht, ht'⟩, u, hu, hu'⟩

/-! ## What the calls do -/

/-- A confirmation that gets through its checks. -/
structure Passes (b : Schedules) (meetingId : Nat) (lister : AppUser) (requester : Option AppUser)
    (google : Google) (m : MeetingSchedule) : Prop where
  found : b.getById meetingId = some m
  own : m.listerId = lister.id
  hasGoogle : lister.hasGoogle = true
  pending : m.status = .pending
  free : listerConfirmedOverlap b lister.id m.scheduledAt (meetingEnd m.toAppointment)
    (some m.id) = []
  requester : requester.isSome
  created : ∃ event, google.createMeeting = .ok event

/-- What a call does to the table. -/
inductive Does (b : Schedules) : Call → Schedules → Prop
  | nothing (c : Call) : Does b c b
  | requested {auctionId auction bids req requester now} (m : MeetingSchedule)
      (hm : m.status = .pending) :
      Does b (.request auctionId auction bids req requester now) (b.insert m)
  | confirmed {meetingId lister requester google} (m : MeetingSchedule) (m' : MeetingSchedule)
      (h : Passes b meetingId lister requester google m)
      (hkept : m'.toAppointment = m.toAppointment) (hm' : m'.status = .confirmed) :
      Does b (.confirm meetingId lister requester google) (b.save m')
  | closed {c meetingId} (m : MeetingSchedule) (m' : MeetingSchedule)
      (h : b.getById meetingId = some m) (hc : ∀ i l r g, c ≠ .confirm i l r g)
      (hkept : m'.toAppointment = m.toAppointment) (hm' : m'.status ≠ .confirmed) :
      Does b c (b.save m')

theorem requestMeeting_does {auctionId : AuctionId} {auction : Option Auction}
    {bids : List AuctionId} {req : MeetingScheduleRequest} {requester : AppUser} {now : Instant}
    (h : requestMeeting b auctionId auction bids req requester now = .ok b') :
    Does b (.request auctionId auction bids req requester now) b' := by
  unfold requestMeeting at h
  cases auction with
  | none => exact absurd h raise_ne_ok
  | some auction =>
    simp only [ite_raise_eq_ok] at h
    obtain ⟨-, h⟩ := h
    cases howner : auction.communityOwner with
    | none =>
      rw [howner] at h
      exact absurd h raise_ne_ok
    | some listerId =>
      simp only [howner, ite_raise_eq_ok] at h
      obtain ⟨-, -, -, -, -, -, -, h⟩ := h
      cases h
      exact .requested _ rfl

theorem confirmMeeting_ok_iff {meetingId : Nat} {lister : AppUser} {requester : Option AppUser}
    {google : Google} : confirmMeeting b meetingId lister requester google = .ok b' ↔
      ∃ m created, Passes b meetingId lister requester google m ∧
        google.createMeeting = .ok created ∧
        b' = b.save (m.confirm created) := by
  constructor
  · intro h
    unfold confirmMeeting at h
    cases hget : b.getById meetingId with
    | none =>
      rw [hget] at h
      exact absurd h raise_ne_ok
    | some m =>
      simp only [hget, ite_raise_eq_ok, not_not] at h
      obtain ⟨hown, hgoogle, hpending, hfree, h⟩ := h
      cases requester with
      | none => exact absurd h raise_ne_ok
      | some r =>
        cases hcreated : google.createMeeting with
        | error exc =>
          rw [hcreated] at h
          exact absurd h raise_ne_ok
        | ok created =>
          simp only [hcreated, Except.ok.injEq] at h
          exact ⟨m, created, ⟨hget, hown, hgoogle, hpending, hfree, rfl, created, hcreated⟩,
            rfl, h.symm⟩
  · rintro ⟨m, created, h, hcreated, rfl⟩
    obtain ⟨r, rfl⟩ := Option.isSome_iff_exists.mp h.requester
    simp [confirmMeeting, h.found, h.own, h.hasGoogle, h.pending, h.free, hcreated]

theorem cancelMeeting_does {meetingId : Nat} {reason : Option String} {user : AppUser}
    (h : cancelMeeting b meetingId reason user = .ok b') :
    Does b (.cancel meetingId reason user) b' := by
  unfold cancelMeeting at h
  cases hget : b.getById meetingId with
  | none =>
    rw [hget] at h
    exact absurd h raise_ne_ok
  | some m =>
    simp only [hget, ite_raise_eq_ok] at h
    obtain ⟨-, -, -, h⟩ := h
    cases h
    exact .closed m _ hget (by simp) rfl (by simp)

theorem completeMeeting_does {meetingId : Nat} {lister : AppUser}
    (h : completeMeeting b meetingId lister = .ok b') : Does b (.complete meetingId lister) b' := by
  unfold completeMeeting at h
  cases hget : b.getById meetingId with
  | none =>
    rw [hget] at h
    exact absurd h raise_ne_ok
  | some m =>
    simp only [hget, ite_raise_eq_ok] at h
    obtain ⟨-, -, h⟩ := h
    cases h
    exact .closed m _ hget (by simp) rfl (by simp)

/-- **What a call can do.** -/
theorem step_does (b : Schedules) (c : Call) : Does b c (step b c) := by
  unfold step
  cases h : c.run b with
  | error e => exact .nothing c
  | ok b' =>
    cases c with
    | request => exact requestMeeting_does h
    | confirm =>
      obtain ⟨m, created, hpass, -, rfl⟩ := confirmMeeting_ok_iff.mp h
      exact .confirmed m _ hpass rfl rfl
    | cancel => exact cancelMeeting_does h
    | complete => exact completeMeeting_does h

/-! ## The calendar under the calls -/

theorem Schedules.mem_of_getById {id : Nat} (h : b.getById id = some m) : m ∈ b.rows ∧ m.id = id :=
  Table.lookup_eq_some h

theorem mem_save : m' ∈ (b.save m).rows →
    m' = m ∨ m' ∈ b.rows ∧ m'.id ≠ m.id := by
  intro h
  simp only [Schedules.save, Table.update, List.mem_map] at h
  obtain ⟨r, hr, h⟩ := h
  by_cases hid : r.id = m.id
  · exact .inl (by rw [← h, if_pos hid])
  · rw [if_neg hid] at h
    exact .inr ⟨h ▸ hr, h ▸ hid⟩

theorem save_mem {r : MeetingSchedule} (hr : r ∈ b.rows) :
    (r.id = m.id → m ∈ (b.save m).rows) ∧ (r.id ≠ m.id → r ∈ (b.save m).rows) := by
  simp only [Schedules.save, Table.update, List.mem_map]
  exact ⟨fun h => ⟨r, hr, if_pos h⟩, fun h => ⟨r, hr, if_neg h⟩⟩

theorem confirmed_insert (hm : m.status = .pending) : (b.insert m).confirmed = b.confirmed := by
  ext a
  simp [Schedules.confirmed, Schedules.insert, or_and_right, exists_or, hm]

theorem confirmed_save_closed (hm' : m'.status ≠ .confirmed) :
    (b.save m').confirmed ⊆ b.confirmed := by
  rintro _ ⟨r, hr, hconf, rfl⟩
  rcases mem_save hr with rfl | ⟨hr, -⟩
  · exact absurd hconf hm'
  · exact ⟨r, hr, hconf, rfl⟩

/-- **A confirmation is one meeting more.** -/
theorem confirmed_save (h : b.getById m.id = some m) (hkept : m'.toAppointment = m.toAppointment)
    (hm' : m'.status = .confirmed) :
    (b.save m').confirmed = insert m.toAppointment b.confirmed := by
  obtain ⟨hm, -⟩ := Schedules.mem_of_getById h
  have hid : m'.id = m.id := congrArg Appointment.id hkept
  ext a
  rw [Set.mem_insert_iff]
  constructor
  · rintro ⟨r, hr, hconf, rfl⟩
    rcases mem_save hr with rfl | ⟨hr, -⟩
    · exact .inl hkept
    · exact .inr ⟨r, hr, hconf, rfl⟩
  · rintro (rfl | ⟨r, hr, hconf, rfl⟩)
    · exact ⟨m', (save_mem hm).1 hid.symm, hm', hkept⟩
    · by_cases heq : r.id = m'.id
      · obtain rfl := Schedules.eq_of_id hr hm (heq.trans hid)
        exact ⟨m', (save_mem hm).1 hid.symm, hm', hkept⟩
      · exact ⟨r, (save_mem hr).2 heq, hconf, rfl⟩

/-! ## The condition -/

/-- The requester has no confirmed meeting at the time of the meeting, in either role, and the
lister none as a requester. -/
structure FreeElsewhere (b : Schedules) (m : MeetingSchedule) : Prop where
  requester : requesterConfirmedOverlap b m.requesterId m.scheduledAt
    (meetingEnd m.toAppointment) (some m.id) = []
  requesterLists : listerConfirmedOverlap b m.requesterId m.scheduledAt
    (meetingEnd m.toAppointment) (some m.id) = []
  listerRequests : requesterConfirmedOverlap b m.listerId m.scheduledAt
    (meetingEnd m.toAppointment) (some m.id) = []

/-- A confirmation that gets through finds both parties free elsewhere. -/
def BothFree (b : Schedules) : Call → Prop
  | .confirm meetingId lister requester google =>
    ∀ m, Passes b meetingId lister requester google m → FreeElsewhere b m
  | _ => True

theorem listerConfirmedOverlap_eq_nil {u : UserId} :
    listerConfirmedOverlap b u m.scheduledAt (meetingEnd m.toAppointment) (some m.id) = [] ↔
      ∀ a ∈ b.confirmed, a.id ≠ m.id → a.listerId = u → ¬ a.slot.Overlaps m.slot := by
  simp only [listerConfirmedOverlap, List.filter_eq_nil_iff, List.mem_filter, decide_eq_true_eq,
    overlaps_eq _ _ (lt_meetingEnd m.toAppointment)]
  constructor
  · rintro h _ ⟨r, hr, hconf, rfl⟩ hid hu hover
    exact h r ⟨hr, hu, hconf⟩ ⟨by simpa using hid, hover⟩
  · rintro h r ⟨hr, hu, hconf⟩ ⟨hid, hover⟩
    exact h _ ⟨r, hr, hconf, rfl⟩ (by simpa using hid) hu hover

theorem requesterConfirmedOverlap_eq_nil {u : UserId} :
    requesterConfirmedOverlap b u m.scheduledAt (meetingEnd m.toAppointment) (some m.id) = [] ↔
      ∀ a ∈ b.confirmed, a.id ≠ m.id → a.requesterId = u → ¬ a.slot.Overlaps m.slot := by
  simp only [requesterConfirmedOverlap, List.filter_eq_nil_iff, List.mem_filter,
    decide_eq_true_eq, overlaps_eq _ _ (lt_meetingEnd m.toAppointment)]
  constructor
  · rintro h _ ⟨r, hr, hconf, rfl⟩ hid hu hover
    exact h r ⟨hr, hu, hconf⟩ ⟨by simpa using hid, hover⟩
  · rintro h r ⟨hr, hu, hconf⟩ ⟨hid, hover⟩
    exact h _ ⟨r, hr, hconf, rfl⟩ (by simpa using hid) hu hover

/-- The query of the code and the three of `FreeElsewhere` are all there is to ask. -/
theorem freeElsewhere_iff (hm : b.getById m.id = some m) (hfree : listerConfirmedOverlap b
      m.listerId m.scheduledAt (meetingEnd m.toAppointment) (some m.id) = []) :
    FreeElsewhere b m ↔ ∀ a ∈ b.confirmed, a ≠ m.toAppointment →
      ¬ Clash Appointment.slot TakesPart a m.toAppointment := by
  rw [listerConfirmedOverlap_eq_nil] at hfree
  have hid : ∀ a ∈ b.confirmed, a.id ≠ m.id ↔ a ≠ m.toAppointment := by
    rintro _ ⟨r, hr, -, rfl⟩
    refine not_congr ⟨fun h => ?_, fun h => congrArg Appointment.id h⟩
    rw [Schedules.eq_of_id hr (Schedules.mem_of_getById hm).1 h]
  constructor
  · rintro ⟨h₁, h₂, h₃⟩ a ha hne ⟨hover, u, hu, hu'⟩
    rw [requesterConfirmedOverlap_eq_nil] at h₁ h₃
    rw [listerConfirmedOverlap_eq_nil] at h₂
    have hne := (hid a ha).mpr hne
    rcases hu with rfl | rfl <;> rcases hu' with hl | hr
    · exact hfree a ha hne hl.symm hover
    · exact h₂ a ha hne hr.symm hover
    · exact h₃ a ha hne hl.symm hover
    · exact h₁ a ha hne hr.symm hover
  · intro h
    have hnone : ∀ u a, a ∈ b.confirmed → a.id ≠ m.id → TakesPart u a →
        TakesPart u m.toAppointment → ¬ a.slot.Overlaps m.slot := by
      intro u a ha hne hu hu' hover
      exact h a ha ((hid a ha).mp hne) ⟨hover, u, hu, hu'⟩
    constructor
    · exact requesterConfirmedOverlap_eq_nil.mpr fun a ha hne hu =>
        hnone _ a ha hne (.inr hu) (.inr rfl)
    · exact listerConfirmedOverlap_eq_nil.mpr fun a ha hne hu =>
        hnone _ a ha hne (.inl hu) (.inr rfl)
    · exact requesterConfirmedOverlap_eq_nil.mpr fun a ha hne hu =>
        hnone _ a ha hne (.inr hu) (.inl rfl)

/-! ## Runs -/

/-- **One call.** Only a confirmation can double-book somebody, and it does so exactly when one of
the queries the code does not make would have found a meeting. -/
theorem step_noDoubleBooking_iff (b : Schedules) (c : Call) (h : b.NoDoubleBooking) :
    (step b c).NoDoubleBooking ↔ BothFree b c := by
  rw [noDoubleBooking_iff] at h ⊢
  by_cases hpass : ∃ i l r g m, c = .confirm i l r g ∧ Passes b i l r g m
  · obtain ⟨i, l, r, g, m, rfl, hpass⟩ := hpass
    obtain ⟨event, hevent⟩ := hpass.created
    obtain ⟨hmem, hid⟩ := Schedules.mem_of_getById hpass.found
    have hfound : b.getById m.id = some m := hid.symm ▸ hpass.found
    have hdone := confirmMeeting_ok_iff.mpr ⟨m, event, hpass, hevent, rfl⟩
    have hfree := hpass.free
    rw [← hpass.own] at hfree
    have hstep : step b (.confirm i l r g) = b.save (m.confirm event) := by
      simp only [step, Call.run, hdone]
    have hconf := @confirmed_save b m (m.confirm event) hfound rfl rfl
    rw [hstep, hconf, unclashed_confirm_iff h, ← freeElsewhere_iff hfound hfree]
    constructor
    · intro hall m' hpass'
      cases hpass.found.symm.trans hpass'.found
      exact hall
    · exact fun hall => hall m hpass
  · have hok : BothFree b c := by
      cases c with
      | confirm i l r g => exact fun m hm => absurd ⟨i, l, r, g, m, rfl, hm⟩ hpass
      | request | cancel | complete => trivial
    refine iff_of_true ?_ hok
    have hdoes := step_does b c
    generalize step b c = b' at hdoes ⊢
    cases hdoes with
    | nothing => exact h
    | requested m hm =>
      rw [confirmed_insert hm]
      exact h
    | confirmed m m' hm => exact absurd ⟨_, _, _, _, m, rfl, hm⟩ hpass
    | closed m m' hm hc hkept hm' => exact h.subset (confirmed_save_closed hm')

/-- **Double-booking.** In a run nobody is ever in two confirmed meetings at once exactly when
every confirmation that gets through finds both parties free elsewhere. -/
theorem doubleBooking_iff (calls : List Call) :
    (∀ pre, pre <+: calls → (exec step Schedules.empty pre).NoDoubleBooking) ↔
      Meets step BothFree Schedules.empty calls :=
  inv_throughout_iff step_noDoubleBooking_iff fun _ _ hm => absurd hm List.not_mem_nil

/-! Two listers, one requester. -/

def googleUser (id : UserId) : AppUser := ⟨id, some "google", some "refresh"⟩

/-- The lister's auction is live and the user asks for half an hour at ten. -/
def askAtTen (auction : AuctionId) (lister requester : UserId) : Call :=
  .request auction (some ⟨.active, none, some lister⟩) [auction]
    ⟨10 * hour, some "Introduction", none, none⟩ (googleUser requester) 0

def confirmWithGoogle (meetingId : Nat) (lister requester : UserId) : Call :=
  .confirm meetingId (googleUser lister) (some (googleUser requester))
    ⟨.ok (some "token"), .ok ⟨none, none, none⟩⟩

/-- The row after its confirmation. -/
def confirmedAtTen (id : Nat) (auction : AuctionId) (lister requester : UserId) :
    MeetingSchedule where
  id := id
  auctionId := auction
  requesterId := requester
  listerId := lister
  scheduledAt := 10 * hour
  durationMinutes := ⟨30, by decide⟩
  topic := "Introduction"
  message := none
  status := .confirmed
  meetingLink := ""
  googleCalendarEventId := ""
  calendarEventLink := ""
  cancelReason := none
  cancelledBy := none

/-- User 3 asks the listers 1 and 2 for the same half hour, and both confirm. -/
theorem requester_double_booked : ¬ ∀ calls, (exec step Schedules.empty calls).NoDoubleBooking := by
  intro h
  have hrows : (exec step Schedules.empty [askAtTen 1 1 3, askAtTen 2 2 3, confirmWithGoogle 0 1 3,
      confirmWithGoogle 1 2 3]).rows = [confirmedAtTen 0 1 1 3, confirmedAtTen 1 2 2 3] := by
    decide +kernel
  have hdisj := h _ 3 (confirmedAtTen 0 1 1 3) (by rw [hrows]; simp) (confirmedAtTen 1 2 2 3)
    (by rw [hrows]; simp) (by decide) rfl rfl (.inr rfl) (.inr rfl)
  have hten : 10 * hour ∈ Set.Ico (10 * hour) (10 * hour + 30 * minute) := by
    constructor <;> decide
  exact Set.disjoint_left.mp hdisj hten hten

end Deltapreneur.Meetings

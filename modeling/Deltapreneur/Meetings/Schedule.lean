import Deltapreneur.Lib.Calendar
import Deltapreneur.Lib.Run
import Deltapreneur.Marketplace.Tables

/-!
# Meetings between bidders and listers

Model of `MeetingScheduleService` (`app/service/community/meeting_schedule_service.py`) and of the
conflict queries of `MeetingScheduleRepository`
(`app/repository/meeting_schedule_repository.py:127-172`).

* Instants and durations are counted in microseconds, as `datetime` does.
* The request model strips its texts, so `strip` in the service leaves them as they are.
* What a call reads of other tables (the auction, its lister, the bids, the users) and what
  Google answers comes with the call: other services write it.
* `AppException` stands for `HTTPException` too. Notifications and mails follow the commit and
  are left out.

A meeting may be confirmed only against the lister's other meetings as a lister: `confirmMeeting`
does not look at the requester, who may have a meeting at that time, nor at the meetings the
lister asked for elsewhere. `doubleBooking_iff` says that nothing else is missing.
-/

namespace Deltapreneur.Meetings

open Marketplace (AuctionStatus)

def minute : Instant := 60 * 1000000
def hour : Instant := 60 * minute

def MIN_NOTICE_HOURS : Nat := 1
def DEFAULT_DURATION : Nat := 30
def MAX_DURATION : Nat := 120

/-! ## The table -/

/-- Minutes a meeting may take. -/
abbrev Duration := { d : Nat // 1 ≤ d ∧ d ≤ MAX_DURATION }

inductive Status
  | pending | confirmed | cancelled | completed
  deriving Repr, DecidableEq

inductive Party
  | lister | requester
  deriving Repr, DecidableEq

/-- The columns of `meeting_schedules` that only the request writes. -/
structure Appointment where
  id : Nat
  auctionId : AuctionId
  requesterId : UserId
  listerId : UserId
  scheduledAt : Instant
  durationMinutes : Duration
  topic : String
  message : Option String
  deriving Repr, DecidableEq

/-- A row of `meeting_schedules`. -/
structure MeetingSchedule extends Appointment where
  status : Status
  meetingLink : String
  googleCalendarEventId : String
  calendarEventLink : String
  cancelReason : Option String
  cancelledBy : Option Party
  deriving Repr, DecidableEq

/-- The table; a row's id is its position. -/
structure Schedules where
  rows : List MeetingSchedule
  numbered : rows.map (·.id) = List.range rows.length

/-- `_meeting_end`. -/
def meetingEnd (a : Appointment) : Instant := a.scheduledAt + a.durationMinutes * minute

/-- `_overlaps`. -/
def overlaps (start stop : Instant) (a : Appointment) : Bool :=
  a.scheduledAt < stop && meetingEnd a > start

/-- `lister_confirmed_overlap`. -/
def listerConfirmedOverlap (b : Schedules) (listerId : UserId) (start stop : Instant)
    (excludeMeetingId : Option Nat) : List MeetingSchedule :=
  (b.rows.filter fun m => m.listerId = listerId ∧ m.status = .confirmed).filter fun m =>
    some m.id ≠ excludeMeetingId ∧ overlaps start stop m.toAppointment

/-- `requester_confirmed_overlap`. -/
def requesterConfirmedOverlap (b : Schedules) (requesterId : UserId) (start stop : Instant)
    (excludeMeetingId : Option Nat) : List MeetingSchedule :=
  (b.rows.filter fun m => m.requesterId = requesterId ∧ m.status = .confirmed).filter fun m =>
    some m.id ≠ excludeMeetingId ∧ overlaps start stop m.toAppointment

/-- `get_by_id`. -/
def Schedules.getById (b : Schedules) (id : Nat) : Option MeetingSchedule :=
  Table.lookup (·.id) id b.rows

def Schedules.empty : Schedules := ⟨[], rfl⟩

/-- `save` of a new row. -/
def Schedules.insert (b : Schedules) (m : MeetingSchedule) : Schedules where
  rows := b.rows ++ [{ m with id := b.rows.length }]
  numbered := by simp [b.numbered, List.range_succ]

/-- `save` of a row that was read. -/
def Schedules.save (b : Schedules) (m : MeetingSchedule) : Schedules where
  rows := Table.update (·.id) m.id (fun _ => m) b.rows
  numbered := by
    rw [Table.map_key_update_const rfl, b.numbered]
    simp [Table.update]

/-! ## The operations -/

structure AppUser where
  id : UserId
  oauthProvider : Option String
  googleRefreshToken : Option String
  deriving Repr, DecidableEq

structure MeetingScheduleRequest where
  scheduledAt : Instant
  topic : Option String
  message : Option String
  durationMinutes : Option Int
  deriving Repr, DecidableEq

/-- What `request_meeting` reads of an auction. -/
structure Auction where
  status : AuctionStatus
  endTime : Option Instant
  /-- `app_user_id` of the community; `none` when there is no such community. -/
  communityOwner : Option UserId
  deriving Repr, DecidableEq

/-- `create_meeting_event`. -/
structure CalendarEvent where
  meetLink : Option String
  eventId : Option String
  htmlLink : Option String
  deriving Repr, DecidableEq

/-- What Google answers: the access token, then the event, or the text of an exception. -/
structure Google where
  accessToken : Except String (Option String)
  event : Except String CalendarEvent

/-- `_auction_is_live`. -/
def auctionIsLive : AuctionStatus → Bool
  | .active | .extended => true
  | _ => false

/-- `max(1, min(int(req.duration_minutes or DEFAULT_DURATION), MAX_DURATION))`. -/
def clampDuration (requested : Option Int) : Duration :=
  let duration : Int := match requested with
    | none | some 0 => DEFAULT_DURATION
    | some d => d
  ⟨(max 1 (min duration MAX_DURATION)).toNat, by
    have hmax : MAX_DURATION = 120 := rfl
    omega⟩

/-- `MeetingScheduleService.request_meeting`. -/
def requestMeeting (b : Schedules) (auctionId : AuctionId) (auction : Option Auction)
    (bids : List AuctionId) (req : MeetingScheduleRequest) (requester : AppUser)
    (now : Instant) : Except AppException Schedules :=
  match auction with
  | none => raise "Auction not found." 404
  | some auction =>
    if ¬ auctionIsLive auction.status then
      raise "Meeting requests are only available while the auction is active" 400
    else match auction.communityOwner with
    | none => raise "Community not found." 404
    | some listerId =>
      if listerId = requester.id then raise "You cannot schedule a meeting with yourself" 400
      else if auctionId ∉ bids then
        raise "You must place at least one bid before requesting a meeting." 403
      else
        let topic := req.topic.getD ""
        if topic = "" then raise "Meeting topic is required." 400
        else if req.scheduledAt ≤ now + MIN_NOTICE_HOURS * hour then
          raise "Meeting must be scheduled at least 1 hour(s) in advance" 400
        else if ∃ auctionEnd ∈ auction.endTime, req.scheduledAt > auctionEnd then
          raise "Cannot schedule a meeting after the auction ends" 400
        else
          let row : MeetingSchedule :=
            { id := 0
              auctionId
              requesterId := requester.id
              listerId
              scheduledAt := req.scheduledAt
              durationMinutes := clampDuration req.durationMinutes
              topic
              message := req.message.filter (· ≠ "")
              status := .pending
              meetingLink := ""
              googleCalendarEventId := ""
              calendarEventLink := ""
              cancelReason := none
              cancelledBy := none }
          let stop := meetingEnd row.toAppointment
          if listerConfirmedOverlap b listerId req.scheduledAt stop none ≠ [] then
            raise ("The profile owner already has a confirmed meeting that overlaps " ++
              "with this time slot. Please choose a different time.") 400
          else if requesterConfirmedOverlap b requester.id req.scheduledAt stop none ≠ [] then
            raise ("You already have a confirmed meeting that overlaps with this time slot. " ++
              "Please choose a different time.") 400
          else .ok (b.insert row)

/-- The lister has signed in with Google. -/
def AppUser.hasGoogle (u : AppUser) : Bool :=
  (u.oauthProvider.getD "").toLower = "google" &&
    (u.googleRefreshToken.getD "").toList.any (! ·.isWhitespace)

/-- The `try` block of `confirm_meeting`. -/
def Google.createMeeting (g : Google) : Except String CalendarEvent :=
  match g.accessToken with
  | .error exc => .error exc
  | .ok none => .error "No access_token in Google token response"
  | .ok (some _) => g.event

/-- The columns a confirmation writes. -/
def MeetingSchedule.confirm (m : MeetingSchedule) (created : CalendarEvent) : MeetingSchedule :=
  { m with
    meetingLink := created.meetLink.getD ""
    googleCalendarEventId := created.eventId.getD ""
    calendarEventLink := created.htmlLink.getD ""
    status := .confirmed }

/-- `MeetingScheduleService.confirm_meeting`. -/
def confirmMeeting (b : Schedules) (meetingId : Nat) (lister : AppUser) (requester : Option AppUser)
    (google : Google) : Except AppException Schedules :=
  match b.getById meetingId with
  | none => raise "Meeting not found" 404
  | some m =>
    if m.listerId ≠ lister.id then raise "Only the profile owner can confirm meetings" 403
    else if ¬ lister.hasGoogle then
      raise ("The profile owner must log in with Google to enable meeting creation. " ++
        "Please ask them to sign out and log back in via Google.") 400
    else if m.status ≠ .pending then raise "Meeting is not in PENDING state" 400
    else if listerConfirmedOverlap b lister.id m.scheduledAt (meetingEnd m.toAppointment)
        (some m.id) ≠ [] then
      raise ("You already have a confirmed meeting that overlaps with this slot. " ++
        "Please cancel the conflicting meeting first.") 400
    else match requester with
    | none => raise "Requester not found" 404
    | some _ => match google.createMeeting with
      | .error exc =>
        raise ("Failed to create Google Meet: " ++ exc ++ ". Ensure the Google account has " ++
          "Calendar API access and OAuth scopes include calendar.events.") 502
      | .ok created =>
        .ok (b.save (m.confirm created))

/-- `MeetingScheduleService.cancel_meeting`. -/
def cancelMeeting (b : Schedules) (meetingId : Nat) (reason : Option String) (user : AppUser) :
    Except AppException Schedules :=
  match b.getById meetingId with
  | none => raise "Meeting not found" 404
  | some m =>
    if m.listerId ≠ user.id ∧ m.requesterId ≠ user.id then
      raise "You are not part of this meeting" 403
    else if m.status = .cancelled then raise "Meeting is already cancelled" 400
    else if m.status = .completed then raise "Cannot cancel a completed meeting" 400
    else
      .ok (b.save { m with
        status := .cancelled
        cancelReason := reason
        cancelledBy := some (if m.listerId = user.id then .lister else .requester) })

/-- `MeetingScheduleService.complete_meeting`. -/
def completeMeeting (b : Schedules) (meetingId : Nat) (lister : AppUser) :
    Except AppException Schedules :=
  match b.getById meetingId with
  | none => raise "Meeting not found" 404
  | some m =>
    if m.listerId ≠ lister.id then
      raise "Only the profile owner can mark meetings as completed" 403
    else if m.status ≠ .confirmed then
      raise "Only confirmed meetings can be marked as completed" 400
    else .ok (b.save { m with status := .completed })

/-- A call of the service, with what it reads elsewhere. -/
inductive Call
  | request (auctionId : AuctionId) (auction : Option Auction) (bids : List AuctionId)
      (req : MeetingScheduleRequest) (requester : AppUser) (now : Instant)
  | confirm (meetingId : Nat) (lister : AppUser) (requester : Option AppUser) (google : Google)
  | cancel (meetingId : Nat) (reason : Option String) (user : AppUser)
  | complete (meetingId : Nat) (lister : AppUser)

def Call.run (b : Schedules) : Call → Except AppException Schedules
  | .request auctionId auction bids req requester now =>
    requestMeeting b auctionId auction bids req requester now
  | .confirm meetingId lister requester google => confirmMeeting b meetingId lister requester google
  | .cancel meetingId reason user => cancelMeeting b meetingId reason user
  | .complete meetingId lister => completeMeeting b meetingId lister

/-- A call that fails leaves the table as it is. -/
def step (b : Schedules) (c : Call) : Schedules :=
  match c.run b with
  | .ok b' => b'
  | .error _ => b

end Deltapreneur.Meetings

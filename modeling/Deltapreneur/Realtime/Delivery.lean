import Deltapreneur.Lib.Run
import Deltapreneur.Realtime.Registries

/-!
# Every auction event reaches every subscriber once

The world is the two registries together with what can be seen from outside: which native
connections were opened and have neither ended nor failed a send, and which STOMP session asked for
which topic since it was last cut off.

* `Mirrors`: the registries hold exactly these, after every run (`mirrors_step`,
  `registries_exact`).
* `every_event_delivered_iff`: the events of a run are all delivered exactly when every one of them
  meets `Reaches`. The two defects are read off it:
  * the broadcast returns early when the room has no native connection, so that the STOMP sessions
    hear of an event only if a native connection is there;
  * `community_auction_socket` connects under `str(auction_id)` and the service publishes to
    `community_auction_<id>`, a room nobody is in. No event of a community auction is sent to
    anyone, and a community connection would hear of a domain auction with the same id.
* `subscribers_left_out`: the smallest runs in which that happens.
-/

namespace Deltapreneur.Realtime

/-! ## The world -/

/-- What a service publishes for an auction. -/
inductive Publication
  | domainEvent (auction : Uuid) (event : Text)
  | bidUpdate (auction community : Uuid) (event : Text) (extended : Bool)
  | auctionEvent (auction : Uuid) (event : Text)

namespace Publication

def auction : Publication → Uuid
  | domainEvent auction _ => auction
  | bidUpdate auction _ _ _ => auction
  | auctionEvent auction _ => auction

/-- The endpoint whose connections it is meant for. -/
def endpoint : Publication → Endpoint
  | domainEvent _ _ => .auction
  | bidUpdate _ _ _ _ => .communityAuction
  | auctionEvent _ _ => .communityAuction

def topic : Publication → Text
  | domainEvent auction _ => "/topic/auction/".toList ++ auction.text
  | bidUpdate auction _ _ _ => "/topic/community-auction/".toList ++ auction.text
  | auctionEvent auction _ => "/topic/community-auction/".toList ++ auction.text

def message : Publication → Message
  | domainEvent _ event => .auction event
  | bidUpdate _ _ event _ => .auction event
  | auctionEvent _ event => .auction event

def publish (bus : Bus) (failing : Message → Failing) : Publication → Bus × List Delivery
  | domainEvent auction event => bus.publishEvent auction event failing
  | bidUpdate auction community event extended =>
    bus.broadcastBidUpdate auction community event extended failing
  | auctionEvent auction event => bus.broadcastAuctionEvent auction event failing

end Publication

/-- The registries, the next connection's id, and what is seen from outside: the native connections
that were opened and have neither ended nor failed a send, the STOMP sessions that are served, who
of them asked for which topic since it last failed a send, and what the last step sent. -/
structure World where
  bus : Bus
  nextId : Nat
  live : Finset WebSocketConnection
  serving : Finset SessionId
  listening : Finset (SessionId × Text)
  sent : List Delivery

def World.start : World := ⟨⟨.empty, .empty⟩, 0, ∅, ∅, ∅, []⟩

inductive Event
  | auctionSocket (auction : Uuid) (handshake : Handshake)
  | communityAuctionSocket (auction : Uuid) (handshake : Handshake)
  /-- A loop of the connection's endpoint ends: its `finally` disconnects it. -/
  | leave (c : WebSocketConnection)
  | openSession
  | receive (s : SessionId) (raw : Text) (fails : Nat → Bool)
  | hangUp (s : SessionId)
  | publish (p : Publication) (failing : Message → Failing)
  | personal (user : UserId) (payload : Message) (failing : Failing)

namespace World

variable (w : World)

def letIn (admitted : ConnectionManager × Admission) : World :=
  { w with
    bus := { w.bus with manager := admitted.1 }
    nextId := w.nextId + 1
    live :=
      match admitted.2 with
      | .serving c => insert c w.live
      | _ => w.live
    sent := [] }

/-- The end of a session. -/
def hangUp (s : SessionId) : World :=
  { w with
    bus := { w.bus with hub := w.bus.hub.unregister s }
    serving := w.serving.erase s
    listening := w.listening.filter (·.1 ≠ s)
    sent := [] }

def receive (s : SessionId) (served : Served) : World :=
  { w with
    bus := { w.bus with hub := served.hub }
    serving := if served.serving then w.serving else w.serving.erase s
    listening := heard w.listening s served
    sent := [] }

def observe (bus : Bus) (sent : List Delivery) : World :=
  { w with
    bus := bus
    live := keptLive w.live sent
    listening := keptListening w.listening sent
    sent := sent }

end World

def step (L : Language) (w : World) : Event → World
  | .auctionSocket auction h => w.letIn (auctionSocket auction w.bus.manager w.nextId h)
  | .communityAuctionSocket auction h =>
    w.letIn (communityAuctionSocket auction w.bus.manager w.nextId h)
  | .leave c =>
    { w with
      bus := { w.bus with manager := w.bus.manager.disconnect c }
      live := w.live.erase c
      sent := [] }
  | .openSession =>
    { w with
      bus := { w.bus with hub := w.bus.hub.register w.nextId }
      nextId := w.nextId + 1
      serving := insert w.nextId w.serving
      sent := [] }
  | .receive s raw fails =>
    if s ∈ w.serving then w.receive s (w.bus.hub.receive L s raw fails) else { w with sent := [] }
  | .hangUp s => if s ∈ w.serving then w.hangUp s else { w with sent := [] }
  | .publish p failing =>
    let done := p.publish w.bus failing
    w.observe done.1 done.2
  | .personal user payload failing =>
    let done := w.bus.sendPersonalNotification user payload failing
    w.observe done.bus done.sent

/-! ## The registries mirror the world -/

structure World.Mirrors (w : World) : Prop where
  bus : w.bus.Mirrors w.live w.listening
  auctionId : ∀ c ∈ w.live, c.auctionId = c.websocket.auction.text
  fresh : ∀ c ∈ w.live, c.id < w.nextId

variable {w : World}

theorem mirrors_start : World.start.Mirrors where
  bus := ⟨⟨by simp [World.start, ConnectionManager.empty], by
    simp [World.start, ConnectionManager.empty], fun _ => rfl, rfl⟩, ⟨by
    simp [World.start, StompHub.empty], by simp [World.start]⟩⟩
  auctionId c hc := absurd hc (Finset.notMem_empty c)
  fresh c hc := absurd hc (Finset.notMem_empty c)

theorem mirrors_letIn (h : w.Mirrors) (endpoint : Endpoint) (auction : Uuid)
    (handshake : Handshake) :
    (w.letIn (openSocket endpoint auction w.bus.manager w.nextId handshake)).Mirrors := by
  have hlater : ∀ c ∈ w.live, c.id < w.nextId + 1 := fun c hc => (h.fresh c hc).trans_le (by omega)
  have hsame : ∀ refusal, (w.letIn (w.bus.manager, .refused refusal)).Mirrors := fun _ =>
    ⟨⟨h.bus.manager, h.bus.hub⟩, h.auctionId, hlater⟩
  unfold openSocket
  cases handshake.user with
  | none => exact hsame _
  | some user =>
    simp only
    split_ifs
    · refine ⟨⟨h.bus.manager.connect, h.bus.hub⟩, fun c hc => ?_, fun c hc => ?_⟩
      · obtain rfl | hc := Finset.mem_insert.mp hc
        · rfl
        · exact h.auctionId c hc
      · obtain rfl | hc := Finset.mem_insert.mp hc
        · exact Nat.lt_succ_self _
        · exact hlater c hc
    · -- the new connection is in no index before it connects
      refine ⟨⟨?_, h.bus.hub⟩, h.auctionId, hlater⟩
      have hnew : ⟨⟨endpoint, auction⟩, auction.text, some user, w.nextId⟩ ∉ w.live := fun hin =>
        absurd (h.fresh _ hin) (lt_irrefl _)
      exact h.bus.manager.connect_disconnect hnew
    · exact hsame _

section Publishing

variable {bus : Bus} {live : Finset WebSocketConnection} {listening : Finset (SessionId × Text)}

theorem Bus.Mirrors.broadcastAuctionEvent (h : bus.Mirrors live listening) (auction : Uuid)
    (event : Text) (failing : Message → Failing) :
    (bus.broadcastAuctionEvent auction event failing).1.Mirrors
      (keptLive live (bus.broadcastAuctionEvent auction event failing).2)
      (keptListening listening (bus.broadcastAuctionEvent auction event failing).2) :=
  h.broadcastToAuction

theorem Bus.Mirrors.broadcastProfileSync (h : bus.Mirrors live listening) (community : Uuid)
    (event : String) (failing : Message → Failing) :
    (bus.broadcastProfileSync community event failing).1.Mirrors
      (keptLive live (bus.broadcastProfileSync community event failing).2)
      (keptListening listening (bus.broadcastProfileSync community event failing).2) :=
  h.broadcastToAuction

theorem Publication.mirrors_publish (p : Publication) (failing : Message → Failing)
    (h : bus.Mirrors live listening) :
    (p.publish bus failing).1.Mirrors (keptLive live (p.publish bus failing).2)
      (keptListening listening (p.publish bus failing).2) := by
  cases p with
  | domainEvent auction event => exact h.broadcastToAuction
  | auctionEvent auction event => exact h.broadcastAuctionEvent auction event failing
  | bidUpdate auction community event extended =>
    simp only [Publication.publish, Bus.broadcastBidUpdate, keptLive_append, keptListening_append]
    have hsync := (h.broadcastAuctionEvent auction event failing).broadcastProfileSync community
      "new_bid_received" failing
    cases extended with
    | true => exact hsync.broadcastProfileSync community "creator_auction_updated" failing
    | false =>
      simp only [Bool.false_eq_true, if_false, keptLive_nil, keptListening_nil]
      exact hsync

end Publishing

theorem mirrors_step (L : Language) (h : w.Mirrors) (e : Event) : (step L w e).Mirrors := by
  have hkept : ∀ sent, ∀ c ∈ keptLive w.live sent, c ∈ w.live := fun sent c hc =>
    Finset.mem_of_mem_filter c hc
  have hnothing : World.Mirrors { w with sent := [] } := ⟨h.bus, h.auctionId, h.fresh⟩
  cases e with
  | auctionSocket auction handshake => exact mirrors_letIn h _ auction handshake
  | communityAuctionSocket auction handshake => exact mirrors_letIn h _ auction handshake
  | leave c =>
    refine ⟨⟨h.bus.manager.disconnect, h.bus.hub⟩, fun x hx => ?_, fun x hx => ?_⟩
    · exact h.auctionId x (Finset.mem_of_mem_erase hx)
    · exact h.fresh x (Finset.mem_of_mem_erase hx)
  | openSession =>
    exact ⟨⟨h.bus.manager, h.bus.hub.register⟩, h.auctionId, fun c hc =>
      (h.fresh c hc).trans_le (Nat.le_succ _)⟩
  | receive s raw fails =>
    simp only [step]
    split_ifs
    · exact ⟨⟨h.bus.manager, h.bus.hub.serve⟩, h.auctionId, h.fresh⟩
    · exact hnothing
  | hangUp s =>
    simp only [step]
    split_ifs
    · exact ⟨⟨h.bus.manager, h.bus.hub.unregister⟩, h.auctionId, h.fresh⟩
    · exact hnothing
  | publish p failing =>
    exact ⟨p.mirrors_publish failing h.bus, fun c hc => h.auctionId c (hkept _ c hc),
      fun c hc => h.fresh c (hkept _ c hc)⟩
  | personal user payload failing =>
    exact ⟨h.bus.sendPersonalNotification, fun c hc => h.auctionId c (hkept _ c hc),
      fun c hc => h.fresh c (hkept _ c hc)⟩

/-! ## What is asked of an event -/

/-- The connection is in no index. -/
def ConnectionManager.Absent (m : ConnectionManager) (c : WebSocketConnection) : Prop :=
  (∀ room, c ∉ m.rooms.get room) ∧ (∀ user, c ∉ m.userIndex.get user) ∧ c ∉ m.activeConnections

/-- The connection is in the room of the auction it was opened for and in the other indices. -/
def ConnectionManager.Registered (m : ConnectionManager) (c : WebSocketConnection) : Prop :=
  c ∈ m.rooms.get c.websocket.auction.text ∧
    (∀ user, c.userId = some user → c ∈ m.userIndex.get user) ∧ c ∈ m.activeConnections

def WebSocketConnection.OpenedFor (c : WebSocketConnection) (p : Publication) : Prop :=
  c.websocket.endpoint = p.endpoint ∧ c.websocket.auction = p.auction

/-- Every subscriber of the auction was sent the event once and nobody else was; whoever a send to
failed is gone from the registries, and the others are there. -/
structure Delivered (w : World) (p : Publication) (w' : World) : Prop where
  connections : ∀ c ∈ w.live, c.OpenedFor p → timesSent w'.sent (.connection c) p.message = 1
  sessions : ∀ s, (s, p.topic) ∈ w.listening → timesSent w'.sent (.session s) p.message = 1
  nobodyElse : ∀ d ∈ w'.sent, d.payload = p.message →
    (∃ c ∈ w.live, c.OpenedFor p ∧ d.receiver = .connection c) ∨
      ∃ s, (s, p.topic) ∈ w.listening ∧ d.receiver = .session s
  failedConnections : ∀ c, FailedTo w'.sent (.connection c) → w'.bus.manager.Absent c
  failedSessions : ∀ s, FailedTo w'.sent (.session s) →
    ∀ topic, s ∉ w'.bus.hub.subscriptions.get topic
  otherConnections : ∀ c ∈ w.live, ¬ FailedTo w'.sent (.connection c) →
    w'.bus.manager.Registered c
  otherSessions : ∀ s topic, (s, topic) ∈ w.listening → ¬ FailedTo w'.sent (.session s) →
    s ∈ w'.bus.hub.subscriptions.get topic

def Delivers (w : World) : Event → World → Prop
  | .publish p _, w' => Delivered w p w'
  | _, _ => True

/-- No connection of a community auction is open under the event's id, and the event is one of
`BidService` with a native connection open for its auction, or no session asked for its topic. -/
def Reaches (w : World) : Event → Prop
  | .publish p _ =>
    (∀ c ∈ w.live, c.websocket.auction = p.auction → c.websocket.endpoint = .auction) ∧
      ((p.endpoint = .auction ∧ ∃ c ∈ w.live, c.websocket.auction = p.auction) ∨
        ∀ s, (s, p.topic) ∉ w.listening)
  | _ => True

section Delivering

variable {failing : Message → Failing} {p : Publication} {c : WebSocketConnection}

/-- What happens to the registries is always as asked. -/
theorem delivered_of_sends {bus : Bus} {sent : List Delivery} (hw : w.Mirrors)
    (hbus : bus.Mirrors (keptLive w.live sent) (keptListening w.listening sent))
    (hconnections : ∀ c ∈ w.live, c.OpenedFor p → timesSent sent (.connection c) p.message = 1)
    (hsessions : ∀ s, (s, p.topic) ∈ w.listening → timesSent sent (.session s) p.message = 1)
    (hnobody : ∀ d ∈ sent, d.payload = p.message →
      (∃ c ∈ w.live, c.OpenedFor p ∧ d.receiver = .connection c) ∨
        ∃ s, (s, p.topic) ∈ w.listening ∧ d.receiver = .session s) :
    Delivered w p (w.observe bus sent) where
  connections := hconnections
  sessions := hsessions
  nobodyElse := hnobody
  failedConnections c hc := by
    have hout : c ∉ keptLive w.live sent := fun hin => (Finset.mem_filter.mp hin).2 hc
    refine ⟨fun room hin => ?_, fun user hin => ?_, fun hin => ?_⟩
    · exact hout ((hbus.manager.rooms room c).mp hin).1
    · exact hout ((hbus.manager.userIndex user c).mp hin).1
    · exact hout (hbus.manager.active ▸ hin)
  failedSessions s hs topic hin :=
    (Finset.mem_filter.mp ((hbus.hub.subscriptions topic s).mp hin)).2 hs
  otherConnections c hc hok := by
    have hin : c ∈ keptLive w.live sent := Finset.mem_filter.mpr ⟨hc, hok⟩
    refine ⟨?_, fun user huser => ?_, ?_⟩
    · exact (hbus.manager.rooms _ c).mpr ⟨hin, hw.auctionId c hc⟩
    · exact (hbus.manager.userIndex user c).mpr ⟨hin, huser⟩
    · exact hbus.manager.active ▸ hin
  otherSessions s topic hs hok :=
    (hbus.hub.subscriptions topic s).mpr (Finset.mem_filter.mpr ⟨hs, hok⟩)

theorem mem_room (hw : w.Mirrors) {auction : Uuid} :
    c ∈ w.bus.manager.rooms.get auction.text ↔ c ∈ w.live ∧ c.websocket.auction = auction := by
  rw [hw.bus.manager.rooms]
  refine and_congr_right fun hc => ?_
  rw [hw.auctionId c hc]
  exact ⟨Uuid.ext, fun h => h ▸ rfl⟩

theorem room_empty (hw : w.Mirrors) (room : Text) (h : room.length ≠ 36) :
    w.bus.manager.rooms.get room = [] := by
  refine List.eq_nil_iff_forall_not_mem.mpr fun c hc => h ?_
  obtain ⟨hlive, rfl⟩ := (hw.bus.manager.rooms room c).mp hc
  rw [hw.auctionId c hlive]
  exact c.websocket.auction.length_text

theorem broadcastAuctionEvent_eq (hw : w.Mirrors) {auction : Uuid} {event : Text} :
    w.bus.broadcastAuctionEvent auction event failing = (w.bus, []) := by
  have hempty := room_empty hw ("community_auction_".toList ++ auction.text)
    (by simp [auction.length_text])
  simp only [Bus.broadcastAuctionEvent, broadcastToAuction_of_empty hempty]

theorem broadcastProfileSync_eq (hw : w.Mirrors) {community : Uuid} {event : String} :
    w.bus.broadcastProfileSync community event failing = (w.bus, []) := by
  have hempty := room_empty hw ("community_profile_".toList ++ community.text)
    (by simp [community.length_text])
  simp only [Bus.broadcastProfileSync, broadcastToAuction_of_empty hempty]

theorem publish_community_eq (hw : w.Mirrors) (hp : p.endpoint = .communityAuction) :
    p.publish w.bus failing = (w.bus, []) := by
  cases p with
  | domainEvent auction event => cases hp
  | auctionEvent auction event => exact broadcastAuctionEvent_eq hw
  | bidUpdate auction community event extended =>
    simp only [Publication.publish, Bus.broadcastBidUpdate, broadcastAuctionEvent_eq hw,
      broadcastProfileSync_eq hw]
    cases extended <;> rfl

theorem delivered_silent_iff (hw : w.Mirrors) :
    Delivered w p (w.observe w.bus []) ↔
      (∀ c ∈ w.live, ¬ c.OpenedFor p) ∧ ∀ s, (s, p.topic) ∉ w.listening := by
  constructor
  · intro h
    exact ⟨fun c hc hfor => absurd (h.connections c hc hfor) (by simp [World.observe, timesSent]),
      fun s hs => absurd (h.sessions s hs) (by simp [World.observe, timesSent])⟩
  · rintro ⟨hconnections, hsessions⟩
    refine delivered_of_sends hw (by simpa using hw.bus) (fun c hc hfor => ?_) (fun s hs => ?_)
      fun d hd => ?_
    · exact absurd hfor (hconnections c hc)
    · exact absurd hs (hsessions s)
    · cases hd

/-- With a native connection in the room, everyone in it and every session listening to the topic
is sent the event. -/
theorem publish_domain_sent (hw : w.Mirrors) (hp : p.endpoint = .auction)
    (hopen : ∃ c ∈ w.live, c.websocket.auction = p.auction) :
    (p.publish w.bus failing).2 =
      (w.bus.manager.rooms.get p.auction.text).map ((failing p.message).sendJson p.message) ++
        (w.bus.hub.subscriptions.get p.topic).map
          ((failing p.message).sendMessage p.topic p.message) := by
  obtain ⟨c, hc, hauction⟩ := hopen
  have hroom : w.bus.manager.rooms.get p.auction.text ≠ [] :=
    List.ne_nil_of_mem ((mem_room hw).mpr ⟨hc, hauction⟩)
  cases p with
  | domainEvent auction event => exact broadcastToAuction_sent hroom
  | bidUpdate => cases hp
  | auctionEvent => cases hp

theorem publish_domain_eq (hw : w.Mirrors) (hp : p.endpoint = .auction)
    (hopen : ¬ ∃ c ∈ w.live, c.websocket.auction = p.auction) :
    p.publish w.bus failing = (w.bus, []) := by
  have hempty : w.bus.manager.rooms.get p.auction.text = [] :=
    List.eq_nil_iff_forall_not_mem.mpr fun c hc => hopen ⟨c, (mem_room hw).mp hc⟩
  cases p with
  | domainEvent auction event =>
    simp only [Publication.auction] at hempty
    simp only [Publication.publish, Bus.publishEvent, broadcastToAuction_of_empty hempty]
  | bidUpdate => cases hp
  | auctionEvent => cases hp

theorem delivered_domain_iff (hw : w.Mirrors) (hp : p.endpoint = .auction)
    (hopen : ∃ c ∈ w.live, c.websocket.auction = p.auction) :
    Delivered w p (w.observe (p.publish w.bus failing).1 (p.publish w.bus failing).2) ↔
      ∀ c ∈ w.live, c.websocket.auction = p.auction → c.websocket.endpoint = .auction := by
  have hsent : (p.publish w.bus failing).2 = _ := publish_domain_sent hw hp hopen
  have hlisten : ∀ s, s ∈ w.bus.hub.subscriptions.get p.topic ↔ (s, p.topic) ∈ w.listening :=
    fun s => hw.bus.hub.subscriptions p.topic s
  constructor
  · intro h c hc hauction
    have hin : (failing p.message).sendJson p.message c ∈ (p.publish w.bus failing).2 := by
      rw [hsent]
      exact List.mem_append_left _ (List.mem_map_of_mem ((mem_room hw).mpr ⟨hc, hauction⟩))
    obtain ⟨c', -, hfor, heq⟩ | ⟨s, -, heq⟩ := h.nobodyElse _ hin rfl
    · cases heq
      exact hfor.1.trans hp
    · cases heq
  · intro honly
    refine delivered_of_sends hw (p.mirrors_publish failing hw.bus) (fun c hc hfor => ?_)
      (fun s hs => ?_) fun d hd _ => ?_
    · rw [hsent, timesSent_append, timesSent_sendMessage_connection, timesSent_sendJson, Nat.add_zero]
      exact Buckets.count_get ((mem_room hw).mpr ⟨hc, hfor.2⟩)
    · rw [hsent, timesSent_append, timesSent_sendJson_session, timesSent_sendMessage, Nat.zero_add]
      exact Buckets.count_get ((hlisten s).mpr hs)
    · rw [hsent, List.mem_append, List.mem_map, List.mem_map] at hd
      obtain ⟨c, hc, rfl⟩ | ⟨s, hs, rfl⟩ := hd
      · obtain ⟨hlive, hauction⟩ := (mem_room hw).mp hc
        exact .inl ⟨c, hlive, ⟨(honly c hlive hauction).trans hp.symm, hauction⟩, rfl⟩
      · exact .inr ⟨s, (hlisten s).mp hs, rfl⟩

theorem openedFor_community_iff (hp : p.endpoint = .communityAuction) :
    ¬ c.OpenedFor p ↔ (c.websocket.auction = p.auction → c.websocket.endpoint = .auction) := by
  unfold WebSocketConnection.OpenedFor
  rw [hp]
  cases c.websocket.endpoint with
  | auction => simp
  | communityAuction => simp

theorem delivered_iff (hw : w.Mirrors) (p : Publication) :
    Delivered w p (w.observe (p.publish w.bus failing).1 (p.publish w.bus failing).2) ↔
      Reaches w (.publish p failing) := by
  cases hp : p.endpoint with
  | communityAuction =>
    rw [publish_community_eq hw hp, delivered_silent_iff hw]
    simp only [Reaches, hp, reduceCtorEq, false_and, false_or]
    exact and_congr_left' (forall₂_congr fun c _ => openedFor_community_iff hp)
  | auction =>
    by_cases hopen : ∃ c ∈ w.live, c.websocket.auction = p.auction
    · rw [delivered_domain_iff hw hp hopen]
      exact (and_iff_left (.inl ⟨hp, hopen⟩)).symm
    · have hnone : ∀ c ∈ w.live, c.websocket.auction ≠ p.auction := fun c hc h =>
        hopen ⟨c, hc, h⟩
      rw [publish_domain_eq hw hp hopen, delivered_silent_iff hw]
      constructor
      · rintro ⟨-, hsessions⟩
        exact ⟨fun c hc h => absurd h (hnone c hc), .inr hsessions⟩
      · rintro ⟨-, ⟨-, hsome⟩ | hsessions⟩
        · exact absurd hsome hopen
        · exact ⟨fun c hc h => hnone c hc h.2, hsessions⟩

end Delivering

theorem delivers_iff (L : Language) (hw : w.Mirrors) (e : Event) :
    Delivers w e (step L w e) ↔ Reaches w e := by
  cases e with
  | publish p failing => exact delivered_iff hw p
  | _ => exact Iff.rfl

/-- The events a run publishes are all delivered exactly when every one of them meets `Reaches`. -/
theorem every_event_delivered_iff (L : Language) (events : List Event) :
    Run.AllSteps (step L) Delivers World.start events ↔
      Run.Meets (step L) Reaches World.start events :=
  Run.allSteps_iff_meets (P := World.Mirrors) (fun _ e h => mirrors_step L h e)
    (fun _ e h => delivers_iff L h e) events mirrors_start

theorem mirrors_exec (L : Language) (events : List Event) :
    (Run.exec (step L) World.start events).Mirrors :=
  Run.exec_preserves (P := World.Mirrors) (fun _ e h => mirrors_step L h e) events mirrors_start

/-- **The registries are exact in every run**: a connection stands in its room and in every index
while it is open and no send to it has failed, and in none otherwise. -/
theorem registries_exact (L : Language) (events : List Event) (c : WebSocketConnection) :
    if c ∈ (Run.exec (step L) World.start events).live then
      (Run.exec (step L) World.start events).bus.manager.Registered c
    else (Run.exec (step L) World.start events).bus.manager.Absent c := by
  have hw := mirrors_exec L events
  generalize Run.exec (step L) World.start events = w at hw
  split_ifs with hc
  · refine ⟨(mem_room hw).mpr ⟨hc, rfl⟩, fun user huser => ?_, ?_⟩
    · exact (hw.bus.manager.userIndex user c).mpr ⟨hc, huser⟩
    · exact hw.bus.manager.active ▸ hc
  · refine ⟨fun room hin => ?_, fun user hin => ?_, fun hin => ?_⟩
    · exact hc ((hw.bus.manager.rooms room c).mp hin).1
    · exact hc ((hw.bus.manager.userIndex user c).mp hin).1
    · exact hc (hw.bus.manager.active ▸ hin)

/-! ## Two subscribers that are left out -/

/-- The character tables of ASCII. -/
def ascii : Language where
  isSpace := Char.isWhitespace
  upper := List.map Char.toUpper
  lower := List.map Char.toLower

def someAuction : Uuid where
  text := "3f2b8c1e-0d4a-4b6e-9a57-1c2d3e4f5a6b".toList
  length_text := by decide
  text_chars := by
    have hall : "3f2b8c1e-0d4a-4b6e-9a57-1c2d3e4f5a6b".toList.all
        (fun c => "0123456789abcdef-".toList.contains c) = true := by decide +kernel
    intro c hc
    exact List.contains_iff_mem.mp (List.all_eq_true.mp hall c hc)

/-- No send fails. -/
def noneFailing : Message → Failing :=
  fun _ => ⟨fun _ => false, fun _ => false, fun _ => false⟩

/-- A legacy client subscribes to a domain auction nobody has a native socket open for. -/
def legacyOnly : List Event :=
  [.openSession,
    .receive 0 ("SUBSCRIBE\ndestination:/topic/auction/".toList ++ someAuction.text ++
      ['\n', '\n', Char.ofNat 0]) fun _ => false,
    .publish (.domainEvent someAuction "{}".toList) noneFailing]

/-- A user opens the socket of a community auction. -/
def communityOnly : List Event :=
  [.communityAuctionSocket someAuction ⟨some 1, true, true⟩,
    .publish (.auctionEvent someAuction "{}".toList) noneFailing]

theorem subscribers_left_out :
    ¬ Run.AllSteps (step ascii) Delivers World.start legacyOnly ∧
      ¬ Run.AllSteps (step ascii) Delivers World.start communityOnly := by
  constructor
  · rintro ⟨-, -, hpublish, -⟩
    have hone := hpublish.sessions 0 (by decide +kernel)
    exact absurd hone (by decide +kernel)
  · rintro ⟨-, hpublish, -⟩
    have hone := hpublish.connections
      ⟨⟨.communityAuction, someAuction⟩, someAuction.text, some 1, 0⟩ (by decide +kernel)
      ⟨rfl, rfl⟩
    exact absurd hone (by decide +kernel)

end Deltapreneur.Realtime

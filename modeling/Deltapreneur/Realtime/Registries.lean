import Deltapreneur.Realtime.Hub
import Mathlib.Data.Finset.Lattice.Lemmas

/-!
# What the two registries hold

The manager indexes a connection three times, the hub a session under every topic it asked for. Each
is read as one finite set (`Holds`, `Lists`), and every operation is the obvious one on that set.

* `Holds.connect`, `Holds.disconnect`, `Holds.disconnectAll`: the three indices move together.
* `Lists.subscribe`, `Lists.unregister`, `Lists.serve`: the session's own list covers every topic it
  is listed under, so that unregistering leaves nothing of it.
* `Mirrors.broadcastToAuction`, `Mirrors.sendPersonalNotification`: after a broadcast the registries
  hold those to whom no send failed.
* `broadcastToAuction_of_empty`, `broadcastToAuction_sent`: what is sent.
-/

namespace Deltapreneur.Realtime

/-! ## What the registries hold -/

/-- The manager holds exactly the connections of `live`, and no socket for notifications. -/
structure ConnectionManager.Holds (m : ConnectionManager) (live : Finset WebSocketConnection) :
    Prop where
  rooms : ∀ room c, c ∈ m.rooms.get room ↔ c ∈ live ∧ c.auctionId = room
  userIndex : ∀ user c, c ∈ m.userIndex.get user ↔ c ∈ live ∧ c.userId = some user
  sockets : ∀ user, m.userConnections user = []
  active : m.activeConnections = live

/-- The hub lists exactly the sessions of `listening` under their topics. -/
structure StompHub.Lists (hub : StompHub) (listening : Finset (SessionId × Text)) : Prop where
  subscriptions : ∀ topic s, s ∈ hub.subscriptions.get topic ↔ (s, topic) ∈ listening
  held : ∀ topic s, (s, topic) ∈ listening → topic ∈ hub.held.get s

section Registries

variable {m : ConnectionManager} {hub : StompHub} {live : Finset WebSocketConnection}
  {listening : Finset (SessionId × Text)} {c : WebSocketConnection} {s : SessionId} {topic : Text}
  {user : UserId}

namespace ConnectionManager

variable {x : WebSocketConnection}

theorem mem_addToUserIndex :
    x ∈ (m.addToUserIndex c).get user ↔
      x = c ∧ c.userId = some user ∨ x ∈ m.userIndex.get user := by
  unfold addToUserIndex
  cases hc : c.userId with
  | none => simp
  | some own => simp [and_comm, eq_comm]

theorem mem_removeFromUserIndex :
    x ∈ (m.removeFromUserIndex c).get user ↔
      x ∈ m.userIndex.get user ∧ ¬ (x = c ∧ c.userId = some user) := by
  unfold removeFromUserIndex
  cases hc : c.userId with
  | none => simp
  | some own => simp [and_comm, eq_comm]

theorem Holds.connect (h : m.Holds live) : (m.connect c).Holds (insert c live) where
  rooms room x := by
    simp only [ConnectionManager.connect, Buckets.mem_add, h.rooms, Finset.mem_insert]
    constructor
    · rintro (⟨rfl, rfl⟩ | ⟨hx, hroom⟩)
      · exact ⟨.inl rfl, rfl⟩
      · exact ⟨.inr hx, hroom⟩
    · rintro ⟨rfl | hx, hroom⟩
      · exact .inl ⟨hroom.symm, rfl⟩
      · exact .inr ⟨hx, hroom⟩
  userIndex user x := by
    simp only [ConnectionManager.connect, mem_addToUserIndex, h.userIndex, Finset.mem_insert]
    constructor
    · rintro (⟨rfl, huser⟩ | ⟨hx, huser⟩)
      · exact ⟨.inl rfl, huser⟩
      · exact ⟨.inr hx, huser⟩
    · rintro ⟨rfl | hx, huser⟩
      · exact .inl ⟨rfl, huser⟩
      · exact .inr ⟨hx, huser⟩
  sockets := h.sockets
  active := by rw [ConnectionManager.connect, h.active]

theorem Holds.disconnect (h : m.Holds live) : (m.disconnect c).Holds (live.erase c) where
  rooms room x := by
    simp only [ConnectionManager.disconnect, Buckets.mem_discard, h.rooms, Finset.mem_erase]
    constructor
    · rintro ⟨⟨hx, rfl⟩, hne⟩
      refine ⟨⟨?_, hx⟩, rfl⟩
      rintro rfl
      exact hne ⟨rfl, rfl⟩
    · rintro ⟨⟨hne, hx⟩, hroom⟩
      exact ⟨⟨hx, hroom⟩, fun h => hne h.2⟩
  userIndex user x := by
    simp only [ConnectionManager.disconnect, mem_removeFromUserIndex, h.userIndex,
      Finset.mem_erase]
    constructor
    · rintro ⟨⟨hx, huser⟩, hne⟩
      refine ⟨⟨?_, hx⟩, huser⟩
      rintro rfl
      exact hne ⟨rfl, huser⟩
    · rintro ⟨⟨hne, hx⟩, huser⟩
      exact ⟨⟨hx, huser⟩, fun h => hne h.1⟩
  sockets := h.sockets
  active := by rw [ConnectionManager.disconnect, h.active]

theorem Holds.connect_disconnect (h : m.Holds live) (hnew : c ∉ live) :
    ((m.connect c).disconnect c).Holds live := by
  have hback := (h.connect (c := c)).disconnect (c := c)
  rwa [Finset.erase_insert hnew] at hback

theorem Holds.disconnectAll {dead : List WebSocketConnection} (h : m.Holds live) :
    (m.disconnectAll dead).Holds (live.filter (· ∉ dead)) := by
  induction dead generalizing m live with
  | nil => simpa [ConnectionManager.disconnectAll] using h
  | cons d dead ih =>
    have hrest := ih (h.disconnect (c := d))
    have hset : (live.erase d).filter (· ∉ dead) = live.filter (· ∉ d :: dead) := by
      ext x
      simp only [Finset.mem_filter, Finset.mem_erase, List.mem_cons]
      tauto
    rw [hset] at hrest
    exact hrest

end ConnectionManager

namespace StompHub

theorem Lists.register (h : hub.Lists listening) : (hub.register s).Lists listening :=
  ⟨h.subscriptions, h.held⟩

theorem Lists.subscribe (h : hub.Lists listening) :
    (hub.subscribe s topic).Lists (insert (s, topic) listening) where
  subscriptions topic' s' := by
    simp only [StompHub.subscribe, Buckets.mem_add, h.subscriptions, Finset.mem_insert,
      Prod.mk.injEq]
    tauto
  held topic' s' := by
    simp only [StompHub.subscribe, Buckets.mem_add, Finset.mem_insert, Prod.mk.injEq]
    exact Or.imp_right (h.held topic' s')

theorem Lists.unregister (h : hub.Lists listening) :
    (hub.unregister s).Lists (listening.filter (·.1 ≠ s)) where
  subscriptions topic' s' := by
    simp only [StompHub.unregister, Buckets.mem_discardAll, h.subscriptions, Finset.mem_filter]
    constructor
    · rintro ⟨hin, hnot⟩
      refine ⟨hin, ?_⟩
      rintro rfl
      exact hnot ⟨h.held topic' s' hin, rfl⟩
    · rintro ⟨hin, hne⟩
      exact ⟨hin, fun hs => hne hs.2⟩
  held topic' s' hin := h.held topic' s' (Finset.mem_of_mem_filter _ hin)

theorem Lists.unregisterAll {dead : List SessionId} (h : hub.Lists listening) :
    (hub.unregisterAll dead).Lists (listening.filter (·.1 ∉ dead)) := by
  induction dead generalizing hub listening with
  | nil => simpa [StompHub.unregisterAll] using h
  | cons d dead ih =>
    have hrest := ih (h.unregister (s := d))
    have hset : (listening.filter (·.1 ≠ d)).filter (·.1 ∉ dead) =
        listening.filter (·.1 ∉ d :: dead) := by
      ext x
      simp only [Finset.mem_filter, List.mem_cons]
      tauto
    rw [hset] at hrest
    exact hrest

end StompHub

/-- Who listens to what after a text of session `s`. -/
def heard (listening : Finset (SessionId × Text)) (s : SessionId) (served : Served) :
    Finset (SessionId × Text) :=
  if served.serving then listening ∪ (served.subscribed.map (s, ·)).toFinset
  else listening.filter (·.1 ≠ s)

theorem heard_cons (served : Served) :
    heard (insert (s, topic) listening) s served =
      heard listening s { served with subscribed := topic :: served.subscribed } := by
  unfold heard
  cases served.serving with
  | true => simp
  | false =>
    ext x
    simp only [Bool.false_eq_true, if_false, Finset.mem_filter, Finset.mem_insert]
    constructor
    · rintro ⟨rfl | hx, hne⟩
      · exact absurd rfl hne
      · exact ⟨hx, hne⟩
    · exact fun ⟨hx, hne⟩ => ⟨.inr hx, hne⟩

/-- One case for each branch of the loop over the frames. -/
theorem StompHub.Lists.serve {frames : List (Frame × Bool)} (h : hub.Lists listening) :
    (hub.serve s frames).hub.Lists (heard listening s (hub.serve s frames)) := by
  induction frames generalizing hub listening with
  | nil => simpa [StompHub.serve, heard] using h
  | cons next frames ih =>
    obtain ⟨frame, fails⟩ := next
    simp only [StompHub.serve]
    split_ifs
    · exact h.unregister
    · exact ih h
    · exact ih h
    · rw [← heard_cons]
      exact ih h.subscribe
    · exact h.unregister
    · exact h.unregister
    · exact ih h
    · exact ih h

/-! ## What the sends tell -/

/-- A send to the receiver failed. -/
def FailedTo (sent : List Delivery) (r : Receiver) : Prop :=
  ∃ d ∈ sent, d.receiver = r ∧ d.ok = false

instance (sent : List Delivery) (r : Receiver) : Decidable (FailedTo sent r) :=
  inferInstanceAs (Decidable (∃ d ∈ sent, d.receiver = r ∧ d.ok = false))

/-- How often the receiver was sent the message. -/
def timesSent (sent : List Delivery) (r : Receiver) (payload : Message) : Nat :=
  sent.countP fun d => d.receiver = r ∧ d.payload = payload

/-- The live connections none of whose sends failed. -/
def keptLive (live : Finset WebSocketConnection) (sent : List Delivery) :
    Finset WebSocketConnection :=
  live.filter fun c => ¬ FailedTo sent (.connection c)

def keptListening (listening : Finset (SessionId × Text)) (sent : List Delivery) :
    Finset (SessionId × Text) :=
  listening.filter fun p => ¬ FailedTo sent (.session p.1)

section Sends

variable {sent later : List Delivery} {r : Receiver} {failing : Failing} {payload : Message}
  {cs : List WebSocketConnection} {ss : List SessionId}

theorem failedTo_append : FailedTo (sent ++ later) r ↔ FailedTo sent r ∨ FailedTo later r := by
  simp only [FailedTo, List.mem_append, or_and_right, exists_or]

theorem not_failedTo_nil : ¬ FailedTo [] r := by
  rintro ⟨d, hd, -⟩
  cases hd

theorem failedTo_sendJson :
    FailedTo (cs.map (failing.sendJson payload)) (.connection c) ↔
      c ∈ cs.filter failing.connection := by
  simp [FailedTo, Failing.sendJson, List.mem_filter]

theorem not_failedTo_sendJson : ¬ FailedTo (cs.map (failing.sendJson payload)) (.session s) := by
  simp [FailedTo, Failing.sendJson]

theorem failedTo_sendMessage :
    FailedTo (ss.map (failing.sendMessage topic payload)) (.session s) ↔
      s ∈ ss.filter failing.session := by
  simp [FailedTo, Failing.sendMessage, List.mem_filter]

theorem not_failedTo_sendMessage :
    ¬ FailedTo (ss.map (failing.sendMessage topic payload)) (.connection c) := by
  simp [FailedTo, Failing.sendMessage]

theorem timesSent_append :
    timesSent (sent ++ later) r payload = timesSent sent r payload + timesSent later r payload :=
  List.countP_append

theorem timesSent_sendJson :
    timesSent (cs.map (failing.sendJson payload)) (.connection c) payload = cs.count c := by
  unfold timesSent
  rw [List.countP_map, List.count]
  exact List.countP_congr fun x _ => by simp [Failing.sendJson]

theorem timesSent_sendJson_session :
    timesSent (cs.map (failing.sendJson payload)) (.session s) payload = 0 :=
  List.countP_eq_zero.mpr fun d hd => by
    obtain ⟨x, -, rfl⟩ := List.mem_map.mp hd
    simp [Failing.sendJson]

theorem timesSent_sendMessage :
    timesSent (ss.map (failing.sendMessage topic payload)) (.session s) payload = ss.count s := by
  unfold timesSent
  rw [List.countP_map, List.count]
  exact List.countP_congr fun x _ => by simp [Failing.sendMessage]

theorem timesSent_sendMessage_connection :
    timesSent (ss.map (failing.sendMessage topic payload)) (.connection c) payload = 0 :=
  List.countP_eq_zero.mpr fun d hd => by
    obtain ⟨x, -, rfl⟩ := List.mem_map.mp hd
    simp [Failing.sendMessage]

@[simp] theorem keptLive_nil : keptLive live [] = live :=
  Finset.filter_true_of_mem fun _ _ => not_failedTo_nil

@[simp] theorem keptListening_nil : keptListening listening [] = listening :=
  Finset.filter_true_of_mem fun _ _ => not_failedTo_nil

theorem keptLive_append : keptLive live (sent ++ later) = keptLive (keptLive live sent) later := by
  ext c
  simp only [keptLive, Finset.mem_filter, failedTo_append]
  tauto

theorem keptListening_append :
    keptListening listening (sent ++ later) = keptListening (keptListening listening sent) later := by
  ext p
  simp only [keptListening, Finset.mem_filter, failedTo_append]
  tauto

end Sends

/-! ## Broadcasting keeps the registries exact -/

/-- Both registries hold exactly who is there. -/
structure Bus.Mirrors (bus : Bus) (live : Finset WebSocketConnection)
    (listening : Finset (SessionId × Text)) : Prop where
  manager : bus.manager.Holds live
  hub : bus.hub.Lists listening

section Broadcasting

variable {bus : Bus} {room : Text} {payload : Message} {failing : Failing} {auction : Uuid}
  {exclude : List UserId}

theorem exists_destination (room : Text) : ∃ topic, destinationsForRoom room = [topic] := by
  unfold destinationsForRoom
  split_ifs
  · exact ⟨_, rfl⟩
  · exact ⟨_, rfl⟩
  · exact ⟨_, rfl⟩
  · exact ⟨_, rfl⟩

theorem broadcastRoomCompat_eq (h : destinationsForRoom room = [topic]) :
    hub.broadcastRoomCompat room payload failing = hub.broadcast topic payload failing := by
  simp [StompHub.broadcastRoomCompat, h, StompHub.broadcastMany]

theorem StompHub.Lists.broadcast (h : hub.Lists listening) :
    (hub.broadcast topic payload failing).1.Lists
      (keptListening listening (hub.broadcast topic payload failing).2) := by
  have hset : keptListening listening (hub.broadcast topic payload failing).2 =
      listening.filter (·.1 ∉ (hub.subscriptions.get topic).filter failing.session) :=
    Finset.filter_congr fun p _ => not_congr failedTo_sendMessage
  rw [hset]
  exact h.unregisterAll

/-- The sends to the connections do not fail for a session, and the other way round. -/
theorem Bus.Mirrors.broadcastToAuction (h : bus.Mirrors live listening) :
    (bus.broadcastToAuction room payload exclude failing).bus.Mirrors
      (keptLive live (bus.broadcastToAuction room payload exclude failing).sent)
      (keptListening listening (bus.broadcastToAuction room payload exclude failing).sent) := by
  simp only [Bus.broadcastToAuction]
  split_ifs with hroom
  · simpa using h
  · obtain ⟨topic, htopic⟩ := exists_destination room
    simp only [broadcastRoomCompat_eq htopic]
    constructor
    · rw [keptLive_append]
      have hcompat : ∀ live', keptLive live' (bus.hub.broadcast topic payload failing).2 = live' :=
        fun live' => Finset.filter_true_of_mem fun _ _ => not_failedTo_sendMessage
      rw [hcompat, keptLive, Finset.filter_congr fun c _ => not_congr failedTo_sendJson]
      exact h.manager.disconnectAll
    · rw [keptListening_append]
      have hnative : ∀ cs : List WebSocketConnection,
          keptListening listening (cs.map (failing.sendJson payload)) = listening :=
        fun cs => Finset.filter_true_of_mem fun _ _ => not_failedTo_sendJson
      rw [hnative]
      exact h.hub.broadcast

theorem Bus.Mirrors.sendPersonalNotification (h : bus.Mirrors live listening) :
    (bus.sendPersonalNotification user payload failing).bus.Mirrors
      (keptLive live (bus.sendPersonalNotification user payload failing).sent)
      (keptListening listening (bus.sendPersonalNotification user payload failing).sent) := by
  simp only [Bus.sendPersonalNotification, h.manager.sockets, List.map_nil, List.nil_append,
    List.filter_nil, List.foldl_nil]
  constructor
  · rw [keptLive, Finset.filter_congr fun c _ => not_congr failedTo_sendJson]
    exact h.manager.disconnectAll
  · rw [keptListening, Finset.filter_true_of_mem fun _ _ => not_failedTo_sendJson]
    exact h.hub

theorem not_prefix_of_letter {word : Text} (letter : Char) (hin : letter ∈ word)
    (hout : letter ∉ "0123456789abcdef-".toList) : ¬ word <+: auction.text :=
  fun h => hout (auction.text_chars letter (h.subset hin))

theorem destinationsForRoom_text :
    destinationsForRoom auction.text = ["/topic/auction/".toList ++ auction.text] := by
  unfold destinationsForRoom
  rw [if_neg (not_prefix_of_letter 'o' (by decide) (by decide)),
    if_neg (not_prefix_of_letter 'o' (by decide) (by decide)),
    if_neg (not_prefix_of_letter 'o' (by decide) (by decide))]

theorem broadcastToAuction_of_empty (h : bus.manager.rooms.get room = []) :
    bus.broadcastToAuction room payload exclude failing = ⟨bus, [], 0⟩ := by
  simp [Bus.broadcastToAuction, h]

theorem broadcastToAuction_sent (h : bus.manager.rooms.get auction.text ≠ []) :
    (bus.broadcastToAuction auction.text payload [] failing).sent =
      (bus.manager.rooms.get auction.text).map (failing.sendJson payload) ++
        (bus.hub.subscriptions.get ("/topic/auction/".toList ++ auction.text)).map
          (failing.sendMessage ("/topic/auction/".toList ++ auction.text) payload) := by
  have hall : (bus.manager.rooms.get auction.text).filter
      (fun c => c.userId.all fun user => decide (user ∉ ([] : List UserId))) =
      bus.manager.rooms.get auction.text :=
    List.filter_eq_self.mpr fun c _ => by cases c.userId <;> simp
  simp only [Bus.broadcastToAuction, if_neg h, hall, broadcastRoomCompat_eq destinationsForRoom_text]
  rfl

end Broadcasting

end Registries

end Deltapreneur.Realtime

import Mathlib.Data.Finset.Basic
import Mathlib.Data.List.DropRight
import Deltapreneur.Lib.Buckets

/-!
# Live auction events: the two registries

Native sockets connect to a `ConnectionManager` under a room; legacy clients speak STOMP to a
`StompHub` and subscribe to topics. The services publish to a room of the manager, which passes
what it broadcast on to the hub.

* `openSocket` is the beginning of `auction_socket` and of `community_auction_socket`, which differ
  in the table they look the auction up in and in one text. Both connect under `str(auction_id)`.
* `broadcastToAuction` returns early when the room has no native connection.
* `serve` handles the frames of one text of a STOMP client.
* A send fails when the transport does, or when the payload has no JSON; which ones fail is up to
  the environment. Closing a socket whose send failed lets its endpoint end later.
* A set is a list without duplicates; the order of a loop over it is of no consequence here.
-/

namespace Deltapreneur.Realtime

abbrev Text := List Char

abbrev UserId := Nat

abbrev SessionId := Nat

/-- `uuid.UUID`, by its text: `str(u)`. -/
@[ext] structure Uuid where
  text : Text
  length_text : text.length = 36
  text_chars : ∀ c ∈ text, c ∈ "0123456789abcdef-".toList
deriving DecidableEq

/-! ## Native connections -/

/-- The two endpoints for native sockets. -/
inductive Endpoint
  | auction
  | communityAuction
deriving DecidableEq

/-- The accepted socket, by the path it was opened with. -/
structure WebSocket where
  endpoint : Endpoint
  auction : Uuid
deriving DecidableEq

structure WebSocketConnection where
  websocket : WebSocket
  auctionId : Text
  userId : Option UserId
  id : Nat
deriving DecidableEq

abbrev NotificationSocket := Nat

structure ConnectionManager where
  rooms : Buckets Text WebSocketConnection
  userIndex : Buckets UserId WebSocketConnection
  /-- The endpoint for notifications registers its sockets with another manager. -/
  userConnections : UserId → List NotificationSocket
  activeConnections : Finset WebSocketConnection

def ConnectionManager.empty : ConnectionManager := ⟨.empty, .empty, fun _ => [], ∅⟩

/-- `_add_to_user_index`. -/
def ConnectionManager.addToUserIndex (m : ConnectionManager) (c : WebSocketConnection) :
    Buckets UserId WebSocketConnection :=
  match c.userId with
  | none => m.userIndex
  | some user => m.userIndex.add user c

/-- `_remove_from_user_index`. -/
def ConnectionManager.removeFromUserIndex (m : ConnectionManager) (c : WebSocketConnection) :
    Buckets UserId WebSocketConnection :=
  match c.userId with
  | none => m.userIndex
  | some user => m.userIndex.discard user c

def ConnectionManager.connect (m : ConnectionManager) (c : WebSocketConnection) :
    ConnectionManager where
  rooms := m.rooms.add c.auctionId c
  userIndex := m.addToUserIndex c
  userConnections := m.userConnections
  activeConnections := insert c m.activeConnections

def ConnectionManager.disconnect (m : ConnectionManager) (c : WebSocketConnection) :
    ConnectionManager where
  rooms := m.rooms.discard c.auctionId c
  userIndex := m.removeFromUserIndex c
  userConnections := m.userConnections
  activeConnections := m.activeConnections.erase c

/-- The loop over `dead_connections`. -/
def ConnectionManager.disconnectAll (m : ConnectionManager) (dead : List WebSocketConnection) :
    ConnectionManager :=
  dead.foldl ConnectionManager.disconnect m

def ConnectionManager.disconnectUser (m : ConnectionManager) (user : UserId)
    (socket : NotificationSocket) : ConnectionManager :=
  { m with userConnections :=
      Function.update m.userConnections user ((m.userConnections user).erase socket) }

/-- What an endpoint answers before it closes the socket. -/
structure Refusal where
  message : String
  code : String
  close : Nat
deriving DecidableEq

/-- The error for an auction that is not found. -/
def Endpoint.notFound : Endpoint → String
  | .auction => "Auction not found."
  | .communityAuction => "Community auction not found."

/-- What the environment answers while a socket is opened: the user of the token, whether the
auction is found, whether the greeting is sent. -/
structure Handshake where
  user : Option UserId
  found : Bool
  greeted : Bool

inductive Admission
  | refused (refusal : Refusal)
  | dropped
  | serving (connection : WebSocketConnection)
deriving DecidableEq

/-- An endpoint up to its loops; `id` is the new connection's `uuid4`. -/
def openSocket (endpoint : Endpoint) (auction : Uuid) (m : ConnectionManager) (id : Nat)
    (h : Handshake) : ConnectionManager × Admission :=
  match h.user with
  | none => (m, .refused ⟨"Invalid or expired token.", "WS_UNAUTHORIZED", 4401⟩)
  | some user =>
    if h.found then
      let connection : WebSocketConnection := ⟨⟨endpoint, auction⟩, auction.text, some user, id⟩
      if h.greeted then (m.connect connection, .serving connection)
      else ((m.connect connection).disconnect connection, .dropped)
    else (m, .refused ⟨endpoint.notFound, "WS_AUCTION_NOT_FOUND", 4404⟩)

def auctionSocket := openSocket .auction

def communityAuctionSocket := openSocket .communityAuction

/-! ## STOMP sessions -/

/-- `_subscriptions` and `_sessions` of the hub; `held` is the `subscriptions` of each session
object, which outlives the session's registration. -/
structure StompHub where
  subscriptions : Buckets Text SessionId
  sessions : Finset SessionId
  held : Buckets SessionId Text

namespace StompHub

def empty : StompHub := ⟨.empty, ∅, .empty⟩

def register (hub : StompHub) (session : SessionId) : StompHub :=
  { hub with sessions := insert session hub.sessions }

def unregister (hub : StompHub) (session : SessionId) : StompHub :=
  { hub with
    sessions := hub.sessions.erase session
    subscriptions := hub.subscriptions.discardAll session (hub.held.get session) }

def subscribe (hub : StompHub) (session : SessionId) (destination : Text) : StompHub :=
  { hub with
    held := hub.held.add session destination
    subscriptions := hub.subscriptions.add destination session }

/-- The loop over `dead`. -/
def unregisterAll (hub : StompHub) (dead : List SessionId) : StompHub :=
  dead.foldl unregister hub

end StompHub

/-! ## Frames -/

/-- The string methods of the language that depend on its character tables. -/
structure Language where
  /-- `str.isspace` of one character. -/
  isSpace : Char → Bool
  upper : Text → Text
  lower : Text → Text

structure Frame where
  command : Text
  headers : List (Text × Text)
  body : Text
deriving DecidableEq

/-- `headers.get(key)`: of two headers of one name the later one counts. -/
def Frame.header (frame : Frame) (key : Text) : Option Text := frame.headers.reverse.lookup key

namespace Language

variable (L : Language)

/-- `t.strip()`. -/
def strip (t : Text) : Text := (t.dropWhile L.isSpace).rdropWhile L.isSpace

def headerLine (line : Text) : Option (Text × Text) :=
  if ':' ∈ line then
    some (L.lower (L.strip (line.takeWhile (· ≠ ':'))),
      L.strip (line.dropWhile (· ≠ ':')).tail)
  else none

/-- One chunk, without the line breaks around it. -/
def frame (text : Text) : Frame :=
  let lines := text.splitOn '\n'
  { command := L.upper (L.strip (lines.headD []))
    headers := (lines.tail.takeWhile (L.strip · ≠ [])).filterMap L.headerLine
    body := ['\n'].intercalate (lines.tail.dropWhile (L.strip · ≠ [])).tail }

/-- `chunk.strip("\n\r")`. -/
def stripBreaks (chunk : Text) : Text :=
  (chunk.dropWhile (· ∈ ['\n', '\r'])).rdropWhile (· ∈ ['\n', '\r'])

/-- `_parse_stomp_frames`. -/
def parseStompFrames (raw : Text) : List Frame :=
  (((raw.splitOn (Char.ofNat 0)).map stripBreaks).filter (· ≠ [])).map L.frame

end Language

/-- The frames the server answers with. -/
inductive Reply
  | connected (version : Text)
  | pong
deriving DecidableEq

/-- What a text of a client came to: the replies sent, the topics subscribed to, and whether the
endpoint goes on serving the session. -/
structure Served where
  hub : StompHub
  replies : List Reply
  subscribed : List Text
  serving : Bool

/-- The loop of `sockjs_ws` over the frames of one text, each with the news whether a reply to it
fails. A failed reply ends the endpoint, whose `finally` unregisters the session. -/
def StompHub.serve (session : SessionId) : List (Frame × Bool) → StompHub → Served
  | [], hub => ⟨hub, [], [], true⟩
  | (frame, fails) :: frames, hub =>
    if frame.command = "CONNECT".toList then
      if fails then ⟨hub.unregister session, [], [], false⟩
      else
        let rest := serve session frames hub
        let version := (frame.header "accept-version".toList).getD "1.2".toList
        { rest with replies := .connected version :: rest.replies }
    else if frame.command = "SUBSCRIBE".toList then
      let destination := (frame.header "destination".toList).getD []
      if destination = [] then serve session frames hub
      else
        let rest := serve session frames (hub.subscribe session destination)
        { rest with subscribed := destination :: rest.subscribed }
    else if frame.command = "DISCONNECT".toList then ⟨hub.unregister session, [], [], false⟩
    else if frame.command = "PING".toList then
      if fails then ⟨hub.unregister session, [], [], false⟩
      else
        let rest := serve session frames hub
        { rest with replies := .pong :: rest.replies }
    else serve session frames hub

/-- One text a client sends; `fails i` tells whether a reply to its frame `i` fails. -/
def StompHub.receive (L : Language) (hub : StompHub) (session : SessionId) (raw : Text)
    (fails : Nat → Bool) : Served :=
  hub.serve session ((L.parseStompFrames raw).zipIdx.map fun p => (p.1, fails p.2))

/-! ## Sending -/

/-- What is sent: the event of an auction, or the summary for the creator's profile page. -/
inductive Message
  | auction (event : Text)
  | profile (event : String)
deriving DecidableEq

inductive Receiver
  | notification (socket : NotificationSocket)
  | connection (c : WebSocketConnection)
  | session (s : SessionId)
deriving DecidableEq

/-- One send, with the STOMP destination it names, and whether it went through. -/
structure Delivery where
  receiver : Receiver
  destination : Option Text
  payload : Message
  ok : Bool
deriving DecidableEq

/-- The receivers the sends to whom fail. -/
structure Failing where
  notification : NotificationSocket → Bool
  connection : WebSocketConnection → Bool
  session : SessionId → Bool

def Failing.sendNotification (failing : Failing) (payload : Message) (socket : NotificationSocket) :
    Delivery :=
  ⟨.notification socket, none, payload, !failing.notification socket⟩

def Failing.sendJson (failing : Failing) (payload : Message) (c : WebSocketConnection) : Delivery :=
  ⟨.connection c, none, payload, !failing.connection c⟩

def Failing.sendMessage (failing : Failing) (destination : Text) (payload : Message)
    (s : SessionId) : Delivery :=
  ⟨.session s, some destination, payload, !failing.session s⟩

def StompHub.broadcast (hub : StompHub) (destination : Text) (payload : Message)
    (failing : Failing) : StompHub × List Delivery :=
  let sessions := hub.subscriptions.get destination
  (hub.unregisterAll (sessions.filter failing.session),
    sessions.map (failing.sendMessage destination payload))

def StompHub.broadcastMany (payload : Message) (failing : Failing) :
    List Text → StompHub → StompHub × List Delivery
  | [], hub => (hub, [])
  | destination :: destinations, hub =>
    let first := hub.broadcast destination payload failing
    let rest := broadcastMany payload failing destinations first.1
    (rest.1, first.2 ++ rest.2)

/-- `_destinations_for_room`. -/
def destinationsForRoom (room : Text) : List Text :=
  if "community_profile_".toList <+: room then
    ["/topic/creator-profile/".toList ++ room.drop "community_profile_".length]
  else if "software_auction_".toList <+: room then
    ["/topic/software-auction/".toList ++ room.drop "software_auction_".length]
  else if "community_auction_".toList <+: room then
    ["/topic/community-auction/".toList ++ room.drop "community_auction_".length]
  else ["/topic/auction/".toList ++ room]

/-- `broadcast_room_compat`. -/
def StompHub.broadcastRoomCompat (hub : StompHub) (room : Text) (payload : Message)
    (failing : Failing) : StompHub × List Delivery :=
  hub.broadcastMany payload failing (destinationsForRoom room)

/-- The manager and the hub of the process. -/
structure Bus where
  manager : ConnectionManager
  hub : StompHub

/-- The registries afterwards, every send, and the number that is returned. -/
structure Broadcast where
  bus : Bus
  sent : List Delivery
  delivered : Nat

def Bus.broadcastToAuction (bus : Bus) (auctionId : Text) (payload : Message)
    (excludeUserIds : List UserId) (failing : Failing) : Broadcast :=
  let connections := bus.manager.rooms.get auctionId
  if connections = [] then ⟨bus, [], 0⟩
  else
    let addressed := connections.filter fun c => c.userId.all (· ∉ excludeUserIds)
    let sends := addressed.map (failing.sendJson payload)
    let manager := bus.manager.disconnectAll (addressed.filter failing.connection)
    let compat := bus.hub.broadcastRoomCompat auctionId payload failing
    ⟨⟨manager, compat.1⟩, sends ++ compat.2, sends.countP (·.ok)⟩

def Bus.sendPersonalNotification (bus : Bus) (user : UserId) (payload : Message)
    (failing : Failing) : Broadcast :=
  let sockets := bus.manager.userConnections user
  let connections := bus.manager.userIndex.get user
  let sends := sockets.map (failing.sendNotification payload) ++
    connections.map (failing.sendJson payload)
  let manager := (sockets.filter failing.notification).foldl (·.disconnectUser user ·) bus.manager
  ⟨{ bus with manager := manager.disconnectAll (connections.filter failing.connection) }, sends,
    sends.countP (·.ok)⟩

/-! ## The services that publish -/

/-- `BidService._publish_event`. -/
def Bus.publishEvent (bus : Bus) (auctionId : Uuid) (event : Text) (failing : Message → Failing) :
    Bus × List Delivery :=
  let done := bus.broadcastToAuction auctionId.text (.auction event) [] (failing (.auction event))
  (done.bus, done.sent)

/-- `_broadcast_profile_sync`. -/
def Bus.broadcastProfileSync (bus : Bus) (community : Uuid) (event : String)
    (failing : Message → Failing) : Bus × List Delivery :=
  let done := bus.broadcastToAuction ("community_profile_".toList ++ community.text)
    (.profile event) [] (failing (.profile event))
  (done.bus, done.sent)

/-- `CommunityAuctionService._broadcast_auction_event`. -/
def Bus.broadcastAuctionEvent (bus : Bus) (auctionId : Uuid) (event : Text)
    (failing : Message → Failing) : Bus × List Delivery :=
  let done := bus.broadcastToAuction ("community_auction_".toList ++ auctionId.text)
    (.auction event) [] (failing (.auction event))
  (done.bus, done.sent)

/-- `CommunityAuctionService._broadcast_bid_update`: the same broadcast, then the creator's profile
page is told. -/
def Bus.broadcastBidUpdate (bus : Bus) (auctionId community : Uuid) (event : Text)
    (extended : Bool) (failing : Message → Failing) : Bus × List Delivery :=
  let bid := bus.broadcastAuctionEvent auctionId event failing
  let received := bid.1.broadcastProfileSync community "new_bid_received" failing
  let updated := if extended then
      received.1.broadcastProfileSync community "creator_auction_updated" failing
    else (received.1, [])
  (updated.1, bid.2 ++ received.2 ++ updated.2)

end Deltapreneur.Realtime

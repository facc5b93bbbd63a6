import Deltapreneur.Lib.Json
import Deltapreneur.WinnerPayment.Lifecycle
import Deltapreneur.Lib.Trim
import Mathlib.Data.Char
import Mathlib.Data.List.Lex
import Mathlib.Data.List.ReduceOption

/-!
# The settings rows of bidding blocks

`block_user`, `unblock_user`, `list_blocked_users` and the two guards
(`app/service/auction/winner_payment_lifecycle.py:318-422, 641-677`) on the rows of
`platform_settings`: one row for each user who was ever blocked, under `bidblock:<user id>`, and the
list of these users under `bidblock_index`.

* A row is what `json.loads` makes of its text. What `json.dumps` was given comes back.
* `list_blocked_users` also reads the user's name and the due date into its answer; left out.
* The two guards have their own texts for a row without a reason.

Results:

* `Agrees`: the rows hold the blocks and the index of `Lifecycle.lean`. `agrees_blockUser`,
  `agrees_unblockUser`: blocking and unblocking on the rows is blocking and unblocking there.
* `Agrees.guardAsync`, `Agrees.guardSync`: both guards read these blocks.
-/

namespace Deltapreneur.WinnerPayment

/-- `unblock_user` on the blocks. -/
def Settings.unblockUser (st : Settings) (user : UserId) (now : Time) : Settings :=
  { st with
    blocks := Function.update st.blocks user <|
      (st.blocks user).map fun b => { b with unblockedAt := some now } }

namespace BlockRows

open Marketplace Auction

abbrev Text := List Char

abbrev Members := List (Text × Json)

/-! ## Rows -/

/-- A `setting_value`. -/
inductive Setting
  /-- The empty text. -/
  | blank
  /-- `json.loads` raises `JSONDecodeError`. -/
  | malformed
  | json (value : Json)

/-- `platform_settings`, by `setting_key`. -/
abbrev Rows := Text → Option Setting

/-- `_set`. -/
def Rows.set (rows : Rows) (key : Text) (value : Setting) : Rows :=
  Function.update rows key (some value)

/-- The texts that the standard library makes of ids, times and amounts. -/
structure Words where
  uuid : UserId → Text
  uuid_injective : Function.Injective uuid
  auctionUuid : AuctionRef → Text
  isoformat : Time → Text
  isoformat_ne : ∀ t, isoformat t ≠ []
  /-- The token of a float. -/
  float : Paise → Text

/-- Ids and times in unary. -/
def Words.unary : Words where
  uuid n := List.replicate n 'u'
  uuid_injective n m h := by simpa using congrArg List.length h
  auctionUuid a := List.replicate a.id 'a'
  isoformat t := 't' :: List.replicate t 't'
  isoformat_ne _ := List.cons_ne_nil _ _
  float n := List.replicate n '1'

def BLOCK_PREFIX : Text := "bidblock:".toList

def BLOCK_INDEX_KEY : Text := "bidblock_index".toList

/-- The truth value of `dict.get(...)`; of a number, whether it has a digit other than zero. -/
def truthy : Option Json → Bool
  | none | some .null => false
  | some (.bool b) => b
  | some (.num token) => token.any fun c => c.isDigit && c ≠ '0'
  | some (.str s) => s ≠ []
  | some (.arr items) => !items.isEmpty
  | some (.obj members) => !members.isEmpty

/-- `value or default`. -/
def orElse (value : Option Json) (default : String) : Json :=
  if truthy value then value.getD .null else .str default.toList

/-- A member of the object. -/
def field (data : Members) (key : String) : Option Json := Json.get? data key.toList

inductive Raised
  /-- The JSON is not of the type that the code expects. -/
  | attributeError
  /-- Status 403. -/
  | forbidden (detail : Json)

section

variable (W : Words)

/-- `_block_key`. -/
def blockKey (user : UserId) : Text := BLOCK_PREFIX ++ W.uuid user

/-! ## The guards -/

/-- `is_user_bidding_blocked`. -/
def isUserBiddingBlocked (rows : Rows) (user : UserId) : Except Raised (Bool × Json) :=
  match rows (blockKey W user) with
  | none | some .blank => .ok (false, .null)
  | some .malformed => .ok (true, .str "Bidding blocked.".toList)
  | some (.json (.obj data)) =>
    if truthy (field data "unblockedAt") then .ok (false, .null)
    else .ok (true, orElse (field data "reason") "Bidding blocked for unpaid auction win.")
  | some (.json _) => .error .attributeError

/-- `assert_user_can_bid_async`. -/
def assertUserCanBidAsync (rows : Rows) (user : UserId) : Except Raised Unit :=
  match isUserBiddingBlocked W rows user with
  | .error e => .error e
  | .ok (true, reason) =>
    .error (.forbidden (orElse (some reason)
      "Your account is blocked from bidding after an unpaid auction win."))
  | .ok (false, _) => .ok ()

/-- `assert_user_can_bid_sync`. -/
def assertUserCanBidSync (rows : Rows) (user : UserId) : Except Raised Unit :=
  match rows (blockKey W user) with
  | none | some .blank => .ok ()
  | some .malformed =>
    .error (.forbidden (.str "Your account is blocked from bidding. Contact support.".toList))
  | some (.json (.obj data)) =>
    if truthy (field data "unblockedAt") then .ok ()
    else .error (.forbidden (orElse (field data "reason")
      "Your account is blocked from bidding after an unpaid auction win."))
  | some (.json _) => .error .attributeError

/-! ## The writers -/

/-- What `block_user` is told. -/
structure Unpaid where
  reason : String
  auction : TrackKey
  winningAmount : Paise
  title : String

def auctionTypeText : FeeAuctionType → Text
  | .domain => "DOMAIN".toList
  | .software => "SOFTWARE".toList
  | .community => "COMMUNITY".toList

/-- The object that `block_user` stores. -/
def payload (user : UserId) (unpaid : Unpaid) (now : Time) : Members :=
  [("userId".toList, .str (W.uuid user)),
    ("reason".toList, .str unpaid.reason.toList),
    ("blockedAt".toList, .str (W.isoformat now)),
    ("auctionType".toList, .str (auctionTypeText unpaid.auction.auctionType)),
    ("auctionId".toList, .str (W.auctionUuid unpaid.auction.auction)),
    ("winningAmount".toList, .num (W.float unpaid.winningAmount)),
    ("title".toList, .str unpaid.title.toList),
    ("unblockedAt".toList, .null),
    ("unblockedBy".toList, .null)]

def itemText : Json → Except Raised Text
  | .str s => .ok s
  | _ => .error .attributeError

def loadIndex (rows : Rows) : Except Raised (List Text) :=
  match rows BLOCK_INDEX_KEY with
  | none | some .blank | some .malformed => .ok []
  | some (.json (.arr items)) => items.mapM itemText
  | some (.json _) => .error .attributeError

/-- `block_user`. -/
def blockUser (rows : Rows) (user : UserId) (unpaid : Unpaid) (now : Time) : Except Raised Rows :=
  let rows := rows.set (blockKey W user) (.json (.obj (payload W user unpaid now)))
  match loadIndex rows with
  | .error e => .error e
  | .ok index =>
    if W.uuid user ∈ index then .ok rows
    else .ok (rows.set BLOCK_INDEX_KEY (.json (.arr ((index ++ [W.uuid user]).map .str))))

/-- The object after `unblock_user`. -/
def unblocked (data : Members) (byAdmin : Option UserId) (now : Time) : Members :=
  Json.set (Json.set data "unblockedAt".toList (.str (W.isoformat now))) "unblockedBy".toList
    (match byAdmin with
      | some admin => .str (W.uuid admin)
      | none => .null)

/-- `unblock_user`. -/
def unblockUser (rows : Rows) (user : UserId) (byAdmin : Option UserId) (now : Time) :
    Except Raised (Bool × Rows) :=
  match rows (blockKey W user) with
  | none | some .blank => .ok (false, rows)
  | some .malformed =>
    .ok (true, rows.set (blockKey W user) (.json (.obj (unblocked W [] byAdmin now))))
  | some (.json (.obj data)) =>
    .ok (true, rows.set (blockKey W user) (.json (.obj (unblocked W data byAdmin now))))
  | some (.json _) => .error .attributeError

end

/-! ## The list -/

/-- The entry for an item of the index, if the user is blocked. -/
def blockedEntry (rows : Rows) (uid : Text) : Except Raised (Option Members) :=
  match rows (BLOCK_PREFIX ++ uid) with
  | none | some .blank | some .malformed => .ok none
  | some (.json (.obj data)) => .ok (if truthy (field data "unblockedAt") then none else some data)
  | some (.json _) => .error .attributeError

/-- `r.get("blockedAt") or ""`. -/
def blockedAt (data : Members) : Text :=
  match field data "blockedAt" with
  | some (.str s) => s
  | _ => []

/-- `list_blocked_users`: the newest first. -/
def listBlockedUsers (rows : Rows) : Except Raised (List Members) := do
  let index ← loadIndex rows
  let entries ← index.mapM (blockedEntry rows)
  return entries.reduceOption.mergeSort fun a b => blockedAt b ≤ blockedAt a

/-! ## The rows hold the blocks -/

/-- The object is the one of the block. -/
structure Stored (W : Words) (user : UserId) (b : Block) (data : Members) : Prop where
  userId : field data "userId" = some (.str (W.uuid user))
  reason : field data "reason" = some (.str b.reason.toList)
  reason_ne : b.reason.toList ≠ []
  unblockedAt : truthy (field data "unblockedAt") = b.unblockedAt.isSome

/-- **The rows hold the blocks and the index.** -/
structure Agrees (W : Words) (rows : Rows) (st : Settings) : Prop where
  absent : ∀ u, st.blocks u = none → rows (blockKey W u) = none
  block : ∀ u b, st.blocks u = some b →
    ∃ data, rows (blockKey W u) = some (.json (.obj data)) ∧ Stored W u b data
  index : rows BLOCK_INDEX_KEY = if st.blockIndex = [] then none
    else some (.json (.arr (st.blockIndex.map fun u => .str (W.uuid u))))
  listed : ∀ u, u ∈ st.blockIndex ↔ (st.blocks u).isSome = true

variable {W : Words} {rows : Rows} {st : Settings} {user : UserId} {b : Block} {now : Time}

theorem blockKey_inj {u v : UserId} (h : blockKey W u = blockKey W v) : u = v := by
  have hkeys : BLOCK_PREFIX ++ W.uuid u = BLOCK_PREFIX ++ W.uuid v := h
  exact W.uuid_injective (List.append_cancel_left hkeys)

theorem blockKey_ne_index (u : UserId) : blockKey W u ≠ BLOCK_INDEX_KEY := by
  intro h
  have hprefix : BLOCK_PREFIX <+: BLOCK_INDEX_KEY := ⟨W.uuid u, h⟩
  exact absurd hprefix (by decide +kernel)

theorem set_self (key : Text) (v : Setting) : rows.set key v key = some v :=
  Function.update_self _ _ _

theorem set_ne {key other : Text} (h : other ≠ key) (v : Setting) :
    rows.set key v other = rows other :=
  Function.update_of_ne h _ _

theorem mapM_itemText (users : List UserId) :
    (users.map fun u => Json.str (W.uuid u)).mapM itemText = .ok (users.map W.uuid) := by
  induction users with
  | nil => rfl
  | cons u users ih =>
    simp only [List.map_cons, List.mapM_cons, itemText, ih, bind, Except.bind, pure, Except.pure]

theorem Agrees.loadIndex (h : Agrees W rows st) :
    loadIndex rows = .ok (st.blockIndex.map W.uuid) := by
  rw [BlockRows.loadIndex, h.index]
  split_ifs with hempty
  · rw [hempty]
    rfl
  · exact mapM_itemText st.blockIndex

theorem agrees_set (h : Agrees W rows st) {key : Text} (hblock : ∀ u, key ≠ blockKey W u)
    (hindex : key ≠ BLOCK_INDEX_KEY) (v : Setting) : Agrees W (rows.set key v) st where
  absent u hu := (set_ne (hblock u).symm v).trans (h.absent u hu)
  block u b hu := by
    rw [set_ne (hblock u).symm v]
    exact h.block u b hu
  index := (set_ne hindex.symm v).trans h.index
  listed := h.listed

/-- The index after one more block. -/
def indexed (index : List UserId) (user : UserId) : List UserId :=
  if user ∈ index then index else index ++ [user]

theorem stored_payload {unpaid : Unpaid} (hreason : b.reason = unpaid.reason)
    (hne : unpaid.reason.toList ≠ []) (hblocked : b.unblockedAt = none) :
    Stored W user b (payload W user unpaid now) where
  userId := rfl
  reason := by rw [hreason]; rfl
  reason_ne := hreason ▸ hne
  unblockedAt := by rw [hblocked]; rfl

/-- **Blocking on the rows is blocking.** -/
theorem agrees_blockUser {unpaid : Unpaid} (h : Agrees W rows st)
    (hreason : b.reason = unpaid.reason) (hne : unpaid.reason.toList ≠ [])
    (hblocked : b.unblockedAt = none) :
    ∃ rows', blockUser W rows user unpaid now = .ok rows' ∧
      Agrees W rows' (st.blockUser user b) := by
  have hkey := blockKey_ne_index (W := W) user
  have hset : loadIndex (rows.set (blockKey W user) (.json (.obj (payload W user unpaid now)))) =
      .ok (st.blockIndex.map W.uuid) := by
    rw [← h.loadIndex, loadIndex, loadIndex, set_ne hkey.symm]
  have hmem : W.uuid user ∈ st.blockIndex.map W.uuid ↔ user ∈ st.blockIndex :=
    List.mem_map_of_injective W.uuid_injective
  -- the block, under whatever is written to the index
  have hblocks : ∀ rows' : Rows, (∀ u, rows' (blockKey W u) =
        rows.set (blockKey W user) (.json (.obj (payload W user unpaid now))) (blockKey W u)) →
      rows' BLOCK_INDEX_KEY = (if indexed st.blockIndex user = [] then none
        else some (.json (.arr ((indexed st.blockIndex user).map fun u => .str (W.uuid u))))) →
      Agrees W rows' (st.blockUser user b) := by
    intro rows' hrows hindex
    refine ⟨fun u hu => ?_, fun u c hu => ?_, hindex, fun u => ?_⟩
    · by_cases huser : u = user
      · subst huser
        simp [Settings.blockUser] at hu
      · rw [hrows, set_ne fun heq => huser (blockKey_inj heq)]
        exact h.absent u (by simpa [Settings.blockUser, huser] using hu)
    · by_cases huser : u = user
      · subst huser
        obtain rfl : b = c := by simpa [Settings.blockUser] using hu
        rw [hrows, set_self]
        exact ⟨_, rfl, stored_payload hreason hne hblocked⟩
      · rw [hrows, set_ne fun heq => huser (blockKey_inj heq)]
        exact h.block u c (by simpa [Settings.blockUser, huser] using hu)
    · have hlisted := h.listed u
      by_cases huser : u = user
      · subst huser
        simp only [Settings.blockUser, Function.update_self, Option.isSome_some, iff_true]
        split_ifs with hin
        · exact hin
        · simp
      · simp only [Settings.blockUser, Function.update_of_ne huser]
        split_ifs
        · exact hlisted
        · simpa [huser] using hlisted
  simp only [blockUser, hset, hmem]
  split_ifs with hin
  · refine ⟨_, rfl, hblocks _ (fun u => rfl) ?_⟩
    rw [set_ne hkey.symm, indexed, if_pos hin]
    exact h.index
  · refine ⟨_, rfl, hblocks _ (fun u => set_ne (blockKey_ne_index u) _) ?_⟩
    rw [set_self, indexed, if_neg hin, if_neg (by simp)]
    simp

theorem stored_unblocked {data : Members} {admin : Option UserId} (h : Stored W user b data) :
    Stored W user { b with unblockedAt := some now } (unblocked W data admin now) := by
  have hkept (key : String) (h1 : key.toList ≠ "unblockedAt".toList)
      (h2 : key.toList ≠ "unblockedBy".toList) :
      field (unblocked W data admin now) key = field data key := by
    unfold field unblocked
    rw [Json.get?_set_ne _ _ h2, Json.get?_set_ne _ _ h1]
  refine ⟨?_, ?_, h.reason_ne, ?_⟩
  · rw [hkept "userId" (by decide +kernel) (by decide +kernel)]
    exact h.userId
  · rw [hkept "reason" (by decide +kernel) (by decide +kernel)]
    exact h.reason
  · have hat : field (unblocked W data admin now) "unblockedAt" = some (.str (W.isoformat now)) := by
      unfold field unblocked
      rw [Json.get?_set_ne _ _ (by decide +kernel), Json.get?_set_self]
    rw [hat]
    simp [truthy, W.isoformat_ne now]

theorem unblockUser_of_none (h : st.blocks user = none) : st.unblockUser user now = st := by
  unfold Settings.unblockUser
  rw [h, Option.map_none, ← h, Function.update_eq_self]

/-- **Unblocking on the rows is unblocking.** -/
theorem agrees_unblockUser (h : Agrees W rows st) (admin : Option UserId) (now : Time) :
    ∃ rows', unblockUser W rows user admin now = .ok ((st.blocks user).isSome, rows') ∧
      Agrees W rows' (st.unblockUser user now) := by
  cases hblock : st.blocks user with
  | none =>
    rw [unblockUser_of_none hblock]
    refine ⟨rows, ?_, h⟩
    rw [unblockUser, h.absent user hblock]
    rfl
  | some b =>
    obtain ⟨data, hrow, hstored⟩ := h.block user b hblock
    refine ⟨_, by rw [unblockUser, hrow]; rfl, fun u hu => ?_, fun u c hu => ?_, ?_, fun u => ?_⟩
    · by_cases huser : u = user
      · subst huser
        simp [Settings.unblockUser, hblock] at hu
      · rw [set_ne fun heq => huser (blockKey_inj heq)]
        exact h.absent u (by simpa [Settings.unblockUser, huser] using hu)
    · by_cases huser : u = user
      · subst huser
        obtain rfl : { b with unblockedAt := some now } = c := by
          simpa [Settings.unblockUser, hblock] using hu
        rw [set_self]
        exact ⟨_, rfl, stored_unblocked hstored⟩
      · rw [set_ne fun heq => huser (blockKey_inj heq)]
        exact h.block u c (by simpa [Settings.unblockUser, huser] using hu)
    · rw [set_ne (blockKey_ne_index user).symm]
      exact h.index
    · refine (h.listed u).trans ?_
      by_cases huser : u = user
      · subst huser
        simp [Settings.unblockUser, hblock]
      · simp [Settings.unblockUser, huser]

/-! ## Reading the rows -/

/-- What `is_user_bidding_blocked` answers. -/
def answer : Option Block → Bool × Json
  | none => (false, .null)
  | some b => if b.unblockedAt.isSome then (false, .null) else (true, .str b.reason.toList)

/-- The guard of a user with this answer. -/
def guard : Bool × Json → Except Raised Unit
  | (true, reason) => .error (.forbidden reason)
  | (false, _) => .ok ()

theorem orElse_str {s : Text} (h : s ≠ []) (default : String) :
    orElse (some (.str s)) default = .str s := by
  simp [orElse, truthy, h]

theorem Agrees.isUserBiddingBlocked (h : Agrees W rows st) (u : UserId) :
    isUserBiddingBlocked W rows u = .ok (answer (st.blocks u)) := by
  unfold BlockRows.isUserBiddingBlocked
  cases hblock : st.blocks u with
  | none => rw [h.absent u hblock]; rfl
  | some b =>
    obtain ⟨data, hrow, hstored⟩ := h.block u b hblock
    rw [hrow]
    simp only [hstored.unblockedAt, hstored.reason, orElse_str hstored.reason_ne, answer]
    split_ifs <;> rfl

/-- **The asynchronous guard.** -/
theorem Agrees.guardAsync (h : Agrees W rows st) (u : UserId) :
    assertUserCanBidAsync W rows u = guard (answer (st.blocks u)) := by
  rw [assertUserCanBidAsync, h.isUserBiddingBlocked]
  cases hblock : st.blocks u with
  | none => rfl
  | some b =>
    obtain ⟨data, -, hstored⟩ := h.block u b hblock
    simp only [answer]
    split_ifs
    · rfl
    · simp only [orElse_str hstored.reason_ne, guard]

/-- **The synchronous guard.** -/
theorem Agrees.guardSync (h : Agrees W rows st) (u : UserId) :
    assertUserCanBidSync W rows u = guard (answer (st.blocks u)) := by
  unfold assertUserCanBidSync
  cases hblock : st.blocks u with
  | none => rw [h.absent u hblock]; rfl
  | some b =>
    obtain ⟨data, hrow, hstored⟩ := h.block u b hblock
    rw [hrow]
    simp only [hstored.unblockedAt, hstored.reason, orElse_str hstored.reason_ne, answer]
    split_ifs <;> rfl

theorem mapM_ok {α β : Type} {f : α → Except Raised β} {g : α → β} :
    ∀ {l : List α}, (∀ x ∈ l, f x = .ok (g x)) → l.mapM f = .ok (l.map g)
  | [], _ => rfl
  | x :: l, h => by
    have ih := mapM_ok fun y hy => h y (List.mem_cons_of_mem x hy)
    simp only [List.mapM_cons, h x List.mem_cons_self, ih, bind, Except.bind, pure, Except.pure,
      List.map_cons]

theorem Agrees.blockedEntry (h : Agrees W rows st) (u : UserId) :
    ∃ e, blockedEntry rows (W.uuid u) = .ok e ∧
      ((answer (st.blocks u)).1 = true ↔ e.isSome = true) ∧
      ∀ data ∈ e, field data "userId" = some (.str (W.uuid u)) := by
  have hrow : rows (BLOCK_PREFIX ++ W.uuid u) = rows (blockKey W u) := rfl
  unfold BlockRows.blockedEntry
  cases hblock : st.blocks u with
  | none =>
    rw [hrow, h.absent u hblock]
    exact ⟨none, rfl, by simp [answer], by simp⟩
  | some b =>
    obtain ⟨data, hdata, hstored⟩ := h.block u b hblock
    rw [hrow, hdata]
    simp only [hstored.unblockedAt, answer]
    split_ifs with hfree
    · exact ⟨none, rfl, by simp, by simp⟩
    · refine ⟨some data, rfl, by simp, ?_⟩
      rintro d hd
      rw [← Option.some.inj hd]
      exact hstored.userId

/-- **The list is the list of the blocked users.** -/
theorem Agrees.listBlockedUsers (h : Agrees W rows st) :
    ∃ entries, listBlockedUsers rows = .ok entries ∧
      (∀ u, (∃ e ∈ entries, field e "userId" = some (.str (W.uuid u))) ↔
        (answer (st.blocks u)).1 = true) ∧
      ∀ e ∈ entries, ∃ u, field e "userId" = some (.str (W.uuid u)) := by
  choose entry hentry hblocked hid using h.blockedEntry
  have hmap : (st.blockIndex.map W.uuid).mapM (BlockRows.blockedEntry rows) =
      .ok (st.blockIndex.map entry) := by
    have hok : ∀ u ∈ st.blockIndex, (fun u => BlockRows.blockedEntry rows (W.uuid u)) u =
        .ok (entry u) := fun u _ => hentry u
    rw [← mapM_ok hok, List.mapM_map]
    rfl
  have hmem : ∀ e, e ∈ (st.blockIndex.map entry).reduceOption.mergeSort
      (fun a b => blockedAt b ≤ blockedAt a) ↔ ∃ u ∈ st.blockIndex, entry u = some e := by
    intro e
    rw [List.mem_mergeSort, List.reduceOption_mem_iff, List.mem_map]
  have hlist : BlockRows.listBlockedUsers rows = .ok ((st.blockIndex.map entry).reduceOption.mergeSort
      fun a b => blockedAt b ≤ blockedAt a) := by
    simp only [BlockRows.listBlockedUsers, h.loadIndex, hmap, bind, Except.bind, pure, Except.pure]
  refine ⟨_, hlist, fun u => ?_, fun e he => ?_⟩
  · constructor
    · rintro ⟨e, he, huser⟩
      obtain ⟨v, -, hv⟩ := (hmem e).mp he
      obtain rfl : v = u := by
        have hsame := (hid v e hv).symm.trans huser
        injection hsame with hstr
        injection hstr with htext
        exact W.uuid_injective htext
      exact (hblocked v).mpr (by rw [hv]; rfl)
    · intro hu
      obtain ⟨e, he⟩ := Option.isSome_iff_exists.mp ((hblocked u).mp hu)
      refine ⟨e, (hmem e).mpr ⟨u, ?_, he⟩, hid u e he⟩
      refine (h.listed u).mpr ?_
      by_contra hnone
      rw [Option.not_isSome_iff_eq_none.mp hnone] at hu
      cases hu
  · obtain ⟨u, -, hu⟩ := (hmem e).mp he
    exact ⟨u, hid u e hu⟩

end BlockRows

end Deltapreneur.WinnerPayment

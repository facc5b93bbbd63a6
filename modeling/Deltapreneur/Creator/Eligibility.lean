import Deltapreneur.Creator.Onboarding
import Deltapreneur.Lib.Run

/-!
# Eligibility and its reasons

The calls of the onboarding service in any order, by any users and admins, with two logs beside
the tables: who declared a sufficient revenue, and who consumed an invitation of which application
that has not been revoked since.

A user has one state row, which stands for all of the user's reasons at once: a declaration
overwrites the channel and keeps the invitation, a consumption overwrites both. The revocation of an
onboarded application deletes the row by its invitation alone.

**`eligible_iff`**: eligibility is equal to its reasons throughout exactly the runs in which no
revocation deletes the row of a user with another reason.
-/

namespace Deltapreneur.Creator

open Run

/-! ## Runs -/

inductive Call
  | declare (user : UserId) (profile : Bool) (revenue : Option ℚ)
  | consume (token : Option Token) (user : UserId) (now : Instant)
  | submit (payload : Submission)
  | review (caller : Caller) (id : ApplicationId) (action : Action) (reason : Option String)
    (now : Instant)
  | revoke (caller : Caller) (id : ApplicationId) (discardActiveLink : Bool)
    (reason : Option String) (now : Instant)
  | reopen (caller : Caller) (id : ApplicationId) (now : Instant)
  | generate (caller : Caller) (id : ApplicationId) (token : Token) (now : Instant)

/-- The tables, and what happened. -/
structure World where
  db : Db
  /-- The users with a declaration that was recorded as `SELF_DECLARED`. -/
  declared : List UserId
  /-- The users who consumed an invitation of an application that has not been revoked since. -/
  invited : List (UserId × ApplicationId)

def World.empty : World := ⟨.empty, [], []⟩

/-- The world after a call that writes nothing but the tables. -/
def World.tables (w : World) : Except AppException Db → Option World
  | .ok db => some { w with db }
  | .error _ => none

/-- The world after a call; `none` where it raises. -/
def World.call (w : World) : Call → Option World
  | .declare user profile revenue =>
    match setDeclaredRevenue w.db profile user revenue with
    | .ok (.selfDeclared, db) => some { w with db, declared := user :: w.declared }
    | .ok (_, db) => some { w with db }
    | .error _ => none
  | .consume token user now =>
    match validateInvitationToken w.db token now, consumeInvitation w.db token user now with
    | .ok invitation, .ok db =>
      some { w with db, invited := (user, invitation.applicationId) :: w.invited }
    | _, _ => none
  | .submit payload => w.tables (submitApplication w.db payload)
  | .review caller id action reason now =>
    w.tables (reviewApplication w.db caller id action reason now)
  | .revoke caller id discard reason now =>
    match revokeApplication w.db caller id discard reason now with
    | .ok db => some { w with db, invited := w.invited.filter (·.2 ≠ id) }
    | .error _ => none
  | .reopen caller id now => w.tables (reopenApplication w.db caller id now)
  | .generate caller id token now => w.tables (generateInvitation w.db caller id token now)

def step (w : World) (call : Call) : World := (w.call call).getD w

/-- The user has a reason to be eligible. -/
def World.Reason (w : World) (user : UserId) : Prop :=
  user ∈ w.declared ∨ ∃ id, (user, id) ∈ w.invited

/-- Of the users without a live profile, those with a reason are eligible and no others. -/
def World.EqualsReasons (w : World) : Prop :=
  ∀ user, isUserEligible w.db false user = true ↔ w.Reason user

/-- A revocation of an onboarded application that deletes a row leaves its user without another
reason. -/
def NoOtherReason (w : World) : Call → Prop
  | .revoke caller id _ _ _ => caller.isAdmin = true →
      ∀ a, w.db.application id = some a → a.status = .onboarded →
        ∀ s, stateOfApplication w.db id = some s →
          s.appUserId ∉ w.declared ∧ ∀ other, (s.appUserId, other) ∈ w.invited → other = id
  | _ => True

/-! ## Calls that change nobody's eligibility -/

variable {db db' : Db} {w w' : World} {caller : Caller} {id : ApplicationId} {user : UserId}
  {now : Instant} {call : Call} {a : Application} {invitation : Invitation}

/-- The state rows are the same, and what onboarded applications and invitations say stays. -/
structure Quiet (db db' : Db) : Prop where
  states : db'.states = db.states
  invitationOf : ∀ i id, db.invitationOf i = some id → db'.invitationOf i = some id
  onboarded : ∀ id, db.status id = some .onboarded → db'.status id = some .onboarded

theorem Quiet.refl (db : Db) : Quiet db db := ⟨rfl, fun _ _ h => h, fun _ h => h⟩

theorem Quiet.trans {db₁ : Db} (h : Quiet db db₁) (h' : Quiet db₁ db') : Quiet db db' :=
  ⟨h'.states.trans h.states, fun i id hi => h'.invitationOf i id (h.invitationOf i id hi),
    fun id ho => h'.onboarded id (h.onboarded id ho)⟩

theorem quiet_writeApplication (ha : db.application id = some a) (hstatus : a.status ≠ .onboarded)
    {f : Application → Application} (hf : ∀ a, (f a).id = a.id) :
    Quiet db (db.writeApplication id f hf) := by
  refine ⟨rfl, fun _ _ h => h, fun other h => ?_⟩
  by_cases hid : other = id
  · rw [hid, Db.status, ha, Option.map_some, Option.some.injEq] at h
    exact absurd h hstatus
  · rwa [Db.status_writeApplication_ne hid]

theorem quiet_expire (db : Db) (id : ApplicationId) (now : Instant) :
    Quiet db (expireUnusedInvitations db id now) :=
  ⟨rfl, fun i _ h => (invitationOf_expire i).trans h, fun _ h => h⟩

theorem quiet_submit {payload : Submission} (h : submitApplication db payload = .ok db') :
    Quiet db db' := by
  unfold submitApplication at h
  simp only [ite_raise_eq_ok] at h
  obtain ⟨-, -, h⟩ := h
  split at h
  · simp at h
  · simp only [ite_raise_eq_ok, Except.ok.injEq] at h
    obtain ⟨-, rfl⟩ := h
    exact ⟨rfl, fun _ _ hi => hi, fun _ ht => Db.status_addApplication ht⟩

theorem quiet_review {action : Action} {reason : Option String}
    (h : reviewApplication db caller id action reason now = .ok db') : Quiet db db' := by
  obtain ⟨-, a, ha, hok⟩ := withApplication_ok.mp h
  rw [ite_raise_eq_ok] at hok
  obtain ⟨hstatus, hok⟩ := hok
  have hnot : a.status ≠ .onboarded := fun heq => hstatus (by simp [heq])
  cases action with
  | approve =>
    cases hok
    exact quiet_writeApplication ha hnot _
  | reject =>
    cases hok
    have ha' : (expireUnusedInvitations db id now).application id = some a := ha
    exact (quiet_expire db id now).trans (quiet_writeApplication ha' hnot _)
  | other => exact absurd hok raise_ne_ok

theorem quiet_reopen (h : reopenApplication db caller id now = .ok db') : Quiet db db' := by
  obtain ⟨-, a, ha, hok⟩ := withApplication_ok.mp h
  simp only [ite_raise_eq_ok, Except.ok.injEq, ne_eq, not_not] at hok
  obtain ⟨hstatus, rfl⟩ := hok
  exact quiet_writeApplication ha (by simp [hstatus]) _

theorem quiet_generate {token : Token} (h : generateInvitation db caller id token now = .ok db') :
    Quiet db db' := by
  obtain ⟨-, a, ha, hok⟩ := withApplication_ok.mp h
  cases hstatus : a.status with
  | approved =>
    simp only [hstatus, ite_raise_eq_ok, Except.ok.injEq] at hok
    obtain ⟨-, -, rfl⟩ := hok
    exact ⟨rfl, fun _ _ hi => Db.invitationOf_addInvitation hi, fun _ ht => ht⟩
  | pendingReview => simp [hstatus] at hok
  | rejected => simp [hstatus] at hok
  | onboarded => simp [hstatus] at hok

/-! ## What a call does -/

/-- A recorded declaration: the user's row, which keeps its invitation. -/
structure Declares (w : World) (user : UserId) (w' : World) : Prop where
  states : ∃ revenue, w'.db = w.db.saveState
    ⟨user, revenue, .selfDeclared, (w.db.state user).bind (·.invitationId)⟩
  declared : w'.declared = user :: w.declared
  invited : w'.invited = w.invited

/-- A consumption of an invitation of the approved application `id`. -/
structure Consumes (w : World) (user : UserId) (invitation : Invitation) (w' : World) : Prop where
  found : invitation ∈ w.db.invitations
  approved : w.db.status invitation.applicationId = some .approved
  db : ∃ now, w'.db = consumed w.db invitation user now
  declared : w'.declared = w.declared
  invited : w'.invited = (user, invitation.applicationId) :: w.invited

/-- A revocation of the application `a`. -/
structure Revokes (w : World) (a : Application) (w' : World) : Prop where
  found : w.db.application a.id = some a
  status : a.status = .approved ∨ a.status = .onboarded
  states : w'.db.states = (deleteStateOf w.db a).states
  invitationOf : ∀ i, w'.db.invitationOf i = w.db.invitationOf i
  others : ∀ other, other ≠ a.id → w'.db.status other = w.db.status other
  declared : w'.declared = w.declared
  invited : w'.invited = w.invited.filter (·.2 ≠ a.id)

theorem tables_eq_some {x : Except AppException Db} (h : w.tables x = some w') :
    x = .ok w'.db ∧ w'.declared = w.declared ∧ w'.invited = w.invited := by
  cases x with
  | ok db =>
    cases h
    exact ⟨rfl, rfl, rfl⟩
  | error e => cases h

/-- **What a call does** that does not raise. -/
theorem call_cases (h : w.call call = some w') :
    (Quiet w.db w'.db ∧ w'.declared = w.declared ∧ w'.invited = w.invited ∧
      ∀ caller id d r now, call ≠ .revoke caller id d r now) ∨
    (∃ user, Declares w user w' ∧ ∃ p r, call = .declare user p r) ∨
    (∃ user invitation, Consumes w user invitation w' ∧ ∃ t now, call = .consume t user now) ∨
    ∃ caller a d r now, Revokes w a w' ∧ caller.isAdmin = true ∧
      call = .revoke caller a.id d r now := by
  cases call with
  | declare user profile revenue =>
    unfold World.call setDeclaredRevenue at h
    cases revenue with
    | none => simp [raise] at h
    | some revenue =>
      by_cases hneg : revenue < 0
      · simp [hneg, raise] at h
      by_cases hprofile : profile = true
      · simp only [if_neg hneg, if_pos hprofile, Option.some.injEq] at h
        subst h
        exact .inl ⟨.refl w.db, rfl, rfl, by simp⟩
      by_cases hlow : revenue < REVENUE_THRESHOLD_INR
      · simp only [if_neg hneg, if_neg hprofile, if_pos hlow, Option.some.injEq] at h
        subst h
        exact .inl ⟨.refl w.db, rfl, rfl, by simp⟩
      · simp only [if_neg hneg, if_neg hprofile, if_neg hlow, Option.some.injEq] at h
        subst h
        exact .inr (.inl ⟨user, ⟨⟨revenue, rfl⟩, rfl, rfl⟩, profile, some revenue, rfl⟩)
  | consume token user now =>
    simp only [World.call] at h
    split at h
    · next invitation db' hvalid hconsume =>
      obtain ⟨invitation', hvalid', hdb⟩ := consume_ok hconsume
      cases hvalid.symm.trans hvalid'
      cases h
      refine .inr (.inr (.inl ⟨user, invitation, ?_, token, now, rfl⟩))
      exact ⟨validate_mem hvalid, (validate_ok.mp hvalid).2.2.2, ⟨now, hdb⟩, rfl, rfl⟩
    · cases h
  | submit payload =>
    obtain ⟨hdb, hdeclared, hinvited⟩ := tables_eq_some h
    exact .inl ⟨quiet_submit hdb, hdeclared, hinvited, by simp⟩
  | review caller id action reason now =>
    obtain ⟨hdb, hdeclared, hinvited⟩ := tables_eq_some h
    exact .inl ⟨quiet_review hdb, hdeclared, hinvited, by simp⟩
  | revoke caller id discard reason now =>
    simp only [World.call] at h
    split at h
    · next db' hdb =>
      obtain ⟨hadmin, a, ha, hstatus, hstates, hinv, -, hothers⟩ := revoke_ok hdb
      obtain rfl : a.id = id := (Table.lookup_eq_some ha).2
      cases h
      refine .inr (.inr (.inr ⟨caller, a, discard, reason, now, ?_, hadmin, rfl⟩))
      exact ⟨ha, hstatus, hstates, hinv, hothers, rfl, rfl⟩
    · cases h
  | reopen caller id now =>
    obtain ⟨hdb, hdeclared, hinvited⟩ := tables_eq_some h
    exact .inl ⟨quiet_reopen hdb, hdeclared, hinvited, by simp⟩
  | generate caller id token now =>
    obtain ⟨hdb, hdeclared, hinvited⟩ := tables_eq_some h
    exact .inl ⟨quiet_generate hdb, hdeclared, hinvited, by simp⟩

/-! ## The invariant -/

/-- As long as eligibility has been equal to its reasons, every state row that has an invitation is
the only sign of it: its user consumed it, and nobody else one of that application. -/
structure Tidy (w : World) : Prop where
  carried : ∀ s ∈ w.db.states, ∀ i, s.invitationId = some i →
    ∃ id, w.db.invitationOf i = some id ∧ (s.appUserId, id) ∈ w.invited
  held : ∀ user id, (user, id) ∈ w.invited →
    (∃ s ∈ w.db.states, s.appUserId = user ∧ s.invitationId ≠ none) ∧
      w.db.status id = some .onboarded
  single : ∀ user user' id, (user, id) ∈ w.invited → (user', id) ∈ w.invited → user = user'

theorem tidy_empty : Tidy .empty := ⟨nofun, nofun, nofun⟩

theorem equalsReasons_iff : w.EqualsReasons ↔
    ∀ user, (∃ s ∈ w.db.states, s.appUserId = user) ↔ w.Reason user := by
  unfold World.EqualsReasons isUserEligible
  simp only [Bool.false_or, Db.state_isSome]

theorem equalsReasons_empty : World.empty.EqualsReasons := by
  refine equalsReasons_iff.mpr fun user => iff_of_false ?_ ?_
  · rintro ⟨s, hs, -⟩
    cases hs
  · rintro (h | ⟨id, h⟩)
    · cases h
    · cases h

/-! ### Quiet calls and declarations -/

theorem Quiet.tidy (h : Quiet w.db w'.db) (hi : w'.invited = w.invited) (ht : Tidy w) :
    Tidy w' := by
  refine ⟨fun s hs i hsi => ?_, fun user id hu => ?_, fun user user' id hu hu' => ?_⟩
  · rw [h.states] at hs
    obtain ⟨id, hid, hmem⟩ := ht.carried s hs i hsi
    exact ⟨id, h.invitationOf i id hid, hi ▸ hmem⟩
  · obtain ⟨hrow, hstatus⟩ := ht.held user id (hi ▸ hu)
    exact ⟨h.states ▸ hrow, h.onboarded id hstatus⟩
  · exact ht.single user user' id (hi ▸ hu) (hi ▸ hu')

theorem Quiet.equalsReasons (h : Quiet w.db w'.db) (hd : w'.declared = w.declared)
    (hi : w'.invited = w.invited) (he : w.EqualsReasons) : w'.EqualsReasons := by
  rw [equalsReasons_iff] at he ⊢
  intro user
  rw [h.states, he user, World.Reason, World.Reason, hd, hi]

theorem Declares.tidy (h : Declares w user w') (ht : Tidy w) : Tidy w' := by
  obtain ⟨revenue, hdb⟩ := h.states
  have hrow : ∀ s, s ∈ w'.db.states ↔
      s = ⟨user, revenue, .selfDeclared, (w.db.state user).bind (·.invitationId)⟩ ∨
        s ∈ w.db.states ∧ s.appUserId ≠ user := by
    intro s
    rw [hdb, Db.mem_saveState]
  refine ⟨fun s hs i hsi => ?_, fun v id hv => ?_, fun v v' id hv hv' => ?_⟩
  · rw [h.invited, hdb]
    rcases (hrow s).mp hs with rfl | ⟨hs, -⟩
    · -- The row keeps the invitation that it had.
      obtain ⟨old, hold, hinv⟩ := Option.bind_eq_some_iff.mp hsi
      obtain ⟨hmem, huser⟩ := Db.mem_of_state hold
      obtain ⟨id, hid, hin⟩ := ht.carried old hmem i hinv
      exact ⟨id, hid, huser ▸ hin⟩
    · exact ht.carried s hs i hsi
  · rw [h.invited] at hv
    obtain ⟨⟨s, hs, hsv, hinv⟩, hstatus⟩ := ht.held v id hv
    refine ⟨?_, by rwa [hdb]⟩
    by_cases hvu : v = user
    · refine ⟨_, (hrow _).mpr (.inl rfl), hvu.symm, ?_⟩
      have hold : w.db.state user = some s := by
        rw [← hvu, ← hsv]
        exact Db.state_of_mem hs
      rwa [hold, Option.bind_some]
    · exact ⟨s, (hrow s).mpr (.inr ⟨hs, hsv ▸ hvu⟩), hsv, hinv⟩
  · rw [h.invited] at hv hv'
    exact ht.single v v' id hv hv'

theorem Declares.equalsReasons (h : Declares w user w') (he : w.EqualsReasons) :
    w'.EqualsReasons := by
  obtain ⟨revenue, hdb⟩ := h.states
  rw [equalsReasons_iff] at he ⊢
  intro v
  rw [hdb, Db.row_saveState, he v, World.Reason, World.Reason, h.declared, h.invited,
    List.mem_cons, or_assoc]

/-! ### Consumptions -/

theorem not_invited (ht : Tidy w) (h : w.db.status id = some .approved) (v : UserId) :
    (v, id) ∉ w.invited := by
  intro hv
  rw [(ht.held v id hv).2] at h
  cases h

theorem Consumes.tidy (h : Consumes w user invitation w') (ht : Tidy w) : Tidy w' := by
  obtain ⟨now, hdb⟩ := h.db
  have hnew := not_invited ht h.approved
  refine ⟨fun s hs i hsi => ?_, fun v id hv => ?_, fun v v' id hv hv' => ?_⟩
  · rw [h.invited, hdb, invitationOf_consumed]
    rw [hdb] at hs
    rcases mem_states_consumed.mp hs with rfl | ⟨hs, -⟩
    · cases hsi
      exact ⟨invitation.applicationId, Db.invitationOf_of_mem h.found, List.mem_cons_self⟩
    · obtain ⟨id, hid, hin⟩ := ht.carried s hs i hsi
      exact ⟨id, hid, List.mem_cons_of_mem _ hin⟩
  · rw [hdb]
    rw [h.invited, List.mem_cons, Prod.mk.injEq] at hv
    have hself : invitedState w.db invitation user ∈ (consumed w.db invitation user now).states :=
      mem_states_consumed.mpr (.inl rfl)
    have hsome : (invitedState w.db invitation user).invitationId ≠ none := Option.some_ne_none _
    rcases hv with ⟨rfl, rfl⟩ | hv
    · exact ⟨⟨_, hself, rfl, hsome⟩, status_consumed_self h.approved⟩
    · obtain ⟨⟨s, hs, hsv, hinv⟩, hstatus⟩ := ht.held v id hv
      have hne : id ≠ invitation.applicationId := fun heq => hnew v (heq ▸ hv)
      refine ⟨?_, (status_consumed_ne hne).trans hstatus⟩
      by_cases hvu : v = user
      · exact ⟨_, hself, hvu.symm, hsome⟩
      · exact ⟨s, mem_states_consumed.mpr (.inr ⟨hs, hsv ▸ hvu⟩), hsv, hinv⟩
  · rw [h.invited, List.mem_cons, Prod.mk.injEq] at hv hv'
    rcases hv with ⟨rfl, rfl⟩ | hv
    · rcases hv' with ⟨rfl, -⟩ | hv'
      · rfl
      · exact absurd hv' (hnew v')
    · rcases hv' with ⟨rfl, rfl⟩ | hv'
      · exact absurd hv (hnew v)
      · exact ht.single v v' id hv hv'

theorem Consumes.equalsReasons (h : Consumes w user invitation w') (he : w.EqualsReasons) :
    w'.EqualsReasons := by
  obtain ⟨now, hdb⟩ := h.db
  rw [equalsReasons_iff] at he ⊢
  intro v
  have hrow : (∃ s ∈ w'.db.states, s.appUserId = v) ↔
      v = user ∨ ∃ s ∈ w.db.states, s.appUserId = v := by
    rw [hdb]
    exact Db.row_saveState
  rw [hrow, he v, World.Reason, World.Reason, h.declared, h.invited]
  simp only [List.mem_cons, Prod.mk.injEq, exists_or, exists_and_left, exists_eq, and_true]
  tauto

/-! ### Revocations -/

/-- A revocation that deletes no row takes away no eligibility, and nobody loses the last reason:
the users of the application go on with a later invitation. -/
theorem Revokes.keeps (h : Revokes w a w') (ht : Tidy w) (hstates : w'.db.states = w.db.states)
    (hnone : ∀ s ∈ w.db.states, ∀ i, s.invitationId = some i → w.db.invitationOf i ≠ some a.id)
    (he : w.EqualsReasons) : Tidy w' ∧ w'.EqualsReasons := by
  have hin : ∀ v id, (v, id) ∈ w'.invited ↔ (v, id) ∈ w.invited ∧ id ≠ a.id := by
    intro v id
    rw [h.invited, List.mem_filter]
    simp
  have hcarried : ∀ s ∈ w.db.states, ∀ i, s.invitationId = some i →
      ∃ id, w.db.invitationOf i = some id ∧ (s.appUserId, id) ∈ w'.invited := by
    intro s hs i hsi
    obtain ⟨id, hid, hmem⟩ := ht.carried s hs i hsi
    exact ⟨id, hid, (hin _ _).mpr ⟨hmem, fun heq => hnone s hs i hsi (heq ▸ hid)⟩⟩
  refine ⟨⟨fun s hs i hsi => ?_, fun v id hv => ?_, fun v v' id hv hv' => ?_⟩, ?_⟩
  · rw [h.invitationOf]
    exact hcarried s (hstates ▸ hs) i hsi
  · obtain ⟨hv, hne⟩ := (hin v id).mp hv
    obtain ⟨hrow, hstatus⟩ := ht.held v id hv
    exact ⟨hstates ▸ hrow, (h.others id hne).trans hstatus⟩
  · exact ht.single v v' id ((hin v id).mp hv).1 ((hin v' id).mp hv').1
  · rw [equalsReasons_iff] at he ⊢
    intro v
    rw [hstates, he v, World.Reason, World.Reason, h.declared]
    refine or_congr_right ⟨?_, ?_⟩
    · rintro ⟨id, hv⟩
      obtain ⟨⟨s, hs, rfl, hinv⟩, -⟩ := ht.held v id hv
      obtain ⟨i, hi⟩ := Option.ne_none_iff_exists'.mp hinv
      obtain ⟨id', -, hmem⟩ := hcarried s hs i hi
      exact ⟨id', hmem⟩
    · rintro ⟨id, hv⟩
      exact ⟨id, ((hin v id).mp hv).1⟩

/-- A revocation that deletes the row of `s` is right exactly if that user has no other reason. -/
theorem Revokes.deletes (h : Revokes w a w') (ht : Tidy w) {s : OnboardingState}
    (hs : stateOfApplication w.db a.id = some s) (hstates : ∀ r, r ∈ w'.db.states ↔
      r ∈ w.db.states ∧ r.appUserId ≠ s.appUserId) (he : w.EqualsReasons) :
    (w'.EqualsReasons → Tidy w') ∧ (w'.EqualsReasons ↔
      s.appUserId ∉ w.declared ∧ ∀ other, (s.appUserId, other) ∈ w.invited → other = a.id) := by
  have hin : ∀ v id, (v, id) ∈ w'.invited ↔ (v, id) ∈ w.invited ∧ id ≠ a.id := by
    intro v id
    rw [h.invited, List.mem_filter]
    simp
  obtain ⟨hsmem, i, hsi, hi⟩ := stateOfApplication_some hs
  -- The row's user is the one who consumed an invitation of the application.
  have howner : (s.appUserId, a.id) ∈ w.invited := by
    obtain ⟨id, hid, hmem⟩ := ht.carried s hsmem i hsi
    cases hi.symm.trans hid
    exact hmem
  have hexact : w'.EqualsReasons ↔
      s.appUserId ∉ w.declared ∧ ∀ other, (s.appUserId, other) ∈ w.invited → other = a.id := by
    rw [equalsReasons_iff] at he ⊢
    constructor
    · intro h'
      have hnone : ¬ w'.Reason s.appUserId := by
        rw [← h' s.appUserId]
        rintro ⟨r, hr, heq⟩
        exact ((hstates r).mp hr).2 heq
      refine ⟨fun hd => hnone (.inl (h.declared ▸ hd)), fun other ho => ?_⟩
      by_contra hne
      exact hnone (.inr ⟨other, (hin _ _).mpr ⟨ho, hne⟩⟩)
    · rintro ⟨hd, hother⟩ v
      by_cases hv : v = s.appUserId
      · refine iff_of_false ?_ ?_
        · rintro ⟨r, hr, heq⟩
          exact ((hstates r).mp hr).2 (heq.trans hv)
        · rintro (hdv | ⟨id, hid⟩)
          · exact hd (h.declared ▸ hv ▸ hdv)
          · obtain ⟨hid, hne⟩ := (hin v id).mp hid
            exact hne (hother id (hv ▸ hid))
      · have hrow : (∃ r ∈ w'.db.states, r.appUserId = v) ↔
            ∃ r ∈ w.db.states, r.appUserId = v := by
          refine exists_congr fun r => ?_
          rw [hstates r]
          constructor
          · rintro ⟨⟨hr, -⟩, heq⟩
            exact ⟨hr, heq⟩
          · rintro ⟨hr, heq⟩
            exact ⟨⟨hr, heq ▸ hv⟩, heq⟩
        rw [hrow, he v, World.Reason, World.Reason, h.declared]
        refine or_congr_right (exists_congr fun id => ?_)
        rw [hin]
        refine ⟨fun hv' => ⟨hv', ?_⟩, And.left⟩
        rintro rfl
        exact hv (ht.single _ _ _ hv' howner)
  refine ⟨fun h' => ?_, hexact⟩
  obtain ⟨-, hother⟩ := hexact.mp h'
  refine ⟨fun r hr j hrj => ?_, fun v id hv => ?_, fun v v' id hv hv' => ?_⟩
  · obtain ⟨hr, hne⟩ := (hstates r).mp hr
    obtain ⟨id, hid, hmem⟩ := ht.carried r hr j hrj
    refine ⟨id, (h.invitationOf j).trans hid, (hin _ _).mpr ⟨hmem, ?_⟩⟩
    rintro rfl
    exact hne (ht.single _ _ _ hmem howner)
  · obtain ⟨hv, hne⟩ := (hin v id).mp hv
    obtain ⟨⟨r, hr, rfl, hinv⟩, hstatus⟩ := ht.held v id hv
    have hru : r.appUserId ≠ s.appUserId := fun heq => hne (hother id (heq ▸ hv))
    exact ⟨⟨r, (hstates r).mpr ⟨hr, hru⟩, rfl, hinv⟩, (h.others id hne).trans hstatus⟩
  · exact ht.single v v' id ((hin v id).mp hv).1 ((hin v' id).mp hv').1

/-- **A revocation** keeps eligibility equal to its reasons exactly if it leaves the user whose row it
deletes without another reason. -/
theorem Revokes.step (h : Revokes w a w') (ht : Tidy w) (he : w.EqualsReasons) :
    (w'.EqualsReasons → Tidy w') ∧ (w'.EqualsReasons ↔
      (a.status = .onboarded → ∀ s, stateOfApplication w.db a.id = some s →
        s.appUserId ∉ w.declared ∧ ∀ other, (s.appUserId, other) ∈ w.invited → other = a.id)) := by
  have hstates := h.states
  unfold deleteStateOf at hstates
  by_cases honboarded : a.status = .onboarded
  · rw [if_pos honboarded] at hstates
    cases hrow : stateOfApplication w.db a.id with
    | none =>
      rw [hrow] at hstates
      obtain ⟨ht', he'⟩ := h.keeps ht hstates
        (fun s hs i hsi => stateOfApplication_none hrow hs hsi) he
      exact ⟨fun _ => ht', iff_of_true he' (fun _ => nofun)⟩
    | some s =>
      rw [hrow] at hstates
      have hmem : ∀ r, r ∈ w'.db.states ↔ r ∈ w.db.states ∧ r.appUserId ≠ s.appUserId := by
        intro r
        rw [hstates, Db.mem_deleteState]
      obtain ⟨ht', hexact⟩ := h.deletes ht hrow hmem he
      refine ⟨ht', hexact.trans ⟨?_, fun hall => hall honboarded s rfl⟩⟩
      rintro hs - s' ⟨⟩
      exact hs
  · rw [if_neg honboarded] at hstates
    -- The application of an invitation that is carried is onboarded.
    have hnone : ∀ s ∈ w.db.states, ∀ i, s.invitationId = some i →
        w.db.invitationOf i ≠ some a.id := by
      intro s hs i hsi hi
      obtain ⟨id, hid, hmem⟩ := ht.carried s hs i hsi
      cases hi.symm.trans hid
      have hstatus := (ht.held _ _ hmem).2
      rw [Db.status, h.found, Option.map_some] at hstatus
      exact honboarded (Option.some.inj hstatus)
    obtain ⟨ht', he'⟩ := h.keeps ht hstates hnone he
    exact ⟨fun _ => ht', iff_of_true he' (fun hon => absurd hon honboarded)⟩

/-! ## The exact condition -/

theorem noOtherReason_of_raise (h : w.call call = none) : NoOtherReason w call := by
  cases call with
  | revoke caller id discard reason now =>
    intro hadmin a ha hstatus
    have hok : ∃ db, revokeApplication w.db caller id discard reason now = .ok db := by
      simp [revokeApplication, withApplication, hadmin, ha, hstatus]
    obtain ⟨db, hdb⟩ := hok
    simp [World.call, hdb] at h
  | _ => trivial

/-- **One call.** -/
theorem equalsReasons_step (call : Call) (ht : Tidy w) (he : w.EqualsReasons) :
    ((step w call).EqualsReasons → Tidy (step w call)) ∧
      ((step w call).EqualsReasons ↔ NoOtherReason w call) := by
  unfold step
  cases hcall : w.call call with
  | none => exact ⟨fun _ => ht, iff_of_true he (noOtherReason_of_raise hcall)⟩
  | some w' =>
    rw [Option.getD_some]
    obtain ⟨hquiet, hd, hi, hno⟩ | ⟨user, hdeclares, p, r, rfl⟩ |
      ⟨user, invitation, hconsumes, t, now, rfl⟩ | ⟨caller, a, d, r, now, hrevokes, hadmin, rfl⟩ :=
      call_cases hcall
    · have hnot : NoOtherReason w call := by
        cases call with
        | revoke caller id d r now => exact absurd rfl (hno caller id d r now)
        | _ => trivial
      exact ⟨fun _ => hquiet.tidy hi ht, iff_of_true (hquiet.equalsReasons hd hi he) hnot⟩
    · exact ⟨fun _ => hdeclares.tidy ht, iff_of_true (hdeclares.equalsReasons he) trivial⟩
    · exact ⟨fun _ => hconsumes.tidy ht, iff_of_true (hconsumes.equalsReasons he) trivial⟩
    · obtain ⟨ht', hexact⟩ := hrevokes.step ht he
      refine ⟨ht', hexact.trans ⟨fun hall _ a' ha' => ?_, fun hall => ?_⟩⟩
      · cases hrevokes.found.symm.trans ha'
        exact hall
      · exact hall hadmin a hrevokes.found

/-- **Eligibility equals its reasons** throughout exactly the runs in which no revocation deletes
the row of a user with another reason. -/
theorem eligible_iff (calls : List Call) :
    (∀ pre, pre <+: calls → (exec step .empty pre).EqualsReasons) ↔
      Meets step NoOtherReason .empty calls := by
  refine throughout_iff (I := fun w => w.EqualsReasons → Tidy w) (fun w call hI hP => ?_)
    (fun _ => tidy_empty) equalsReasons_empty
  exact equalsReasons_step call (hI hP) hP

/-- An applicant who consumed an invitation and then declared a sufficient revenue loses the
declared eligibility with the revocation of the application. -/
theorem declared_eligibility_revoked :
    ¬ ∀ calls : List Call, ∀ pre, pre <+: calls → (exec step .empty pre).EqualsReasons := by
  intro h
  let admin : Caller := ⟨9, true⟩
  let calls : List Call :=
    [.submit ⟨"A", "a@b", some 100⟩, .review admin 0 .approve none 1, .generate admin 0 77 2,
      .consume (some 77) 5 3, .declare 5 false (some 4000000), .revoke admin 0 true none 4]
  have hreason : (exec step .empty calls).Reason 5 := .inl (by decide +kernel)
  have hlost : isUserEligible (exec step .empty calls).db false 5 = false := by decide +kernel
  rw [(h calls calls (List.prefix_refl _) 5).mpr hreason] at hlost
  cases hlost

end Deltapreneur.Creator

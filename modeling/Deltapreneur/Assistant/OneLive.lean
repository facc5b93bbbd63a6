import Deltapreneur.Assistant.Applications

/-!
# One live application for an applicant and a role

Whether two applications of one email for one role are ever both pending or approved, and whether
the derived columns agree with the roles, in every run of any number of sessions.

The check for an existing application and the insert are two transactions, and no constraint stands
behind them. A decision can bring a rejected application back to life. The derived columns are
computed from what a session has read.

* `Settled`: no session has changed the roles of the application and is still to recompute its
  columns. Between the two commits of an operation the columns lag behind.
* `Held`: no two live applications of one email and role, and the columns of every settled
  application are those of its roles.
* `Timely`: what the step of a session needs. An insert still finds no live application; a
  recomputation revives none beside another, and what it read is up to date, unless a recomputation
  by another session is still to come.

Results:

* `held_throughout_iff`: `Held` holds throughout exactly the runs of timely steps.
* `rejected_revived`: a recomputation revives an application beside another.
-/

namespace Deltapreneur.Assistant

open UnitOfWork (flushColumn_eq_iff)

variable {ι : Type} {loaded : Application} {phase : Phase}

/-! ## What holds -/

/-- The application whose columns the session is still to recompute. -/
def Phase.owes : Phase → Option Nat
  | .decided app _ | .refreshed app _ _ | .created app => some app
  | .opened cause loaded | .rated cause loaded _ | .ready cause loaded _ _ =>
    match cause with
    | .status _ => none
    | _ => some loaded.id
  | _ => none

def Settled (w : World ι) (app : Nat) : Prop := ∀ i, (w.session i).owes ≠ some app

namespace Application

/-- The columns are those of the roles. -/
def Derived (a : Application) : Prop :=
  a.overallStatus = overallStatusOf a.statuses ∧
    (a.workspaceLocked = true ↔ ∀ s ∈ a.statuses, s ≠ .approved)

end Application

structure Held (w : World ι) : Prop where
  single : ∀ a ∈ w.apps, ∀ b ∈ w.apps, a.email = b.email → a.roles = b.roles → a.Live → b.Live →
    a = b
  derived : ∀ a ∈ w.apps, a.isDeleted = false → Settled w a.id → a.Derived

/-! ## What a step needs -/

/-- What a session has read still gives what the roles of the row give now. A column that the
session does not send stays as it is. -/
def UpToDate (loaded : Application) (first second : List RoleStatus) (a : Application) : Prop :=
  (if overallStatusOf first = loaded.overallStatus
    then a.overallStatus = overallStatusOf a.statuses
    else overallStatusOf first = overallStatusOf a.statuses) ∧
  if workspaceLockedOf second = loaded.workspaceLocked
    then a.workspaceLocked = workspaceLockedOf a.statuses
    else workspaceLockedOf second = workspaceLockedOf a.statuses

/-- The application that a recomputation of the session `i` is committed for. -/
structure Recomputable (w : World ι) (i : ι) (cause : Cause) (loaded : Application)
    (first second : List RoleStatus) (a : Application) : Prop where
  /-- It is not brought back to life beside another one. -/
  alone : ¬ a.Live → (flush cause loaded first second a).Live →
    ∀ b ∈ w.apps, ¬ b.LiveFor a.email a.roles
  /-- What was read is up to date, unless somebody else is still to recompute. -/
  fresh : a.isDeleted = false → (∀ j, j ≠ i → (w.session j).owes ≠ some a.id) →
    UpToDate loaded first second a

def Timely (w : World ι) (l : ι × Act) : Prop :=
  match w.session l.1, l.2 with
  | .passed d, .next => ∀ a ∈ w.apps, ¬ a.LiveFor d.email d.roleName
  | .ready cause loaded first second, .next =>
    ∀ a ∈ w.apps, a.id = loaded.id → Recomputable w l.1 cause loaded first second a
  | _, _ => True

/-! ## What a step can do -/

/-- Ids are unique and counted up, and a role that was decided is there as long as its
application. -/
structure Sound (w : World ι) : Prop where
  nodup : (w.apps.map Application.id).Nodup
  below : ∀ a ∈ w.apps, a.id < w.nextId
  owes_below : ∀ i app, (w.session i).owes = some app → app < w.nextId
  decided : ∀ i app role, w.session i = .decided app role → ∀ a ∈ w.apps, a.id = app →
    role ∈ a.applicationRoles.map ApplicationRole.id

section Find

variable {w : World ι} {app role : Nat}

theorem owes_of_opened {cause : Cause} {a : Application}
    (h : (Phase.opened cause loaded).owes = some a.id) : a.id = loaded.id := by
  cases cause with
  | status new => cases h
  | created => exact (Option.some.inj h).symm
  | decided role held => exact (Option.some.inj h).symm

theorem find_spec {a : Application} (h : w.find app = some a) : a ∈ w.apps ∧ a.id = app :=
  Table.lookup_eq_some h

theorem find_none (h : w.find app = none) : ∀ a ∈ w.apps, a.id ≠ app := Table.lookup_eq_none.mp h

theorem findRole_spec (hs : Sound w) {r : ApplicationRole} (h : w.findRole app role = some r) :
    (∀ a ∈ w.apps, a.id = app → role ∈ a.applicationRoles.map ApplicationRole.id) ∧
      app < w.nextId := by
  obtain ⟨a, hfind, hlookup⟩ := Option.bind_eq_some_iff.mp h
  obtain ⟨ha, rfl⟩ := find_spec hfind
  obtain ⟨hr, rfl⟩ := Table.lookup_eq_some hlookup
  refine ⟨fun b hb hid => ?_, hs.below a ha⟩
  obtain rfl := List.inj_on_of_nodup_map hs.nodup hb ha hid
  exact List.mem_map_of_mem hr

theorem findRole_none {a : Application} (h : w.findRole app role = none) (hs : Sound w)
    (ha : a ∈ w.apps) (hid : a.id = app) :
    role ∉ a.applicationRoles.map ApplicationRole.id := by
  subst hid
  have hfind : w.find a.id = some a := Table.lookup_of_mem hs.nodup ha
  rw [World.findRole, hfind, Option.bind_some, Table.lookup_eq_none] at h
  rintro hmem
  obtain ⟨r, hr, heq⟩ := List.mem_map.mp hmem
  exact h r hr heq

end Find

variable [DecidableEq ι]

/-- The worlds a step can lead to. -/
inductive Moves (w : World ι) (l : ι × Act) : World ι → Prop
  /-- Only the session goes on. -/
  | quiet (phase : Phase) (htimely : Timely w l)
      (howes : phase.owes = (w.session l.1).owes ∨ phase.owes = none ∧
        ∀ a ∈ w.apps, a.isDeleted = false → (w.session l.1).owes ≠ some a.id)
      (hdecided : ∀ app role, phase = .decided app role → w.session l.1 = phase) :
      Moves w l { w with session := Function.update w.session l.1 phase }
  | insert (d : Draft) (hphase : w.session l.1 = .passed d) (hact : l.2 = .next) :
      Moves w l ⟨w.apps ++ [d.row w.nextId], w.nextId + 1, Function.update w.session l.1
        (if d.publish.isSome then .created w.nextId else .idle)⟩
  | decide (app role : Nat) (loaded new : RoleStatus) (htimely : Timely w l)
      (hphase : w.session l.1 = .deciding app role loaded new)
      (hrole : ∀ a ∈ w.apps, a.id = app → role ∈ a.applicationRoles.map ApplicationRole.id)
      (happ : app < w.nextId) :
      Moves w l { w with
        apps := Table.update Application.id app (decideRole role loaded new) w.apps
        session := Function.update w.session l.1 (.decided app role) }
  | recompute (cause : Cause) (loaded : Application) (first second : List RoleStatus)
      (hphase : w.session l.1 = .ready cause loaded first second) (hact : l.2 = .next) :
      Moves w l { w with
        apps := Table.update Application.id loaded.id (flush cause loaded first second) w.apps
        session := Function.update w.session l.1 .idle }
  | delete (app : Nat) (htimely : Timely w l) (hphase : w.session l.1 = .idle) :
      Moves w l { w with
        apps := w.apps.filter fun a => a.id ≠ app ∨ a.isDeleted = true
        session := Function.update w.session l.1 .idle }

section Steps

variable {isSpace : Char → Bool} {lower : Text → Text} {w : World ι} {i : ι} {act : Act}

/-! The session goes on, or its operation ends. -/

theorem go_moves (hphase : w.session i = phase) (phase' : Phase) (htimely : Timely w (i, act))
    (howes : phase'.owes = phase.owes)
    (hdecided : ∀ app role, phase' = .decided app role → phase = phase') :
    Moves w (i, act) { w with session := Function.update w.session i phase' } := by
  subst hphase
  exact .quiet phase' htimely (.inl howes) hdecided

theorem stay_moves (hphase : w.session i = phase) (htimely : Timely w (i, act)) :
    Moves w (i, act) { w with session := Function.update w.session i phase } :=
  go_moves hphase phase htimely rfl fun _ _ _ => rfl

theorem gone_moves (hphase : w.session i = phase) (htimely : Timely w (i, act))
    (hgone : ∀ a ∈ w.apps, a.isDeleted = false → phase.owes ≠ some a.id) :
    Moves w (i, act) { w with session := Function.update w.session i .idle } := by
  subst hphase
  exact .quiet .idle htimely (.inr ⟨rfl, hgone⟩) (by simp)

theorem start_moves (hphase : w.session i = .idle) :
    Moves w (i, act) (step isSpace lower w (i, act)) := by
  have htimely (act : Act) : Timely w (i, act) := by simp [Timely, hphase]
  cases act with
  | submit email roles =>
    simp only [step, hphase, start]
    cases submitApplication isSpace lower w.apps email (roleList isSpace roles) with
    | ok d => exact go_moves hphase (.passed d) (htimely _) rfl (by simp)
    | error e => exact stay_moves hphase (htimely _)
  | create form =>
    simp only [step, hphase, start]
    cases createApplication isSpace lower w.apps form with
    | ok d => exact go_moves hphase (.passed d) (htimely _) rfl (by simp)
    | error e => exact stay_moves hphase (htimely _)
  | updateRoleStatus app role new =>
    simp only [step, hphase, start]
    cases w.findRole app role with
    | some r => exact go_moves hphase (.deciding app role r.status new) (htimely _) rfl (by simp)
    | none => exact stay_moves hphase (htimely _)
  | updateStatus app new =>
    simp only [step, hphase, start]
    cases w.find app with
    | some a =>
      cases hdeleted : a.isDeleted with
      | true => simpa [hdeleted] using stay_moves hphase (htimely _)
      | false =>
        simpa [hdeleted] using go_moves hphase (.opened (.status new) a) (htimely _) rfl (by simp)
    | none => exact stay_moves hphase (htimely _)
  | delete app =>
    simp only [step, hphase, start]
    exact .delete app (htimely _) hphase
  | abandon | next =>
    simp only [step, hphase, start]
    exact stay_moves hphase (htimely _)

theorem advance_moves (hs : Sound w) (hne : w.session i ≠ .idle) :
    Moves w (i, .next) (step isSpace lower w (i, .next)) := by
  cases hphase : w.session i with
  | idle => exact absurd hphase hne
  | passed d =>
    simp only [step, hphase, advance]
    exact .insert d hphase rfl
  | deciding app role loaded new =>
    simp only [step, hphase, advance]
    cases hfind : w.findRole app role with
    | some r =>
      obtain ⟨hrole, happ⟩ := findRole_spec hs hfind
      exact .decide app role loaded new (by simp [Timely, hphase]) hphase hrole happ
    | none => exact go_moves hphase .idle (by simp [Timely, hphase]) rfl (by simp)
  | decided app role =>
    simp only [step, hphase, advance]
    cases hfind : w.findRole app role with
    | some r =>
      exact go_moves hphase (.refreshed app role r.status) (by simp [Timely, hphase]) rfl (by simp)
    | none =>
      refine gone_moves hphase (by simp [Timely, hphase]) fun a ha _ howes => ?_
      have hid : a.id = app := (Option.some.inj howes).symm
      exact findRole_none hfind hs ha hid (hs.decided i app role hphase a ha hid)
  | refreshed app role held =>
    simp only [step, hphase, advance]
    cases hfind : w.find app with
    | some a =>
      obtain ⟨ha, rfl⟩ := find_spec hfind
      cases hdeleted : a.isDeleted with
      | true =>
        simp only [hdeleted, Bool.false_eq_true, if_true, if_false]
        refine gone_moves hphase (by simp [Timely, hphase]) fun b hb hlive howes => ?_
        have hid : b.id = a.id := (Option.some.inj howes).symm
        obtain rfl := List.inj_on_of_nodup_map hs.nodup hb ha hid
        rw [hdeleted] at hlive
        cases hlive
      | false =>
        simp only [hdeleted, Bool.false_eq_true, if_false]
        exact go_moves hphase (.opened (.decided role held) a) (by simp [Timely, hphase]) rfl
          (by simp)
    | none =>
      refine gone_moves hphase (by simp [Timely, hphase]) fun a ha _ howes => ?_
      exact find_none hfind a ha (Option.some.inj howes).symm
  | created app =>
    simp only [step, hphase, advance]
    cases hfind : w.find app with
    | some a =>
      obtain ⟨-, rfl⟩ := find_spec hfind
      exact go_moves hphase (.opened .created a) (by simp [Timely, hphase]) rfl (by simp)
    | none =>
      refine gone_moves hphase (by simp [Timely, hphase]) fun a ha _ howes => ?_
      exact find_none hfind a ha (Option.some.inj howes).symm
  | opened cause loaded =>
    simp only [step, hphase, advance]
    cases hfind : w.find loaded.id with
    | some a =>
      exact go_moves hphase (.rated cause loaded (cause.sees a.applicationRoles))
        (by simp [Timely, hphase]) rfl (by simp)
    | none =>
      refine gone_moves hphase (by simp [Timely, hphase]) fun a ha _ howes => ?_
      exact find_none hfind a ha (owes_of_opened howes)
  | rated cause loaded first =>
    simp only [step, hphase, advance]
    cases hfind : w.find loaded.id with
    | some a =>
      exact go_moves hphase (.ready cause loaded first (cause.sees a.applicationRoles))
        (by simp [Timely, hphase]) rfl (by simp)
    | none =>
      refine gone_moves hphase (by simp [Timely, hphase]) fun a ha _ howes => ?_
      exact find_none hfind a ha (owes_of_opened howes)
  | ready cause loaded first second =>
    simp only [step, hphase, advance]
    exact .recompute cause loaded first second hphase rfl

/-- **What a step can do.** -/
theorem step_moves (hs : Sound w) (l : ι × Act) : Moves w l (step isSpace lower w l) := by
  obtain ⟨i, act⟩ := l
  by_cases hidle : w.session i = .idle
  · exact start_moves hidle
  · by_cases hnext : act = .next
    · subst hnext
      exact advance_moves hs hidle
    · have htimely : Timely w (i, act) := by
        cases hphase : w.session i <;> cases act <;> simp [Timely, hphase] at hnext ⊢
      cases hphase : w.session i with
      | idle => exact absurd hphase hidle
      | passed d =>
        cases act with
        | next => exact absurd rfl hnext
        | abandon =>
          simp only [step, hphase]
          exact go_moves hphase .idle htimely rfl (by simp)
        | _ =>
          simp only [step, hphase]
          exact stay_moves hphase htimely
      | _ =>
        cases act with
        | next => exact absurd rfl hnext
        | _ =>
          simp only [step, hphase]
          exact stay_moves hphase htimely

end Steps

/-! ## The rows after a step -/

section Rows

variable {w w' : World ι} {app role : Nat} {a b : Application} {f : Application → Application}
  {l : ι × Act} {first second : List RoleStatus}

omit [DecidableEq ι] in
theorem mem_update (h : a ∈ Table.update Application.id app f w.apps) :
    ∃ b ∈ w.apps, a = if b.id = app then f b else b := by
  obtain ⟨b, hb, rfl⟩ := List.mem_map.mp h
  exact ⟨b, hb, rfl⟩

omit [DecidableEq ι] in
theorem update_mem (f : Application → Application) (ha : a ∈ w.apps) :
    (if a.id = app then f a else a) ∈ Table.update Application.id app f w.apps :=
  List.mem_map_of_mem ha

theorem roles_decideRole (loaded new : RoleStatus) :
    (decideRole role loaded new a).applicationRoles.map ApplicationRole.id =
      a.applicationRoles.map ApplicationRole.id :=
  Table.map_key_update (f := .decide loaded new) (fun _ => rfl) a.applicationRoles

omit [DecidableEq ι] in
/-- What an update of one row keeps of every row. -/
theorem sound_update (hs : Sound w) {session : ι → Phase} (hid : ∀ a, (f a).id = a.id)
    (hroles : ∀ a, (f a).applicationRoles.map ApplicationRole.id =
      a.applicationRoles.map ApplicationRole.id)
    (howes : ∀ i app, (session i).owes = some app → app < w.nextId)
    (hdecided : ∀ i app role, session i = .decided app role → ∀ a ∈ w.apps, a.id = app →
      role ∈ a.applicationRoles.map ApplicationRole.id) :
    Sound { w with apps := Table.update Application.id app f w.apps, session := session } := by
  refine ⟨?_, fun a ha => ?_, howes, fun i app' role h a ha hida => ?_⟩
  · rw [Table.map_key_update hid]
    exact hs.nodup
  · obtain ⟨b, hb, rfl⟩ := mem_update ha
    split_ifs
    · exact (hid b).symm ▸ hs.below b hb
    · exact hs.below b hb
  · obtain ⟨b, hb, rfl⟩ := mem_update ha
    split_ifs at hida ⊢ with heq
    · rw [hroles]
      exact hdecided i app' role h b hb ((hid b).symm.trans hida)
    · exact hdecided i app' role h b hb hida

theorem session_cases {i j : ι} (P : Phase → Prop) (h : P (Function.update w.session i phase j)) :
    j = i ∧ P phase ∨ j ≠ i ∧ P (w.session j) := by
  by_cases hj : j = i
  · subst hj
    rw [Function.update_self] at h
    exact .inl ⟨rfl, h⟩
  · rw [Function.update_of_ne hj] at h
    exact .inr ⟨hj, h⟩

/-- A step keeps the ids in order. -/
theorem sound_moves (hs : Sound w) (h : Moves w l w') : Sound w' := by
  have howes {phase : Phase} {n : Nat} (hn : w.nextId ≤ n)
      (hphase : ∀ app, phase.owes = some app → app < n) (i : ι) (app : Nat)
      (h : (Function.update w.session l.1 phase i).owes = some app) : app < n := by
    obtain ⟨-, h⟩ | ⟨-, h⟩ := session_cases (fun p => p.owes = some app) h
    · exact hphase app h
    · exact (hs.owes_below i app h).trans_le hn
  have hdecided {phase : Phase} (hphase : ∀ app role, phase = .decided app role →
      ∀ a ∈ w.apps, a.id = app → role ∈ a.applicationRoles.map ApplicationRole.id)
      (i : ι) (app role : Nat)
      (h : Function.update w.session l.1 phase i = .decided app role) : ∀ a ∈ w.apps, a.id = app →
      role ∈ a.applicationRoles.map ApplicationRole.id := by
    obtain ⟨-, h⟩ | ⟨-, h⟩ := session_cases (· = .decided app role) h
    · exact hphase app role h
    · exact hs.decided i app role h
  cases h with
  | quiet phase _ hphase hsame =>
    refine ⟨hs.nodup, hs.below, howes le_rfl fun app h => ?_, hdecided fun app role h => ?_⟩
    · obtain heq | ⟨hnone, -⟩ := hphase
      · exact hs.owes_below l.1 app (heq ▸ h)
      · rw [hnone] at h
        cases h
    · exact hs.decided l.1 app role ((hsame app role h).trans h)
  | insert d hphase hact =>
    have hphase' : (if d.publish.isSome then Phase.created w.nextId else .idle).owes =
        if d.publish.isSome then some w.nextId else none := by
      split_ifs <;> rfl
    refine ⟨?_, fun a ha => ?_, howes (Nat.le_succ _) fun app h => ?_,
      fun i app role h a ha hid => ?_⟩
    · rw [List.map_append, List.nodup_append]
      refine ⟨hs.nodup, List.nodup_singleton _, fun id hid id' hid' => ?_⟩
      obtain ⟨a, ha, rfl⟩ := List.mem_map.mp hid
      rw [List.mem_singleton.mp hid']
      exact (hs.below a ha).ne
    · rcases List.mem_append.mp ha with ha | ha
      · exact (hs.below a ha).trans (Nat.lt_succ_self _)
      · rw [List.mem_singleton.mp ha]
        exact Nat.lt_succ_self _
    · rw [hphase'] at h
      split_ifs at h
      exact Option.some.inj h ▸ Nat.lt_succ_self _
    · have hold : w.session i = .decided app role := by
        obtain ⟨-, h⟩ | ⟨-, h⟩ := session_cases (· = .decided app role) h
        · split_ifs at h
        · exact h
      rcases List.mem_append.mp ha with ha | ha
      · exact hs.decided i app role hold a ha hid
      · have hlt := hs.owes_below i app (by rw [hold]; rfl)
        rw [List.mem_singleton.mp ha] at hid
        exact absurd hid.symm hlt.ne
  | decide app role loaded new _ hphase hrole happ =>
    refine sound_update hs (fun _ => rfl) (fun _ => roles_decideRole loaded new)
      (howes le_rfl fun app' h => Option.some.inj h ▸ happ) (hdecided fun app' role' h => ?_)
    obtain ⟨rfl, rfl⟩ := Phase.decided.inj h
    exact hrole
  | recompute cause loaded first second hphase hact =>
    exact sound_update hs (fun _ => rfl) (fun _ => rfl) (howes le_rfl fun _ h => nomatch h)
      (hdecided fun _ _ h => nomatch h)
  | delete app _ hphase =>
    have hsub : ∀ a ∈ w.apps.filter fun a => a.id ≠ app ∨ a.isDeleted = true, a ∈ w.apps :=
      fun a ha => (List.mem_filter.mp ha).1
    refine ⟨hs.nodup.sublist (List.filter_sublist.map _), fun a ha => hs.below a (hsub a ha),
      howes le_rfl (fun _ h => nomatch h), fun i app' role h a ha hid => ?_⟩
    exact hdecided (fun app role h => by cases h) i app' role h a (hsub a ha) hid

/-! ## What a step keeps -/

omit [DecidableEq ι] in
theorem Held.of_rows (hw : Held w) (happs : ∀ a ∈ w'.apps, a ∈ w.apps)
    (hsettled : ∀ a ∈ w'.apps, a.isDeleted = false → Settled w' a.id → Settled w a.id) :
    Held w' where
  single a ha b hb := hw.single a (happs a ha) b (happs b hb)
  derived a ha hdel hset := hw.derived a (happs a ha) hdel (hsettled a ha hdel hset)

theorem settled_update {i : ι} {apps : List Application} {n : Nat} :
    Settled ⟨apps, n, Function.update w.session i phase⟩ app ↔
      phase.owes ≠ some app ∧ ∀ j, j ≠ i → (w.session j).owes ≠ some app := by
  constructor
  · intro h
    refine ⟨by simpa using h i, fun j hj => ?_⟩
    simpa [hj] using h j
  · rintro ⟨hi, hother⟩ j
    by_cases hj : j = i
    · simpa [hj] using hi
    · simpa [hj] using hother j hj

omit [DecidableEq ι] in
theorem settled_of_others {i : ι} (hi : (w.session i).owes ≠ some app)
    (hother : ∀ j, j ≠ i → (w.session j).owes ≠ some app) : Settled w app := fun j => by
  by_cases hj : j = i
  · exact hj ▸ hi
  · exact hother j hj

omit [DecidableEq ι] in
theorem inj_id (hs : Sound w) (ha : a ∈ w.apps) (hb : b ∈ w.apps) (hid : a.id = b.id) : a = b :=
  List.inj_on_of_nodup_map hs.nodup ha hb hid

theorem held_quiet (hw : Held w) (howes : phase.owes = (w.session l.1).owes ∨ phase.owes = none ∧
      ∀ a ∈ w.apps, a.isDeleted = false → (w.session l.1).owes ≠ some a.id) :
    Held { w with session := Function.update w.session l.1 phase } := by
  refine hw.of_rows (fun a ha => ha) fun a ha hdel hset => ?_
  obtain ⟨hi, hother⟩ := settled_update.mp hset
  refine settled_of_others ?_ hother
  obtain heq | ⟨-, hgone⟩ := howes
  · exact heq ▸ hi
  · exact hgone a ha hdel

omit [DecidableEq ι] in
theorem row_live (d : Draft) (id : Nat) : (d.row id).Live := by
  unfold Draft.row
  by_cases hpublish : d.publish = some true
  · exact ⟨rfl, .inr (if_pos hpublish)⟩
  · exact ⟨rfl, .inl (if_neg hpublish)⟩

/-- An insert keeps the applications single exactly if it still finds no live one. -/
theorem held_insert (hs : Sound w) (hw : Held w) {d : Draft} (hphase : w.session l.1 = .passed d) :
    Held ⟨w.apps ++ [d.row w.nextId], w.nextId + 1, Function.update w.session l.1
        (if d.publish.isSome then .created w.nextId else .idle)⟩ ↔
      ∀ a ∈ w.apps, ¬ a.LiveFor d.email d.roleName := by
  constructor
  · rintro hnew a ha ⟨hemail, hrole, hlive⟩
    have heq := hnew.single a (List.mem_append_left _ ha) (d.row w.nextId) (by simp) hemail hrole
      hlive (row_live d _)
    exact (hs.below a ha).ne (congrArg Application.id heq)
  · intro hnone
    refine ⟨fun a ha b hb hemail hrole hlive hlive' => ?_, fun a ha hdel hset => ?_⟩
    · rcases List.mem_append.mp ha with ha | ha <;> rcases List.mem_append.mp hb with hb | hb
      · exact hw.single a ha b hb hemail hrole hlive hlive'
      · obtain rfl := List.mem_singleton.mp hb
        exact absurd ⟨hemail, hrole, hlive⟩ (hnone a ha)
      · obtain rfl := List.mem_singleton.mp ha
        exact absurd ⟨hemail.symm, hrole.symm, hlive'⟩ (hnone b hb)
      · rw [List.mem_singleton.mp ha, List.mem_singleton.mp hb]
    · obtain ⟨hi, hother⟩ := settled_update.mp hset
      rcases List.mem_append.mp ha with ha | ha
      · refine hw.derived a ha hdel (settled_of_others ?_ hother)
        rw [hphase]
        exact fun h => nomatch h
      · obtain rfl := List.mem_singleton.mp ha
        -- A created application is settled by its own session.
        cases hpublish : d.publish with
        | some publish =>
          rw [hpublish] at hi
          exact absurd rfl hi
        | none => simp [Draft.row, hpublish, Application.Derived, Application.statuses,
            overallStatusOf]

theorem held_decide {loaded new : RoleStatus} (hw : Held w)
    (hphase : w.session l.1 = .deciding app role loaded new) :
    Held { w with
      apps := Table.update Application.id app (decideRole role loaded new) w.apps
      session := Function.update w.session l.1 (.decided app role) } := by
  -- A decision touches neither the status nor the lock.
  have hkeep : ∀ b : Application, (if b.id = app then decideRole role loaded new b else b).Live →
      b.Live := by
    intro b h
    split_ifs at h <;> exact h
  refine ⟨fun a' ha' b' hb' hemail hrole hlive hlive' => ?_, fun a' ha' hdel hset => ?_⟩
  · obtain ⟨a, ha, rfl⟩ := mem_update ha'
    obtain ⟨b, hb, rfl⟩ := mem_update hb'
    obtain rfl : a = b := by
      refine hw.single a ha b hb ?_ ?_ (hkeep a hlive) (hkeep b hlive')
      · split_ifs at hemail <;> exact hemail
      · split_ifs at hrole <;> exact hrole
    rfl
  · obtain ⟨a, ha, rfl⟩ := mem_update ha'
    obtain ⟨hi, hother⟩ := settled_update.mp hset
    by_cases hid : a.id = app
    · rw [if_pos hid] at hi
      exact absurd (congrArg some hid.symm) hi
    · rw [if_neg hid] at hdel hother ⊢
      refine hw.derived a ha hdel (settled_of_others ?_ hother)
      rw [hphase]
      exact fun h => nomatch h

theorem locked_iff {locked : Bool} {statuses : List RoleStatus} :
    (locked = true ↔ ∀ s ∈ statuses, s ≠ .approved) ↔ locked = workspaceLockedOf statuses := by
  have hnone : (∀ s ∈ statuses, s ≠ .approved) ↔ workspaceLockedOf statuses = true := by
    simp only [workspaceLockedOf, decide_eq_true_eq]
    exact ⟨fun h hmem => h _ hmem rfl, fun h s hs heq => h (heq ▸ hs)⟩
  rw [hnone]
  exact Bool.eq_iff_iff.symm

theorem derived_flush_iff (cause : Cause) :
    (flush cause loaded first second a).Derived ↔ UpToDate loaded first second a := by
  unfold Application.Derived UpToDate
  rw [locked_iff]
  exact and_congr flushColumn_eq_iff flushColumn_eq_iff

/-- **A recomputation.** -/
theorem held_recompute {cause : Cause} (hs : Sound w) (hw : Held w)
    (hphase : w.session l.1 = .ready cause loaded first second) :
    Held { w with
        apps := Table.update Application.id loaded.id (flush cause loaded first second) w.apps
        session := Function.update w.session l.1 .idle } ↔
      ∀ a ∈ w.apps, a.id = loaded.id → Recomputable w l.1 cause loaded first second a := by
  have hmem {b : Application} (hb : b ∈ w.apps) :
      (if b.id = loaded.id then flush cause loaded first second b else b) ∈
        Table.update Application.id loaded.id (flush cause loaded first second) w.apps :=
    update_mem _ hb
  constructor
  · rintro hnew a ha hid
    have ha' := hmem ha
    rw [if_pos hid] at ha'
    refine ⟨fun hdead hlive b hb hfor => ?_, fun hdel hother =>
      (derived_flush_iff cause).mp ?_⟩
    · -- The other live application has another id.
      have hne : b.id ≠ loaded.id := fun h =>
        hdead (inj_id hs hb ha (h.trans hid.symm) ▸ hfor.2.2)
      have hb' := hmem hb
      rw [if_neg hne] at hb'
      have heq := hnew.single b hb' _ ha' hfor.1 hfor.2.1 hfor.2.2 hlive
      exact hne ((congrArg Application.id heq).trans hid)
    · exact hnew.derived _ ha' hdel (settled_update.mpr ⟨by simp [Phase.owes], hother⟩)
  · intro hall
    -- An application that is live afterwards was live, or is alone.
    have hbefore {a b : Application} (ha : a ∈ w.apps) (hb : b ∈ w.apps) (hid : a.id = loaded.id)
        (hne : b.id ≠ loaded.id) (hfor : b.LiveFor a.email a.roles)
        (hlive : (flush cause loaded first second a).Live) : False := by
      by_cases hdead : a.Live
      · have heq := hw.single a ha b hb hfor.1.symm hfor.2.1.symm hdead hfor.2.2
        exact hne (heq ▸ hid)
      · exact (hall a ha hid).alone hdead hlive b hb hfor
    refine ⟨fun a' ha' b' hb' hemail hrole hlive hlive' => ?_, fun a' ha' hdel hset => ?_⟩
    · obtain ⟨a, ha, rfl⟩ := mem_update ha'
      obtain ⟨b, hb, rfl⟩ := mem_update hb'
      by_cases hida : a.id = loaded.id <;> by_cases hidb : b.id = loaded.id
      · rw [inj_id hs ha hb (hida.trans hidb.symm)]
      · rw [if_pos hida, if_neg hidb] at hemail hrole
        rw [if_pos hida] at hlive
        rw [if_neg hidb] at hlive'
        exact (hbefore ha hb hida hidb ⟨hemail.symm, hrole.symm, hlive'⟩ hlive).elim
      · rw [if_neg hida, if_pos hidb] at hemail hrole
        rw [if_neg hida] at hlive
        rw [if_pos hidb] at hlive'
        exact (hbefore hb ha hidb hida ⟨hemail, hrole, hlive⟩ hlive').elim
      · rw [if_neg hida, if_neg hidb] at hemail hrole ⊢
        rw [if_neg hida] at hlive
        rw [if_neg hidb] at hlive'
        exact hw.single a ha b hb hemail hrole hlive hlive'
    · obtain ⟨a, ha, rfl⟩ := mem_update ha'
      obtain ⟨-, hother⟩ := settled_update.mp hset
      by_cases hid : a.id = loaded.id
      · rw [if_pos hid] at hdel hother ⊢
        exact (derived_flush_iff cause).mpr ((hall a ha hid).fresh hdel hother)
      · rw [if_neg hid] at hdel hother ⊢
        refine hw.derived a ha hdel (settled_of_others (fun howes => ?_) hother)
        rw [hphase] at howes
        exact hid (owes_of_opened howes)

/-- **A step.** -/
theorem held_moves (hs : Sound w) (hw : Held w) (h : Moves w l w') : Held w' ↔ Timely w l := by
  cases h with
  | quiet phase htimely howes _ => exact iff_of_true (held_quiet hw howes) htimely
  | insert d hphase hact =>
    rw [held_insert hs hw hphase]
    simp [Timely, hphase, hact]
  | decide app role loaded new htimely hphase _ _ =>
    exact iff_of_true (held_decide hw hphase) htimely
  | recompute cause loaded first second hphase hact =>
    rw [held_recompute hs hw hphase]
    simp [Timely, hphase, hact]
  | delete app htimely hphase =>
    refine iff_of_true (hw.of_rows (fun a ha => (List.mem_filter.mp ha).1) fun a ha hdel hset => ?_)
      htimely
    refine settled_of_others ?_ (settled_update.mp hset).2
    rw [hphase]
    exact fun h => nomatch h

end Rows

/-! ## A check and its insert -/

/-- **Every run.** No two live applications of one email and role, and derived columns that agree
with the roles, throughout exactly the runs of timely steps. -/
theorem held_throughout_iff (isSpace : Char → Bool) (lower : Text → Text) {w : World ι}
    (hs : Sound w) (hw : Held w) (run : List (ι × Act)) :
    (∀ pre, pre <+: run → Held (Run.exec (step isSpace lower) w pre)) ↔
      Run.Meets (step isSpace lower) Timely w run :=
  Run.throughout_iff (fun _ l hs hw => ⟨sound_moves hs (step_moves hs l),
    held_moves hs hw (step_moves hs l)⟩) hs hw

/-! ## A check with nothing in between -/

section Checked

variable {isSpace : Char → Bool} {lower : Text → Text} {w : World ι} {roles : Text}
  {role : Text × Text} {act : Act} {d : Draft}

/-- The role that is inserted is the one that is looked for. -/
theorem oneRole_roleList (h : oneRole isSpace (roleList isSpace roles) = .ok role) :
    role.1 = role.2 := by
  rcases hlist : roleList isSpace roles with _ | ⟨r, _ | ⟨r', rs⟩⟩ <;> rw [hlist] at h
  · cases h
  · have hmem : r ∈ roleList isSpace roles := by simp [hlist]
    obtain ⟨t, -, rfl⟩ := List.mem_map.mp (List.mem_filter.mp hmem).1
    simp only [oneRole, normalizeVaRoleName, strip, Trim.strip_strip] at h
    split_ifs at h
    all_goals cases h
    rfl
  · cases h

theorem not_liveFor_of_find {apps : List Application} {email : Text}
    (hrole : oneRole isSpace (roleList isSpace roles) = .ok role)
    (hnone : apps.find? (Application.LiveFor email role.2 ·) = none) :
    ∀ a ∈ apps, ¬ a.LiveFor email role.1 := by
  intro a ha
  rw [oneRole_roleList hrole]
  simpa using List.find?_eq_none.mp hnone a ha

omit [DecidableEq ι] in
/-- **A check with nothing between it and its insert is timely.** -/
theorem start_passed (h : (start isSpace lower w act).2 = .passed d) :
    ∀ a ∈ (start isSpace lower w act).1, ¬ a.LiveFor d.email d.roleName := by
  cases act with
  | submit email roles =>
    cases hcheck : submitApplication isSpace lower w.apps email (roleList isSpace roles) with
    | error e => simp [start, hcheck] at h
    | ok draft =>
      simp only [start, hcheck] at h ⊢
      obtain rfl := Phase.passed.inj h
      cases hrole : oneRole isSpace (roleList isSpace roles) with
      | error e => simp [submitApplication, hrole, Except.bind] at hcheck
      | ok role =>
        simp only [submitApplication, hrole, Except.bind] at hcheck
        split at hcheck
        · exact absurd hcheck raise_ne_ok
        next hnone =>
          cases hcheck
          exact not_liveFor_of_find hrole hnone
  | create form =>
    cases hcheck : createApplication isSpace lower w.apps form with
    | error e => simp [start, hcheck] at h
    | ok draft =>
      simp only [start, hcheck] at h ⊢
      obtain rfl := Phase.passed.inj h
      cases hrole : oneRole isSpace (roleList isSpace form.roles) with
      | error e => simp [createApplication, hrole, Except.bind, ite_raise_eq_ok] at hcheck
      | ok role =>
        simp only [createApplication, hrole, Except.bind, ite_raise_eq_ok] at hcheck
        obtain ⟨-, -, -, -, -, -, -, -, -, -, -, -, hcheck⟩ := hcheck
        split at hcheck
        · exact absurd hcheck raise_ne_ok
        next hnone =>
          cases hcheck
          exact not_liveFor_of_find hrole hnone
  | updateRoleStatus app role new =>
    simp only [start] at h
    split at h <;> cases h
  | updateStatus app new =>
    simp only [start] at h
    split at h
    · split_ifs at h
    · cases h
  | delete | abandon | next => cases h

end Checked

/-! ## Runs of one session -/

def isBlank (c : Char) : Bool := c = ' '

def toLower (t : Text) : Text := t.map Char.toLower

/-- No applications, and nobody at work. -/
def World.empty (ι : Type) : World ι := ⟨[], 0, fun _ => .idle⟩

omit [DecidableEq ι] in
theorem sound_empty : Sound (World.empty ι) :=
  ⟨List.nodup_nil, (fun _ h => nomatch h), (fun _ _ h => nomatch h), fun _ _ _ h => nomatch h⟩

omit [DecidableEq ι] in
theorem held_empty : Held (World.empty ι) := ⟨(fun _ h => nomatch h), fun _ h => nomatch h⟩

def submission : List (Unit × Act) :=
  [((), .submit "Jo@site.test".toList " Writer ".toList), ((), .next)]

/-- Two sessions, each between the statements of the other; the second Writer is refused. -/
def submissions : List (Bool × Act) :=
  [(false, .submit "Jo@site.test".toList " Writer ".toList),
    (true, .submit "Jo@site.test".toList "Editor".toList), (false, .next), (true, .next),
    (false, .submit "jo@site.test".toList "Writer".toList), (false, .next)]

theorem held_throughout_submission :
    (Run.exec (step isBlank toLower) (World.empty Bool) submissions).apps.length = 2 ∧
      ((∀ pre, pre <+: submissions →
          Held (Run.exec (step isBlank toLower) (World.empty Bool) pre)) ↔
        Run.Meets (step isBlank toLower) Timely (World.empty Bool) submissions) :=
  ⟨by decide +kernel, held_throughout_iff isBlank toLower sound_empty held_empty submissions⟩

/-- The statements of a decision on the role 0 of the application 0. -/
def decision (new : RoleStatus) : List (Unit × Act) :=
  ((), .updateRoleStatus 0 0 new) :: List.replicate 6 ((), .next)

omit [DecidableEq ι] in
theorem Held.not_two {w : World ι} (h : Held w) : ¬ ∃ a ∈ w.apps, ∃ b ∈ w.apps,
    a.email = b.email ∧ a.roles = b.roles ∧ a.Live ∧ b.Live ∧ a ≠ b := by
  rintro ⟨a, ha, b, hb, hemail, hrole, hlive, hlive', hne⟩
  exact hne (h.single a ha b hb hemail hrole hlive hlive')

/-- The applicant submits again after a rejection, and the rejection is taken back. -/
theorem rejected_revived :
    Held (World.empty Unit) ∧ ¬ Held (Run.exec (step isBlank toLower) (World.empty Unit)
      (submission ++ decision .rejected ++ submission ++ decision .approved)) := by
  exact ⟨held_empty, fun h => h.not_two (by decide +kernel)⟩

end Deltapreneur.Assistant

import Deltapreneur.Lib.Run
import Deltapreneur.Lib.Serial
import Deltapreneur.Registration.InvoiceNumber

/-!
# Tax invoice numbers over concurrent sessions

Model of `ensure_tax_invoice_number`, `admin_set_tax_invoice_number`
(`app/service/domain/tax_invoice_number_service.py:52-226`) and of the first numbering
(`alembic/versions/2026_08_06_1615-taxinv001_domain_tax_invoice_numbers.py`), run by any number
of sessions at once.

* `Ledger` is what the numbers depend on: the column `tax_invoice_number` of the orders and the
  table `domain_tax_invoice_counters`. Both are written by a holder of the advisory lock only, so
  the uncommitted writes of the holder form a second ledger, which its commit makes the committed
  one.
* A session keeps the order it has loaded as an object (`copies`). The lock does not reload it.
* The other attributes of the object are whatever the session's code has made of them; they come
  with the call. So does the status of the order that `admin_set_tax_invoice_number` finds.
* `ensure_tax_invoice_number` is taken together with the flush that follows it at every caller.
* Nothing here relies on the unique index of the column: no write would ever hit it.

Results:

* `tax_invoice_numbers`: in every run numbers are unique, and no call of
  `ensure_tax_invoice_number` changes a number, if and only if every call that allocates finds
  none in the row.
* `numbers_unique`: two orders never have one number, whatever the calls find.
* `stale_copy_renumbers`: otherwise an order with a number gets another one.
* `issued_numbers_read_back`: the numbers that successive allocations issue read back if and only
  if no year outgrows the five digits.
-/

namespace Deltapreneur.Registration

open Serial

abbrev RegistrationId := Nat
abbrev SessionId := Nat

/-! ## The row and the ledger -/

/-- `RegistrationOrderStatus` (`app/utils/registration_enums.py`). -/
inductive RegistrationOrderStatus
  | created | paymentCompleted | registrationPending | active | paymentFailed | expired | failed
  | provisionFailed | refunded
  deriving Repr, DecidableEq

/-- The attributes of `DomainRegistrationOrder` that the service reads. A time stamp is kept as
its year (UTC). -/
structure Order where
  status : RegistrationOrderStatus
  completedAt : Option Year
  createdAt : Option Year
  taxInvoiceNumber : Option Invoice
  deriving DecidableEq

/-- `_invoice_year_for_order`. -/
def invoiceYearForOrder (order : Order) (now : Year) : Year :=
  (order.completedAt <|> order.createdAt).getD now

/-- A number the code takes for one: the empty string counts as none. -/
def Order.existing (order : Order) : Option Invoice := order.taxInvoiceNumber.filter (· ≠ [])

/-- The orders that have a number, and the counters' rows. -/
structure Ledger where
  holders : List (RegistrationId × Invoice)
  counters : Year → Option Nat

/-- The column `tax_invoice_number` of an order. -/
def Ledger.numberOf (l : Ledger) (id : RegistrationId) : Option Invoice :=
  (l.holders.find? fun r => r.1 = id).map (·.2)

def Ledger.setNumber (l : Ledger) (id : RegistrationId) (number : Invoice) : Ledger :=
  { l with holders := (id, number) :: l.holders.filter fun r => r.1 ≠ id }

/-- The counter of a year; a missing row is inserted with 0. -/
def Ledger.lastSeq (l : Ledger) (year : Year) : Nat := (l.counters year).getD 0

def Ledger.setCounter (l : Ledger) (year : Year) (lastSeq : Nat) : Ledger :=
  { l with counters := Function.update l.counters year (some lastSeq) }

/-- Give the order the next number of the year. -/
def Ledger.allocate (l : Ledger) (id : RegistrationId) (year : Year) : Invoice × Ledger :=
  let next := l.lastSeq year + 1
  let number := formatTaxInvoiceNumber year next
  (number, (l.setCounter year next).setNumber id number)

/-! ## The service -/

/-- `ensure_tax_invoice_number` on the session's object, with the ledger as the holder of the
lock sees it. -/
def ensureTaxInvoiceNumber (order : Order) (now : Year) (id : RegistrationId) (l : Ledger) :
    Option Invoice × Ledger :=
  if order.status ≠ .active then (none, l)
  else match order.existing with
    | some number => (some number, l)
    | none =>
      let (number, l') := l.allocate id (invoiceYearForOrder order now)
      (some number, l')

/-- The call needs the lock: the object is of an active order without a number. -/
def Order.needsNumber (order : Order) : Prop :=
  order.status = .active ∧ order.existing = none

instance (order : Order) : Decidable order.needsNumber := inferInstanceAs (Decidable (_ ∧ _))

/-- What `admin_set_tax_invoice_number` returns. -/
structure SetNumber where
  invoiceNumber : Invoice
  previous : Option Invoice
  unchanged : Bool
  deriving Repr, DecidableEq

/-- `admin_set_tax_invoice_number` after it has parsed the number and taken the lock. -/
def adminSetTaxInvoiceNumber (t : CharTables) (order : Option Order) (id : RegistrationId)
    (year : Year) (seq : Nat) (l : Ledger) : Except AppException (SetNumber × Ledger) :=
  let number := formatTaxInvoiceNumber year seq
  match order with
  | none => raise "Domain registration order not found." 404
  | some order =>
    let existingSame := t.stripUpper (order.taxInvoiceNumber.getD [])
    if order.status ≠ .active then
      raise "Invoice numbers can only be set on ACTIVE (successfully registered) orders." 400
    else if existingSame = number then .ok (⟨number, none, true⟩, l)
    else if l.holders.any fun r => r.2 = number ∧ r.1 ≠ id then
      raise ("Invoice number " ++ String.ofList number ++ " is already used by another order.") 409
    else
      .ok (⟨number, (some existingSame).filter (· ≠ []), false⟩,
        (l.setCounter year (max (l.lastSeq year) seq)).setNumber id number)

/-- The first numbering: `rows` are the active orders in the query's order, with the year of
their stamp. -/
def Ledger.upgrade (rows : List (RegistrationId × Year)) : Ledger :=
  rows.foldl (fun l r => (l.allocate r.1 r.2).2) ⟨[], fun _ => none⟩

/-! ## A ledger shows a book -/

/-- The texts and counters of the ledger are those of the book. -/
structure Ledger.Shows (l : Ledger) (b : Book RegistrationId Year) : Prop where
  numbers : ∀ id, l.numberOf id = (b.held id).map fun a => formatTaxInvoiceNumber a.1 a.2
  counters : ∀ year, l.lastSeq year = b.last year

/-- The ledger shows a sound book. -/
def Ledger.Sound (l : Ledger) : Prop := ∃ b, b.Sound ∧ l.Shows b

/-- No two orders hold the same number. -/
def Ledger.Unique (l : Ledger) : Prop :=
  ∀ i j number, l.numberOf i = some number → l.numberOf j = some number → i = j

variable {l : Ledger} {b : Book RegistrationId Year} {id id' : RegistrationId} {year now : Year}
  {seq : Nat} {number : Invoice} {t : CharTables} {order : Option Order} {res : SetNumber × Ledger}

@[simp] theorem numberOf_setNumber_self : (l.setNumber id number).numberOf id = some number := by
  simp [Ledger.setNumber, Ledger.numberOf]

@[simp] theorem numberOf_setNumber_ne (h : id' ≠ id) :
    (l.setNumber id number).numberOf id' = l.numberOf id' := by
  unfold Ledger.setNumber Ledger.numberOf
  rw [List.find?_cons_of_neg (by simpa using h.symm), List.find?_filter]
  congr 2
  funext r
  by_cases hr : r.1 = id'
  · simp [hr, h]
  · simp [hr]

@[simp] theorem numberOf_setCounter {last : Nat} :
    (l.setCounter year last).numberOf = l.numberOf := rfl

@[simp] theorem lastSeq_setNumber : (l.setNumber id number).lastSeq = l.lastSeq := rfl

theorem lastSeq_setCounter {last : Nat} :
    (l.setCounter year last).lastSeq = Function.update l.lastSeq year last := by
  funext y
  unfold Ledger.lastSeq Ledger.setCounter
  by_cases h : y = year
  · subst h
    simp
  · simp [Function.update_of_ne h]

theorem Ledger.Sound.unique (h : l.Sound) : l.Unique := by
  obtain ⟨b, hb, hl⟩ := h
  intro i j number hi hj
  rw [hl.numbers] at hi hj
  obtain ⟨a, ha, rfl⟩ := Option.map_eq_some_iff.mp hi
  obtain ⟨a', ha', heq⟩ := Option.map_eq_some_iff.mp hj
  obtain ⟨hyear, hseq⟩ := format_injective heq
  obtain rfl : a' = a := Prod.ext hyear hseq
  exact hb.unique i j a' ha ha'

/-- A number set by hand is an assignment in the book. -/
theorem Ledger.Shows.assign (h : l.Shows b) (id : RegistrationId) (year : Year) (seq : Nat) :
    ((l.setCounter year (max (l.lastSeq year) seq)).setNumber id
      (formatTaxInvoiceNumber year seq)).Shows (b.assign id year seq) := by
  constructor
  · intro i
    by_cases hi : i = id
    · subst hi
      simp [Book.assign]
    · rw [numberOf_setNumber_ne hi, numberOf_setCounter, h.numbers]
      simp [Book.assign, Function.update_of_ne hi]
  · intro y
    rw [lastSeq_setNumber, lastSeq_setCounter]
    simp only [Book.assign]
    by_cases hy : y = year
    · subst hy
      simp [h.counters]
    · simp [Function.update_of_ne hy, h.counters]

theorem Ledger.Shows.allocate (h : l.Shows b) :
    (l.allocate id year).2.Shows (b.next id year) := by
  rw [Book.next_eq_assign, ← h.counters]
  have hmax : max (l.lastSeq year) (l.lastSeq year + 1) = l.lastSeq year + 1 := by omega
  have hassign := h.assign id year (l.lastSeq year + 1)
  rwa [hmax] at hassign

theorem Ledger.Sound.allocate (h : l.Sound) : (l.allocate id year).2.Sound := by
  obtain ⟨b, hb, hl⟩ := h
  exact ⟨b.next id year, hb.next id year, hl.allocate⟩

theorem Ledger.Sound.allocate_fresh (h : l.Sound) (j : RegistrationId) :
    l.numberOf j ≠ some (l.allocate id year).1 := by
  obtain ⟨b, hb, hl⟩ := h
  intro hj
  rw [hl.numbers] at hj
  obtain ⟨a, ha, heq⟩ := Option.map_eq_some_iff.mp hj
  obtain ⟨hyear, hseq⟩ := format_injective heq
  rw [hl.counters] at hseq
  have hnext : a = (year, b.last year + 1) := Prod.ext hyear hseq
  exact hb.next_fresh year j (hnext ▸ ha)

theorem upgrade_sound (rows : List (RegistrationId × Year)) : (Ledger.upgrade rows).Sound := by
  have hfold : ∀ (rows : List (RegistrationId × Year)) (l : Ledger), l.Sound →
      (rows.foldl (fun l r => (l.allocate r.1 r.2).2) l).Sound := by
    intro rows
    induction rows with
    | nil => exact fun l h => h
    | cons r rows ih => exact fun l h => ih _ h.allocate
  exact hfold rows _ ⟨.empty, .empty, fun _ => rfl, fun _ => rfl⟩

/-! ## What a call does to the ledger -/

theorem ensure_of_needsNumber {order : Order} (h : order.needsNumber) :
    ensureTaxInvoiceNumber order now id l =
      (some (l.allocate id (invoiceYearForOrder order now)).1,
        (l.allocate id (invoiceYearForOrder order now)).2) := by
  unfold ensureTaxInvoiceNumber
  rw [if_neg (not_not.mpr h.1), h.2]

@[simp] theorem allocate_numberOf_self :
    (l.allocate id year).2.numberOf id = some (l.allocate id year).1 :=
  numberOf_setNumber_self

theorem allocate_numberOf_ne (h : id' ≠ id) :
    (l.allocate id year).2.numberOf id' = l.numberOf id' := by
  unfold Ledger.allocate
  rw [numberOf_setNumber_ne h, numberOf_setCounter]

theorem mem_holders_of_numberOf {j : RegistrationId} (h : l.numberOf j = some number) :
    (j, number) ∈ l.holders := by
  obtain ⟨r, hr, rfl⟩ := Option.map_eq_some_iff.mp h
  have hj : r.1 = j := by simpa using List.find?_some hr
  rw [← hj]
  exact List.mem_of_find?_eq_some hr

/-- `admin_set_tax_invoice_number` leaves the ledger alone, or sets a number no other order
has. -/
theorem adminSet_cases (hok : adminSetTaxInvoiceNumber t order id year seq l = .ok res) :
    res.2 = l ∨
      ((∀ j, j ≠ id → l.numberOf j ≠ some (formatTaxInvoiceNumber year seq)) ∧
        res.2 = (l.setCounter year (max (l.lastSeq year) seq)).setNumber id
          (formatTaxInvoiceNumber year seq)) := by
  cases order with
  | none => exact absurd hok raise_ne_ok
  | some order =>
    simp only [adminSetTaxInvoiceNumber, ite_raise_eq_ok] at hok
    obtain ⟨-, hok⟩ := hok
    split_ifs at hok with hsame hconflict
    · cases hok
      exact .inl rfl
    · exact absurd hok raise_ne_ok
    · cases hok
      refine .inr ⟨fun j hj hnumber => hconflict ?_, rfl⟩
      exact List.any_eq_true.mpr ⟨_, mem_holders_of_numberOf hnumber, by simpa using hj⟩

/-- **`admin_set_tax_invoice_number` keeps the ledger sound.** -/
theorem adminSet_sound (h : l.Sound)
    (hok : adminSetTaxInvoiceNumber t order id year seq l = .ok res) : res.2.Sound := by
  rcases adminSet_cases hok with hsame | ⟨hfree, hset⟩
  · rwa [hsame]
  · obtain ⟨b, hb, hl⟩ := h
    rw [hset]
    refine ⟨b.assign id year seq, hb.assign fun j hj hheld => ?_, hl.assign id year seq⟩
    have hnumber := hl.numbers j
    rw [hheld] at hnumber
    exact hfree j hj hnumber

theorem adminSet_numberOf_ne (h : id' ≠ id)
    (hok : adminSetTaxInvoiceNumber t order id year seq l = .ok res) :
    res.2.numberOf id' = l.numberOf id' := by
  rcases adminSet_cases hok with hsame | ⟨-, hset⟩
  · rw [hsame]
  · rw [hset, numberOf_setNumber_ne h, numberOf_setCounter]

/-! ## Sessions -/

/-- The session that holds the advisory lock, the ledger as its transaction has it, and the
orders it has set by hand. -/
structure Holder where
  session : SessionId
  ledger : Ledger
  setByHand : List RegistrationId

/-- The committed ledger, the holder of the lock, and the numbers on the sessions' objects. -/
structure World where
  db : Ledger
  lock : Option Holder
  copies : SessionId → RegistrationId → Option (Option Invoice)

/-- After the first numbering, with no session open. -/
def World.init (rows : List (RegistrationId × Year)) : World where
  db := .upgrade rows
  lock := none
  copies := fun _ _ => none

/-- The holder's state as session `s` finds it when it may have the lock: its own, or a new
one. -/
def World.acquire (w : World) (s : SessionId) : Option Holder :=
  match w.lock with
  | none => some ⟨s, w.db, []⟩
  | some holder => if holder.session = s then some holder else none

/-- The ledger as session `s` sees it: with its own uncommitted writes. -/
def World.ledger (w : World) (s : SessionId) : Ledger :=
  match w.lock with
  | none => w.db
  | some holder => if holder.session = s then holder.ledger else w.db

def World.putCopy (w : World) (s : SessionId) (id : RegistrationId) (number : Option Invoice) :
    World :=
  { w with copies := Function.update w.copies s (Function.update (w.copies s) id (some number)) }

/-- One atomic step of a session. -/
inductive Label
  /-- The first `SELECT` of the order. -/
  | load (s : SessionId) (id : RegistrationId)
  /-- `session.refresh`, or a `SELECT` with `populate_existing`. -/
  | refresh (s : SessionId) (id : RegistrationId)
  | ensure (s : SessionId) (id : RegistrationId) (status : RegistrationOrderStatus)
      (completedAt createdAt : Option Year) (now : Year)
  /-- `status` is that of the order found. -/
  | adminSet (s : SessionId) (id : RegistrationId) (status : Option RegistrationOrderStatus)
      (newNumber : List Char)
  | commit (s : SessionId)
  | rollback (s : SessionId)

/-- `ensure_tax_invoice_number` by a session whose object says `order`. -/
def World.ensure (w : World) (s : SessionId) (id : RegistrationId) (order : Order) (now : Year) :
    World :=
  if order.needsNumber then
    match w.acquire s with
    | none => w
    | some holder =>
      let (number, l) := ensureTaxInvoiceNumber order now id holder.ledger
      { w with lock := some { holder with ledger := l } }.putCopy s id number
  else w

/-- `admin_set_tax_invoice_number`. An exception leaves the lock to the rollback. -/
def World.adminSet (w : World) (t : CharTables) (s : SessionId) (id : RegistrationId)
    (order : Option Order) (newNumber : List Char) : World :=
  match parseTaxInvoiceNumber t newNumber, w.acquire s with
  | .ok (year, seq), some holder =>
    match adminSetTaxInvoiceNumber t order id year seq holder.ledger with
    | .error _ => { w with lock := some holder }
    | .ok (set, l) =>
      if set.unchanged then { w with lock := some holder }
      else
        { w with lock := some ⟨s, l, id :: holder.setByHand⟩ }.putCopy s id set.invoiceNumber
  | _, _ => w

/-- A step that is not enabled (the lock is taken, the order is not loaded) leaves the state as
it is. -/
def step (t : CharTables) (w : World) : Label → World
  | .load s id =>
    match w.copies s id with
    | none => w.putCopy s id ((w.ledger s).numberOf id)
    | some _ => w
  | .refresh s id => w.putCopy s id ((w.ledger s).numberOf id)
  | .ensure s id status completedAt createdAt now =>
    match w.copies s id with
    | none => w
    | some number => w.ensure s id ⟨status, completedAt, createdAt, number⟩ now
  | .adminSet s id status newNumber =>
    let number := (w.copies s id).getD ((w.ledger s).numberOf id)
    w.adminSet t s id (status.map fun st => ⟨st, none, none, number⟩) newNumber
  | .commit s =>
    match w.acquire s with
    | some holder => { w with db := holder.ledger, lock := none }
    | none => w
  | .rollback s =>
    let copies := Function.update w.copies s fun _ => none
    match w.acquire s with
    | some _ => { w with lock := none, copies := copies }
    | none => { w with copies := copies }

/-! ## The properties and the condition -/

/-- A call of `ensure_tax_invoice_number` leaves the number of its order as its transaction has
it. -/
def EnsureKeeps (w : World) : Label → World → Prop
  | .ensure s id _ _ _ _, w' =>
    ∀ number, (w.ledger s).numberOf id = some number → (w'.ledger s).numberOf id = some number
  | _, _ => True

/-- A committed number stays, unless a session commits that has set the number of this order by
hand. -/
def CommittedStays (w : World) (l : Label) (w' : World) : Prop :=
  ∀ id number, w.db.numberOf id = some number → w'.db.numberOf id = some number ∨
    ∃ holder, w.lock = some holder ∧ l = .commit holder.session ∧ id ∈ holder.setByHand

/-- Numbers are unique and permanent. -/
structure Permanent (w : World) (l : Label) (w' : World) : Prop where
  unique : w'.db.Unique
  ensure : EnsureKeeps w l w'
  committed : CommittedStays w l w'

/-- The condition on a step: a call of `ensure_tax_invoice_number` that allocates finds no number
in the row. -/
def FindsNone (w : World) : Label → Prop
  | .ensure s id status completedAt createdAt _ =>
    ∀ number, w.copies s id = some number →
      (Order.mk status completedAt createdAt number).needsNumber → (w.acquire s).isSome = true →
      (w.ledger s).numberOf id = none
  | _ => True

/-! ## What a step can do -/

variable {w w' : World} {s : SessionId} {holder : Holder} {lock : Option Holder}

theorem acquire_ledger (h : w.acquire s = some holder) : holder.ledger = w.ledger s := by
  unfold World.acquire at h
  unfold World.ledger
  split at h
  · cases h
    rfl
  · next other _ =>
    split_ifs at h with hs
    · cases h
      rw [if_pos hs]

theorem acquire_session (h : w.acquire s = some holder) : holder.session = s := by
  unfold World.acquire at h
  split at h
  · cases h
    rfl
  · split_ifs at h with hs
    · cases h
      exact hs

theorem acquire_cases (h : w.acquire s = some holder) :
    w.lock = some holder ∨ (w.lock = none ∧ holder = ⟨s, w.db, []⟩) := by
  unfold World.acquire at h
  split at h
  · next hnone =>
    cases h
    exact .inr ⟨hnone, rfl⟩
  · next other hother =>
    split_ifs at h
    · exact .inl (hother.trans h)

/-- What a step does to the committed ledger and to the lock. -/
inductive Does (t : CharTables) (w : World) : Label → Ledger → Option Holder → Prop
  | idle (l : Label) : Does t w l w.db w.lock
  | allocates (s : SessionId) (id : RegistrationId) (order : Order) (now : Year) (holder : Holder)
      (hacquire : w.acquire s = some holder) (hneeds : order.needsNumber)
      (hcopy : w.copies s id = some order.taxInvoiceNumber) :
      Does t w (.ensure s id order.status order.completedAt order.createdAt now) w.db
        (some { holder with
          ledger := (holder.ledger.allocate id (invoiceYearForOrder order now)).2 })
  | locks (l : Label) (s : SessionId) (holder : Holder) (hacquire : w.acquire s = some holder)
      (hl : ∀ s id status completedAt createdAt now,
        l ≠ .ensure s id status completedAt createdAt now) :
      Does t w l w.db (some holder)
  | sets (s : SessionId) (id : RegistrationId) (status : Option RegistrationOrderStatus)
      (newNumber : List Char) (holder : Holder) (order : Option Order) (year : Year) (seq : Nat)
      (res : SetNumber × Ledger) (hacquire : w.acquire s = some holder)
      (hok : adminSetTaxInvoiceNumber t order id year seq holder.ledger = .ok res) :
      Does t w (.adminSet s id status newNumber) w.db (some ⟨s, res.2, id :: holder.setByHand⟩)
  | commits (s : SessionId) (holder : Holder) (hacquire : w.acquire s = some holder) :
      Does t w (.commit s) holder.ledger none
  | rollsBack (s : SessionId) : Does t w (.rollback s) w.db none

theorem ensure_does (order : Order) (hcopy : w.copies s id = some order.taxInvoiceNumber) :
    Does t w (.ensure s id order.status order.completedAt order.createdAt now)
      (w.ensure s id order now).db (w.ensure s id order now).lock := by
  unfold World.ensure
  split_ifs with hneeds
  · split
    · exact .idle _
    · next holder hacquire =>
      rw [ensure_of_needsNumber hneeds]
      exact .allocates s id order now holder hacquire hneeds hcopy
  · exact .idle _

theorem adminSet_does {status : Option RegistrationOrderStatus} {newNumber : List Char} :
    Does t w (.adminSet s id status newNumber) (w.adminSet t s id order newNumber).db
      (w.adminSet t s id order newNumber).lock := by
  unfold World.adminSet
  split
  · next year seq holder _ hacquire =>
    split
    · exact .locks _ s holder hacquire (by simp)
    · next set l hok =>
      split_ifs
      · exact .locks _ s holder hacquire (by simp)
      · exact .sets s id status newNumber holder order year seq (set, l) hacquire hok
  · exact .idle _

theorem step_does (t : CharTables) (w : World) (l : Label) :
    Does t w l (step t w l).db (step t w l).lock := by
  cases l with
  | load s id =>
    simp only [step]
    split <;> exact .idle _
  | refresh s id => exact .idle _
  | ensure s id status completedAt createdAt now =>
    simp only [step]
    split
    · exact .idle _
    · next number hcopy => exact ensure_does ⟨status, completedAt, createdAt, number⟩ hcopy
  | adminSet s id status newNumber => exact adminSet_does
  | commit s =>
    simp only [step]
    split
    · next holder hacquire => exact .commits s holder hacquire
    · exact .idle _
  | rollback s =>
    simp only [step]
    split
    · exact .rollsBack s
    · exact .idle _

/-! ## Unique numbers -/

/-- The committed ledger and the holder's show sound books. -/
structure World.Sound (w : World) : Prop where
  db : w.db.Sound
  lock : ∀ holder, w.lock = some holder → holder.ledger.Sound

theorem World.Sound.acquire (h : w.Sound) (hacquire : w.acquire s = some holder) :
    holder.ledger.Sound := by
  rcases acquire_cases hacquire with hlock | ⟨-, rfl⟩
  · exact h.lock holder hlock
  · exact h.db

theorem World.Sound.of_does {l : Label} {db : Ledger} (h : w.Sound) (hdoes : Does t w l db lock) :
    db.Sound ∧ ∀ holder, lock = some holder → holder.ledger.Sound := by
  cases hdoes with
  | idle => exact ⟨h.db, h.lock⟩
  | allocates s id order now holder hacquire hneeds hcopy =>
    refine ⟨h.db, ?_⟩
    rintro _ ⟨⟩
    exact (h.acquire hacquire).allocate
  | locks _ s holder hacquire _ =>
    refine ⟨h.db, ?_⟩
    rintro _ ⟨⟩
    exact h.acquire hacquire
  | sets s id status newNumber holder order year seq res hacquire hok =>
    refine ⟨h.db, ?_⟩
    rintro _ ⟨⟩
    exact adminSet_sound (h.acquire hacquire) hok
  | commits s holder hacquire =>
    refine ⟨h.acquire hacquire, ?_⟩
    rintro _ ⟨⟩
  | rollsBack s =>
    refine ⟨h.db, ?_⟩
    rintro _ ⟨⟩

/-- **Every step keeps the ledgers sound.** -/
theorem sound_step (w : World) (l : Label) (h : w.Sound) : (step t w l).Sound := by
  obtain ⟨hdb, hlock⟩ := h.of_does (step_does t w l)
  exact ⟨hdb, hlock⟩

theorem sound_init (rows : List (RegistrationId × Year)) : (World.init rows).Sound where
  db := upgrade_sound rows
  lock := by simp [World.init]

/-! ## Permanent numbers -/

/-- The holder has every committed number, but for the orders it has set by hand. -/
def World.Keeps (w : World) : Prop :=
  ∀ holder, w.lock = some holder → ∀ id number, w.db.numberOf id = some number →
    holder.ledger.numberOf id = some number ∨ id ∈ holder.setByHand

theorem World.Keeps.acquire (h : w.Keeps) (hacquire : w.acquire s = some holder)
    (hdb : w.db.numberOf id = some number) :
    holder.ledger.numberOf id = some number ∨ id ∈ holder.setByHand := by
  rcases acquire_cases hacquire with hlock | ⟨-, rfl⟩
  · exact h holder hlock id number hdb
  · exact .inl hdb

/-- A step that meets the condition: what it does to the numbers. -/
theorem World.Keeps.of_does {l : Label} {db : Ledger} (h : w.Keeps) (hok : FindsNone w l)
    (hdoes : Does t w l db lock) :
    (∀ holder, lock = some holder → ∀ id number, db.numberOf id = some number →
        holder.ledger.numberOf id = some number ∨ id ∈ holder.setByHand) ∧
      ∀ id number, w.db.numberOf id = some number → db.numberOf id = some number ∨
        ∃ holder, w.lock = some holder ∧ l = .commit holder.session ∧ id ∈ holder.setByHand := by
  cases hdoes with
  | idle => exact ⟨h, fun id number hdb => .inl hdb⟩
  | allocates s id order now holder hacquire hneeds hcopy =>
    refine ⟨?_, fun _ _ hdb => .inl hdb⟩
    rintro _ ⟨⟩ id' number hdb
    have hnone := hok order.taxInvoiceNumber hcopy hneeds (by simp [hacquire])
    rw [← acquire_ledger hacquire] at hnone
    rcases h.acquire hacquire hdb with hkept | hset
    · have hne : id' ≠ id := by
        rintro rfl
        rw [hnone] at hkept
        cases hkept
      exact .inl (by rw [allocate_numberOf_ne hne, hkept])
    · exact .inr hset
  | locks _ s holder hacquire _ =>
    refine ⟨?_, fun _ _ hdb => .inl hdb⟩
    rintro _ ⟨⟩ id' number hdb
    exact h.acquire hacquire hdb
  | sets s id status newNumber holder order year seq res hacquire hres =>
    refine ⟨?_, fun _ _ hdb => .inl hdb⟩
    rintro _ ⟨⟩ id' number hdb
    by_cases hne : id' = id
    · exact .inr (hne ▸ List.mem_cons_self)
    · rcases h.acquire hacquire hdb with hkept | hset
      · exact .inl ((adminSet_numberOf_ne hne hres).trans hkept)
      · exact .inr (List.mem_cons_of_mem id hset)
  | commits s holder hacquire =>
    refine ⟨by rintro _ ⟨⟩, fun id number hdb => ?_⟩
    rcases h.acquire hacquire hdb with hkept | hset
    · exact .inl hkept
    · rcases acquire_cases hacquire with hlock | ⟨-, rfl⟩
      · exact .inr ⟨holder, hlock, by rw [acquire_session hacquire], hset⟩
      · cases hset
  | rollsBack s => exact ⟨by rintro _ ⟨⟩, fun id number hdb => .inl hdb⟩

theorem keeps_step (w : World) (l : Label) (h : w.Keeps) (hok : FindsNone w l) :
    (step t w l).Keeps :=
  (h.of_does hok (step_does t w l)).1

theorem ledger_congr (hdb : w'.db = w.db) (hlock : w'.lock = w.lock) :
    w'.ledger s = w.ledger s := by
  unfold World.ledger
  rw [hdb, hlock]

theorem step_ensure_ledger (order : Order) (hcopy : w.copies s id = some order.taxInvoiceNumber)
    (hneeds : order.needsNumber) (hacquire : w.acquire s = some holder) :
    (step t w (.ensure s id order.status order.completedAt order.createdAt now)).ledger s =
      ((w.ledger s).allocate id (invoiceYearForOrder order now)).2 := by
  rw [← acquire_ledger hacquire]
  simp only [step, hcopy, World.ensure, if_pos hneeds, hacquire, ensure_of_needsNumber hneeds]
  simp [World.ledger, World.putCopy, acquire_session hacquire]

/-- **Exactly the calls that find no number in the row keep it.** -/
theorem ensureKeeps_iff (h : w.Sound) (l : Label) :
    EnsureKeeps w l (step t w l) ↔ FindsNone w l := by
  cases l with
  | ensure s id status completedAt createdAt now =>
    constructor
    · intro hkeeps number hcopy hneeds hfree
      obtain ⟨holder, hacquire⟩ := Option.isSome_iff_exists.mp hfree
      by_contra hsome
      obtain ⟨old, hold⟩ := Option.ne_none_iff_exists'.mp hsome
      have hnew := hkeeps old hold
      rw [step_ensure_ledger ⟨status, completedAt, createdAt, number⟩ hcopy hneeds
        hacquire, allocate_numberOf_self] at hnew
      have hsound := h.acquire hacquire
      rw [acquire_ledger hacquire] at hsound
      exact hsound.allocate_fresh id (hold.trans hnew.symm)
    · intro hok number hold
      have hdoes := step_does t w (.ensure s id status completedAt createdAt now)
      generalize hw : step t w (.ensure s id status completedAt createdAt now) = w' at hdoes
      generalize hdb : w'.db = db at hdoes
      generalize hlock : w'.lock = lock at hdoes
      cases hdoes with
      | idle => rwa [ledger_congr hdb hlock]
      | allocates s id order now holder hacquire hneeds hcopy =>
        have hnone := hok order.taxInvoiceNumber hcopy hneeds (by simp [hacquire])
        cases hold.symm.trans hnone
      | locks _ s' holder hacquire hl => exact absurd rfl (hl s id status completedAt createdAt now)
  | _ => simp [EnsureKeeps, FindsNone]

/-- **Tax invoice numbers.** In every run of any number of sessions, after any first numbering:
no two orders ever hold the same number, no call of `ensure_tax_invoice_number` changes a number
and a committed number is replaced by hand only, if and only if every call that allocates finds
no number in the row. -/
theorem tax_invoice_numbers (t : CharTables) (rows : List (RegistrationId × Year))
    (ls : List Label) :
    Run.AllSteps (step t) Permanent (.init rows) ls ↔
      Run.Meets (step t) FindsNone (.init rows) ls := by
  constructor
  · intro hall
    rw [Run.Meets, Run.allSteps_iff]
    intro pre l post heq
    have hsound : (Run.exec (step t) (.init rows) pre).Sound :=
      Run.exec_preserves sound_step pre (sound_init rows)
    have hstep := (Run.allSteps_iff _ _).mp hall pre l post heq
    exact (ensureKeeps_iff hsound l).mp hstep.ensure
  · refine Run.allSteps_of_inv (P := fun w => w.Sound ∧ w.Keeps) ?_ ?_
      ⟨sound_init rows, by simp [World.Keeps, World.init]⟩
    · exact fun w l h hok => ⟨sound_step w l h.1, keeps_step w l h.2 hok⟩
    · intro w l h hok
      exact ⟨(sound_step w l h.1).db.unique, (ensureKeeps_iff h.1 l).mpr hok,
        (h.2.of_does hok (step_does t w l)).2⟩

/-- **Two orders never have one number**, whatever the calls find. -/
theorem numbers_unique (t : CharTables) (rows : List (RegistrationId × Year)) (ls : List Label) :
    (Run.exec (step t) (.init rows) ls).db.Unique :=
  (Run.exec_preserves sound_step ls (sound_init rows)).db.unique

/-- The retry job and the reconcile job load the same order; each finds the domain registered,
sets the order active and saves it. -/
def staleCopyRun : List Label :=
  [.load 0 7, .load 1 7, .ensure 0 7 .active none none ⟨2026, by decide⟩, .commit 0,
    .ensure 1 7 .active none none ⟨2026, by decide⟩, .commit 1]

/-- **The second save gives the order another number.** -/
theorem stale_copy_renumbers :
    ¬ Run.AllSteps (step .ascii) Permanent (.init []) staleCopyRun := by
  intro h
  have hstep := (Run.allSteps_iff _ _).mp h (staleCopyRun.take 4) _ _ rfl
  have hkept := hstep.ensure (formatTaxInvoiceNumber 2026 1) (by decide)
  exact absurd hkept (by decide)

/-! ## Reading the numbers back -/

/-- The year and the sequence of every number that successive allocations issue. -/
def Ledger.issued (l : Ledger) : List (RegistrationId × Year) → List (Year × Nat)
  | [] => []
  | (id, year) :: rows => (year, l.lastSeq year + 1) :: (l.allocate id year).2.issued rows

/-- The sequences of a year follow its counter, one for each allocation. -/
theorem mem_issued (rows : List (RegistrationId × Year)) :
    ∀ l : Ledger, (year, seq) ∈ l.issued rows ↔
      l.lastSeq year < seq ∧ seq ≤ l.lastSeq year + rows.countP fun r => r.2 = year := by
  induction rows with
  | nil =>
    intro l
    simp [Ledger.issued]
  | cons r rows ih =>
    obtain ⟨id, y⟩ := r
    intro l
    have hlast : (l.allocate id y).2.lastSeq year =
        if year = y then l.lastSeq y + 1 else l.lastSeq year := by
      rw [Ledger.allocate, lastSeq_setNumber, lastSeq_setCounter, Function.update_apply]
    rw [Ledger.issued, List.mem_cons, ih, hlast, Prod.mk.injEq, List.countP_cons]
    by_cases h : year = y
    · subst h
      simp only [true_and, if_true, decide_true]
      omega
    · simp only [h, false_and, false_or, if_false, Ne.symm h, decide_false]
      simp

/-- The number of the pair reads back, and no other pair has it. -/
structure ReadsBack (t : CharTables) (p : Year × Nat) : Prop where
  parses : parseTaxInvoiceNumber t (formatTaxInvoiceNumber p.1 p.2) = .ok p
  only : ∀ q : Year × Nat,
    formatTaxInvoiceNumber q.1 q.2 = formatTaxInvoiceNumber p.1 p.2 → q = p

theorem readsBack_iff {p : Year × Nat} (ht : t.Reads) (hp : 1 ≤ p.2) :
    ReadsBack t p ↔ p.2 ≤ 99999 := by
  constructor
  · exact fun h => parse_le h.parses
  · intro h
    refine ⟨parse_format ht p.1 hp h, fun q hq => ?_⟩
    obtain ⟨hyear, hseq⟩ := format_injective hq
    exact Prod.ext hyear hseq

/-- **What the allocator issues reads back, for a hundred thousand numbers a year less one.** -/
theorem issued_numbers_read_back {t : CharTables} (ht : t.Reads) (l : Ledger)
    (rows : List (RegistrationId × Year)) :
    (∀ p ∈ l.issued rows, ReadsBack t p) ↔
      ∀ r ∈ rows, l.lastSeq r.2 + rows.countP (fun r' => r'.2 = r.2) ≤ 99999 := by
  constructor
  · intro h r hr
    have hcount : 0 < rows.countP fun r' => r'.2 = r.2 :=
      List.countP_pos_iff.mpr ⟨r, hr, by simp⟩
    have hlast := h (r.2, l.lastSeq r.2 + rows.countP fun r' => r'.2 = r.2)
      ((mem_issued rows l).mpr ⟨by omega, Nat.le_refl _⟩)
    exact (readsBack_iff ht (by dsimp only; omega)).mp hlast
  · intro h p hp
    obtain ⟨hlo, hhi⟩ := (mem_issued rows l).mp hp
    have hcount : 0 < rows.countP fun r' => r'.2 = p.1 := by omega
    obtain ⟨r, hr, hyear⟩ := List.countP_pos_iff.mp hcount
    have hle := h r hr
    rw [of_decide_eq_true hyear] at hle
    exact (readsBack_iff ht (by omega)).mpr (hhi.trans hle)

/-- Three registrations of 2026 and one of the next year. -/
def fourNumbers : List (RegistrationId × Year) :=
  [(7, ⟨2026, by decide⟩), (8, ⟨2026, by decide⟩), (9, ⟨2027, by decide⟩), (10, ⟨2026, by decide⟩)]

/-- The counter of 2026 stands at 99996: these are its last numbers that read back. -/
theorem first_number_reads_back :
    let l : Ledger := ⟨[], fun y => if y = (⟨2026, by decide⟩ : Year) then some 99996 else none⟩
    (l.issued fourNumbers).map Prod.snd = [99997, 99998, 1, 99999] ∧
      ∀ p ∈ l.issued fourNumbers, ReadsBack .ascii p :=
  ⟨by decide +kernel, (issued_numbers_read_back reads_ascii _ fourNumbers).mpr (by decide +kernel)⟩

/-- A hundred thousand registrations of one year. -/
def fullYear : List (RegistrationId × Year) := List.replicate 100000 (7, ⟨2026, by decide⟩)

/-- **The hundred thousandth number of a year is one that the parser refuses.** -/
theorem sixth_digit_refused :
    ¬ ∀ p ∈ (⟨[], fun _ => none⟩ : Ledger).issued fullYear, ReadsBack .ascii p := by
  intro h
  have hcount : fullYear.countP (fun r => r.2 = (⟨2026, by decide⟩ : Year)) = 100000 :=
    List.countP_replicate
  have hmem : ((⟨2026, by decide⟩ : Year), 100000) ∈
      (⟨[], fun _ => none⟩ : Ledger).issued fullYear := by
    rw [mem_issued, hcount]
    exact ⟨by decide, by decide⟩
  exact absurd (h _ hmem).parses (by decide +kernel)

end Deltapreneur.Registration

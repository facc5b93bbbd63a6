import Mathlib.Tactic.Common
import Mathlib.Tactic.SplitIfs

/-!
# What every service shares

Model of `app/core/exceptions.py` and the conventions of the whole development.

* Ids (`uuid.UUID` and the gateway's strings) are natural numbers: the code only compares
  them.
* Money is counted in paise, so an amount of rupees with two decimals is a natural number.
* Time is counted in seconds, or in microseconds where `datetime` values are compared.
* A service call that may fail returns `Except AppException`, with the message and the status
  code of the source.
-/

namespace Deltapreneur

abbrev UserId := Nat
abbrev ListingId := Nat
abbrev TxId := Nat
abbrev AuctionId := Nat
/-- A Razorpay order id (`order_…`). -/
abbrev OrderId := Nat
/-- A Razorpay payment id (`pay_…`). -/
abbrev PaymentId := Nat
/-- Seconds since the epoch. -/
abbrev Time := Nat
/-- Microseconds since the epoch, where the code compares `datetime` values exactly. -/
abbrev Instant := Nat
abbrev Paise := Nat

/-- `AppException` (`app/core/exceptions.py:130-142`). -/
structure AppException where
  message : String
  statusCode : Nat
  deriving Repr, DecidableEq

/-- `raise AppException(message, status_code)`. -/
def raise {α : Type} (message : String) (statusCode : Nat) : Except AppException α :=
  .error ⟨message, statusCode⟩

/-! ## Reading a chain of checks

A service function is a chain `if bad then raise … else …`. A call that got through has passed
every check, in order. -/

variable {α : Type} {m : String} {n : Nat} {a : α} {x : Except AppException α}

@[simp] theorem raise_ne_ok : (raise m n : Except AppException α) ≠ .ok a := by
  simp [raise]

@[simp] theorem ite_raise_eq_ok {c : Prop} [Decidable c] :
    (if c then raise m n else x) = .ok a ↔ ¬ c ∧ x = .ok a := by
  by_cases h : c <;> simp [h]

end Deltapreneur

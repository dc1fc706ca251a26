/-
**SEQUENCES OF CHECKS IN `Except`.**

A fallible function is usually a row of checks followed by a result. The lemmas below take such a
row apart once it is known to have succeeded: every check passed and the rest computed the result.

`Ends P Q` is the other direction, for a row that may also fail: its result meets `P`, its error
meets `Q`. The simp set computes it from the outside in, one check after the other.
-/
import Mathlib.Init

namespace Breakdown.Fallible

/-! ## §1. Checks -/

variable {ε α β : Type}

/-- Fail with `error` unless the condition holds. -/
def ensure (cond : Bool) (error : ε) : Except ε Unit := if cond then .ok () else .error error

@[simp] theorem ensure_eq_ok {cond} {error : ε} : ensure cond error = .ok u ↔ cond = true := by
  unfold ensure
  split <;> simp_all

@[simp] theorem ensure_true (error : ε) : ensure true error = .ok () := rfl

@[simp] theorem ensure_false (error : ε) : ensure false error = .error error := rfl

/-- A sequence succeeds exactly when both parts do. -/
theorem seq_eq_ok {rest : α → Except ε β} :
    (first >>= rest) = .ok result ↔ ∃ value, first = .ok value ∧ rest value = .ok result := by
  constructor
  · intro h
    rcases first with failure | value
    · cases h
    · exact ⟨value, rfl, h⟩
  · rintro ⟨value, rfl, hrest⟩
    exact hrest

variable {x : Except ε α}

theorem toOption_eq_some : x.toOption = some a ↔ x = .ok a := by
  cases x with
  | ok | error => simp [Except.toOption]

/-- A check in front of a computation. -/
theorem check_eq_ok {x b} {y : Except ε β} :
    (x >>= fun _ => y) = .ok b ↔ x = .ok () ∧ y = .ok b := by
  rw [seq_eq_ok]
  constructor
  · rintro ⟨⟨⟩, hx, hy⟩
    exact ⟨hx, hy⟩
  · rintro ⟨hx, hy⟩
    exact ⟨(), hx, hy⟩

@[simp] theorem ok_bind (a) (f : α → Except ε β) : ((.ok a : Except ε α) >>= f) = f a := rfl

@[simp] theorem error_bind (e) (f : α → Except ε β) :
    ((.error e : Except ε α) >>= f) = .error e := rfl

/-! ## §2. How a computation may end -/

/-- A result meets `P`, an error meets `Q`. -/
def Ends (P : α → Prop) (Q : ε → Prop) : Except ε α → Prop
  | .ok a => P a
  | .error e => Q e

variable {P : α → Prop} {Q : ε → Prop}

@[simp] theorem ends_ok : Ends P Q (.ok a) ↔ P a := Iff.rfl

@[simp] theorem ends_error : Ends P Q (.error e) ↔ Q e := Iff.rfl

@[simp] theorem ends_bind {P} {f : α → Except ε β} :
    Ends P Q (x >>= f) ↔ Ends (fun a => Ends P Q (f a)) Q x := by
  cases x <;> rfl

@[simp] theorem ends_map {P} {f : α → β} : Ends P Q (x.map f) ↔ Ends (fun a => P (f a)) Q x := by
  cases x <;> rfl

@[simp] theorem ends_ensure {P cond error} :
    Ends P Q (ensure cond error) ↔ (cond = true → P ()) ∧ (cond = false → Q error) := by
  cases cond <;> simp

@[simp] theorem ends_ite {cond : Prop} [Decidable cond] :
    Ends P Q (if cond then x else y) ↔ (cond → Ends P Q x) ∧ (¬cond → Ends P Q y) := by
  by_cases h : cond <;> simp [h]

@[simp] theorem ends_true : Ends (fun _ => True) (fun _ => True) x := by
  cases x <;> trivial

theorem Ends.ok (h : Ends P Q x) (hx : x = .ok a) : P a := by
  subst hx
  exact h

theorem Ends.error (h : Ends P Q x) (hx : x = .error e) : Q e := by
  subst hx
  exact h

theorem Ends.mono (h : Ends P Q x) (hP : ∀ a, P a → P' a) (hQ : ∀ e, Q e → Q' e) :
    Ends P' Q' x := by
  cases x with
  | error e => exact hQ e h
  | ok a => exact hP a h

end Breakdown.Fallible

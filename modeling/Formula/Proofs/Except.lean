import Mathlib.Tactic.Common

/-!
# What a computation can end with

Computations of a value that may fail, with a property of the value and one of the failure.
-/

namespace Formula

/-- A computation has the value that is left of it without its failures. -/
lemma eq_ok_of_toOption {ε α : Type} {x : Except ε α} {a : α} (h : x.toOption = some a) :
    x = .ok a := by
  cases x with
  | error => cases h
  | ok =>
    cases h
    rfl

/-- A computation whose value has one property, and whose failure has another one. -/
def Meets {ε α : Type} (E : ε → Prop) (Q : α → Prop) : Except ε α → Prop
  | .ok a => Q a
  | .error e => E e

namespace Meets

variable {ε α β : Type} {E : ε → Prop} {Q : α → Prop} {R : β → Prop} {x : Except ε α}

/-- A value with its property. -/
lemma ok {a : α} (h : Q a) : Meets E Q (.ok a) :=
  h

/-- A failure with its property. -/
lemma error {e : ε} (h : E e) : Meets E Q (.error e) :=
  h

/-- The failure that a computation ends with has its property. -/
lemma of_eq_error {e : ε} (hx : Meets E Q x) (h : x = .error e) : E e := by
  rwa [h] at hx

/-- A weaker property of the value. -/
lemma imp {Q' : α → Prop} (hx : Meets E Q x) (h : ∀ a, Q a → Q' a) : Meets E Q' x := by
  cases x with
  | error e => exact hx
  | ok a => exact h a hx

/-- A weaker property of the failure. -/
lemma mono {E' : ε → Prop} (hx : Meets E Q x) (h : ∀ e, E e → E' e) : Meets E' Q x := by
  cases x with
  | error e => exact h e hx
  | ok a => exact hx

/-- One computation after another. -/
lemma bind {f : α → Except ε β} (hx : Meets E Q x) (hf : ∀ a, Q a → Meets E R (f a)) :
    Meets E R (x >>= f) := by
  cases x with
  | error e => exact hx
  | ok a => exact hf a hx

end Meets

end Formula

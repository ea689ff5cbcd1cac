import Mathlib

/-! # Three-valued conditions

Comparisons of nullable values are neither true nor false when a side is null. A
condition that guards a branch must hold; a condition that constrains a row must
only not be refuted. Both readings distribute over the connectives, so a guard
reduces to ordinary propositions about its operands.
-/

namespace Foundation

/-- A truth value of nullable comparisons. -/
inductive Ternary
  | yes | no | unknown
  deriving DecidableEq, Repr

namespace Ternary

def of (p : Prop) [Decidable p] : Ternary := if p then yes else no

def and : Ternary → Ternary → Ternary
  | no, _ => no
  | yes, t => t
  | unknown, no => no
  | unknown, _ => unknown

def or : Ternary → Ternary → Ternary
  | yes, _ => yes
  | no, t => t
  | unknown, yes => yes
  | unknown, _ => unknown

def not : Ternary → Ternary
  | yes => no
  | no => yes
  | unknown => unknown

/-- Compare two nullable values; a null on either side gives no answer. -/
def lift₂ {α β : Type} (r : α → β → Prop) [∀ a b, Decidable (r a b)] :
    Option α → Option β → Ternary
  | some a, some b => of (r a b)
  | _, _ => unknown

def lift {α : Type} (r : α → Prop) [∀ a, Decidable (r a)] : Option α → Ternary
  | some a => of (r a)
  | none => unknown

def Holds (t : Ternary) : Prop := t = yes

def Refuted (t : Ternary) : Prop := t = no

instance (t : Ternary) : Decidable t.Holds := inferInstanceAs (Decidable (t = yes))

instance (t : Ternary) : Decidable t.Refuted := inferInstanceAs (Decidable (t = no))

/-! ## Both readings of the connectives -/

@[simp] theorem holds_of {p : Prop} [Decidable p] : (of p).Holds ↔ p := by
  by_cases hp : p <;> simp [of, Holds, hp]

@[simp] theorem refuted_of {p : Prop} [Decidable p] : (of p).Refuted ↔ ¬p := by
  by_cases hp : p <;> simp [of, Refuted, hp]

@[simp] theorem holds_and {a b : Ternary} : (a.and b).Holds ↔ a.Holds ∧ b.Holds := by
  cases a <;> cases b <;> simp [and, Holds]

@[simp] theorem refuted_and {a b : Ternary} : (a.and b).Refuted ↔ a.Refuted ∨ b.Refuted := by
  cases a <;> cases b <;> simp [and, Refuted]

@[simp] theorem holds_or {a b : Ternary} : (a.or b).Holds ↔ a.Holds ∨ b.Holds := by
  cases a <;> cases b <;> simp [or, Holds]

@[simp] theorem refuted_or {a b : Ternary} : (a.or b).Refuted ↔ a.Refuted ∧ b.Refuted := by
  cases a <;> cases b <;> simp [or, Refuted]

@[simp] theorem holds_not {a : Ternary} : a.not.Holds ↔ a.Refuted := by
  cases a <;> simp [not, Holds, Refuted]

/-! ## Both readings of a nullable comparison -/

section Lift

variable {α β : Type}

@[simp] theorem holds_lift {r : α → Prop} [∀ a, Decidable (r a)] {x : Option α} :
    (lift r x).Holds ↔ ∃ a, x = some a ∧ r a := by
  cases x with
  | none => simp [lift, Holds]
  | some a => simp [lift]

@[simp] theorem refuted_lift {r : α → Prop} [∀ a, Decidable (r a)] {x : Option α} :
    (lift r x).Refuted ↔ ∃ a, x = some a ∧ ¬r a := by
  cases x with
  | none => simp [lift, Refuted]
  | some a => simp [lift]

@[simp] theorem holds_lift₂ {r : α → β → Prop} [∀ a b, Decidable (r a b)]
    {x : Option α} {y : Option β} :
    (lift₂ r x y).Holds ↔ ∃ a b, x = some a ∧ y = some b ∧ r a b := by
  cases x with
  | none => simp [lift₂, Holds]
  | some a =>
      cases y with
      | none => simp [lift₂, Holds]
      | some b => simp [lift₂]

@[simp] theorem refuted_lift₂ {r : α → β → Prop} [∀ a b, Decidable (r a b)]
    {x : Option α} {y : Option β} :
    (lift₂ r x y).Refuted ↔ ∃ a b, x = some a ∧ y = some b ∧ ¬r a b := by
  cases x with
  | none => simp [lift₂, Refuted]
  | some a =>
      cases y with
      | none => simp [lift₂, Refuted]
      | some b => simp [lift₂]

end Lift

end Ternary

end Foundation

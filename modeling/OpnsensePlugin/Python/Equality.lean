import Mathlib.Data.Rat.Lemmas
import OpnsensePlugin.Python.Order
import OpnsensePlugin.Python.Json

/-!
# Equality of values

`==` of Python on JSON values: numbers are compared by value whatever their
type is, `NaN` equals nothing, and the order of the keys of a `dict` makes no
difference.
-/

namespace Python

/-- The value of a finite number; `True` is 1. -/
inductive NumericValue
  | nan
  | infinity (negative : Bool)
  | finite (value : ℚ)
deriving DecidableEq

namespace Json

/-- The number that a value stands for -/
def number : Json → Option NumericValue
  | .bool value => some (.finite (if value then 1 else 0))
  | .int value => some (.finite value)
  | .float .nan => some .nan
  | .float (.infinity negative) => some (.infinity negative)
  | .float (.finite negative mantissa exponent) =>
      some (.finite ((if negative then -(mantissa : ℚ) else mantissa) * 2 ^ exponent))
  | _ => none

/-- Two numbers are equal. -/
def sameNumber (left right : Json) : Bool :=
  match left.number, right.number with
  | some first, some second => first = second && first ≠ .nan
  | _, _ => false

mutual

/-- The value with the keys of every `dict` in order -/
def ordered : Json → Json
  | .arr items => .arr (orderedItems items)
  | .obj fields =>
      .obj ((orderedFields fields).insertionSort fun first second => strLe first.1 second.1 = true)
  | value => value

def orderedItems : List Json → List Json
  | [] => []
  | item :: rest => item.ordered :: orderedItems rest

def orderedFields : List (Str × Json) → List (Str × Json)
  | [] => []
  | (key, value) :: rest => (key, value.ordered) :: orderedFields rest

end

mutual

/-- Equality of values whose keys are in order -/
def agrees : Json → Json → Bool
  | .null, .null => true
  | .str left, .str right => left = right
  | .arr left, .arr right => itemsAgree left right
  | .obj left, .obj right => fieldsAgree left right
  | left, right => sameNumber left right

def itemsAgree : List Json → List Json → Bool
  | [], [] => true
  | left :: lefts, right :: rights => left.agrees right && itemsAgree lefts rights
  | _, _ => false

def fieldsAgree : List (Str × Json) → List (Str × Json) → Bool
  | [], [] => true
  | (key, left) :: lefts, (name, right) :: rights =>
      key = name && left.agrees right && fieldsAgree lefts rights
  | _, _ => false

end

/-- `left == right` -/
def same (left right : Json) : Bool := left.ordered.agrees right.ordered

theorem sameNumber_comm {left right : Json} : left.sameNumber right = right.sameNumber left := by
  unfold sameNumber
  cases left.number <;> cases right.number <;> try rfl
  rename_i first second
  by_cases equal : first = second
  · rw [equal]
  · simp [equal, Ne.symm equal]

mutual

theorem agrees_comm : ∀ left right : Json, left.agrees right = right.agrees left
  | .null, right => by cases right <;> simp [agrees, sameNumber, number]
  | .bool _, right => by
      cases right <;> simp only [agrees] <;> exact sameNumber_comm
  | .int _, right => by
      cases right <;> simp only [agrees] <;> exact sameNumber_comm
  | .float _, right => by
      cases right <;> simp only [agrees] <;> exact sameNumber_comm
  | .str _, right => by
      cases right <;> simp [agrees, sameNumber, number, eq_comm]
  | .arr items, right => by
      cases right with
      | arr others => exact itemsAgree_comm items others
      | _ => simp [agrees, sameNumber, number]
  | .obj fields, right => by
      cases right with
      | obj others => exact fieldsAgree_comm fields others
      | _ => simp [agrees, sameNumber, number]

theorem itemsAgree_comm : ∀ left right : List Json, itemsAgree left right = itemsAgree right left
  | [], right => by cases right <;> rfl
  | left :: lefts, [] => rfl
  | left :: lefts, right :: rights => by
      simp only [itemsAgree]
      rw [agrees_comm left right, itemsAgree_comm lefts rights]

theorem fieldsAgree_comm : ∀ left right : List (Str × Json),
    fieldsAgree left right = fieldsAgree right left
  | [], right => by cases right <;> rfl
  | left :: lefts, [] => rfl
  | (key, left) :: lefts, (name, right) :: rights => by
      simp only [fieldsAgree]
      rw [agrees_comm left right, fieldsAgree_comm lefts rights]
      simp [eq_comm]

end

theorem same_comm {left right : Json} : left.same right = right.same left :=
  agrees_comm left.ordered right.ordered

/-- Whether a value can be a key: lists and `dict`s cannot. -/
def isHashable : Json → Bool
  | .arr _ | .obj _ => false
  | _ => true

end Json

end Python

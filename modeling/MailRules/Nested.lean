/-!
# Nested — leaves in nested lists

A `Nested α` is one leaf or a list of nested values.  Rule documents, conditions and actions all
have this shape: a document nests tokens, a compiled condition nests tests and a compiled action
nests label changes.  This file defines:

* `Nested.depth` and its bounded variant `Nested.depthUpTo`, which does not look below its limit;
* `Nested.text`, which writes a list as `[a, b]`, and `Nested.elided`, which writes `[..]` for the
  lists below a limit;
* `Nested.leaves`, the leaves from left to right.
-/

namespace MailRules

inductive Nested (α : Type) where
  | leaf (a : α)
  | list (items : List (Nested α))
  deriving Repr, Inhabited

namespace Nested

variable {α β : Type}

def isList : Nested α → Bool
  | leaf _ => false
  | list _ => true

/-! ## Depth -/

mutual

/-- A leaf has depth one, a list one more than its deepest item. -/
def depth : Nested α → Nat
  | leaf _ => 1
  | list items => depthAll items + 1

def depthAll : List (Nested α) → Nat
  | [] => 0
  | x :: xs => max (depth x) (depthAll xs)

end

mutual

/-- The depth if it is at most the limit, and otherwise one more than the limit. -/
def depthUpTo : Nested α → Nat → Nat
  | leaf _, _ => 1
  | list _, 0 => 1
  | list items, limit + 1 => depthAllUpTo items limit 0 + 1

/-- The deepest of the items and of what was found before them; items after the first that reaches
past the limit are not looked at. -/
def depthAllUpTo : List (Nested α) → Nat → Nat → Nat
  | [], _, deepest => deepest
  | x :: xs, limit, deepest =>
      let deepest := max deepest (depthUpTo x limit)
      if limit + 1 ≤ deepest then deepest else depthAllUpTo xs limit deepest

end

/-! ## Text -/

def bracketed (items : List String) : String := "[" ++ String.intercalate ", " items ++ "]"

mutual

def text (f : α → String) : Nested α → String
  | leaf a => f a
  | list items => bracketed (texts f items)

def texts (f : α → String) : List (Nested α) → List String
  | [] => []
  | x :: xs => text f x :: texts f xs

end

mutual

/-- The text with `[..]` for every list inside as many lists as the limit says. -/
def elided (f : α → String) : Nested α → Nat → String
  | leaf a, _ => f a
  | list _, 0 => "[..]"
  | list items, limit + 1 => bracketed (elidedAll f items limit)

def elidedAll (f : α → String) : List (Nested α) → Nat → List String
  | [], _ => []
  | x :: xs, limit => elided f x limit :: elidedAll f xs limit

end

/-! ## Leaves -/

mutual

def leaves : Nested α → List α
  | leaf a => [a]
  | list items => leavesAll items

def leavesAll : List (Nested α) → List α
  | [] => []
  | x :: xs => leaves x ++ leavesAll xs

end

mutual

def map (f : α → β) : Nested α → Nested β
  | leaf a => leaf (f a)
  | list items => list (mapAll f items)

def mapAll (f : α → β) : List (Nested α) → List (Nested β)
  | [] => []
  | x :: xs => map f x :: mapAll f xs

end

mutual

def decEq [DecidableEq α] : (x y : Nested α) → Decidable (x = y)
  | leaf a, leaf b =>
      if h : a = b then .isTrue (by rw [h]) else .isFalse (by simpa using h)
  | leaf _, list _ => .isFalse (by simp)
  | list _, leaf _ => .isFalse (by simp)
  | list xs, list ys =>
      match decEqAll xs ys with
      | .isTrue h => .isTrue (by rw [h])
      | .isFalse h => .isFalse (by simpa using h)

def decEqAll [DecidableEq α] : (xs ys : List (Nested α)) → Decidable (xs = ys)
  | [], [] => .isTrue rfl
  | [], _ :: _ => .isFalse (by simp)
  | _ :: _, [] => .isFalse (by simp)
  | x :: xs, y :: ys =>
      match decEq x y, decEqAll xs ys with
      | .isTrue h, .isTrue h' => .isTrue (by rw [h, h'])
      | .isFalse h, _ => .isFalse (by simp [h])
      | _, .isFalse h => .isFalse (by simp [h])

end

instance [DecidableEq α] : DecidableEq (Nested α) := decEq

end Nested
end MailRules

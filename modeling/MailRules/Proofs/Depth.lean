import MailRules.Nested

/-!
# Depth — what a bounded look at nesting finds

`Nested.depthUpTo` stops at its limit and leaves a list as soon as one item reaches it.  What it
returns is still the depth, cut off one above the limit.  This file proves:

* `Nested.depthUpTo_eq_min` for one value, with `Nested.depthAllUpTo_eq_min` for the items of a
  list;
* `Nested.limit_lt_depthUpTo_iff`, by which a value is too deep for the bounded look exactly when it
  is too deep;
* `Nested.depth_map` and `Nested.leaves_map`, by which a change of the leaves keeps the nesting.
-/

namespace MailRules
namespace Nested

variable {α β : Type}

mutual

/-- The bounded depth is the depth, cut off one above the limit. -/
theorem depthUpTo_eq_min :
    ∀ (x : Nested α) (limit : Nat), x.depthUpTo limit = min x.depth (limit + 1)
  | leaf _, limit => by
      simp [depthUpTo, depth]
  | list items, 0 => by
      simp [depthUpTo, depth]
  | list items, limit + 1 => by
      have hitems := depthAllUpTo_eq_min items limit 0 (Nat.zero_le _)
      simp only [depthUpTo, depth, hitems]
      omega

/-- An item that reaches past the limit settles the result, so that those after it need no look. -/
theorem depthAllUpTo_eq_min : ∀ (xs : List (Nested α)) (limit deepest : Nat), deepest ≤ limit + 1 →
    depthAllUpTo xs limit deepest = min (max deepest (depthAll xs)) (limit + 1)
  | [], limit, deepest, hdeepest => by
      simp only [depthAllUpTo, depthAll]
      omega
  | x :: xs, limit, deepest, hdeepest => by
      have hx := depthUpTo_eq_min x limit
      simp only [depthAllUpTo, depthAll]
      split
      · -- the early exit: the first item alone already reaches past the limit
        omega
      · next hshallow =>
          rw [depthAllUpTo_eq_min xs limit _ (by omega)]
          omega

end

theorem limit_lt_depthUpTo_iff {x : Nested α} {limit : Nat} :
    limit < x.depthUpTo limit ↔ limit < x.depth := by
  rw [depthUpTo_eq_min]
  omega

/-! ## Changed leaves -/

mutual

theorem depth_map (f : α → β) : ∀ x : Nested α, (x.map f).depth = x.depth
  | leaf a => by
      simp [map, depth]
  | list items => by
      simpa [map, depth] using depthAll_mapAll f items

theorem depthAll_mapAll (f : α → β) : ∀ xs : List (Nested α), depthAll (mapAll f xs) = depthAll xs
  | [] => by
      simp [mapAll, depthAll]
  | x :: xs => by
      simp only [mapAll, depthAll, depth_map f x, depthAll_mapAll f xs]

end

mutual

theorem leaves_map (f : α → β) : ∀ x : Nested α, (x.map f).leaves = x.leaves.map f
  | leaf a => by
      simp [map, leaves]
  | list items => by
      simpa [map, leaves] using leavesAll_mapAll f items

theorem leavesAll_mapAll (f : α → β) : ∀ xs : List (Nested α),
    leavesAll (mapAll f xs) = (leavesAll xs).map f
  | [] => by
      simp [mapAll, leavesAll]
  | x :: xs => by
      simp only [mapAll, leavesAll, leaves_map f x, leavesAll_mapAll f xs, List.map_append]

end

end Nested
end MailRules

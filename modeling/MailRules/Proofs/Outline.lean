import Mathlib.Logic.Relation
import MailRules.Proofs.BuiltDepth

/-!
# Outline — what a look with a limit cannot tell apart

The bounded depth and the elided text take a list inside as many lists as the limit says for a list,
and do not ask what is in it.  So a document that nests on below the limit gets the same answers as
one that stops there.  This file defines:

* `Nested.ReplacedAt`, that one list inside so many lists was replaced by another;
* `Nested.outline`, a value with nothing left in the lists below a limit;

and proves:

* `Nested.outline_eq_iff`, by which two values have the same outline just if one becomes the other
  by replacing lists below the limit;
* `Nested.depthUpTo_outline` and `Nested.elided_outline`, by which both looks see the outline only;
* `Side.blind_below_limit`, which puts this together for specs, and for what is reported on two
  sides that are too deep.

Whether a list or a token stands inside the last list that is looked into does show: a token is
written as it is, and a list as `[..]`.
-/

namespace MailRules
namespace Nested

variable {α : Type}

/-! ## Replaced lists -/

/-- The second value is the first one with a list, which stands inside so many lists, replaced by
another. -/
inductive ReplacedAt : Nat → Nested α → Nested α → Prop where
  | here (items others : List (Nested α)) : ReplacedAt 0 (list items) (list others)
  | inside (before after : List (Nested α)) {lists : Nat} {x y : Nested α}
      (h : ReplacedAt lists x y) :
      ReplacedAt (lists + 1) (list (before ++ x :: after)) (list (before ++ y :: after))

open Relation (ReflTransGen)

/-- Lists inside an item are inside one list more. -/
theorem reflTransGen_inside (before after : List (Nested α)) {lists : Nat} {x y : Nested α}
    (h : ReflTransGen (ReplacedAt lists) x y) :
    ReflTransGen (ReplacedAt (lists + 1)) (list (before ++ x :: after))
      (list (before ++ y :: after)) :=
  ReflTransGen.lift (fun z => list (before ++ z :: after)) (fun _ _ hz => .inside before after hz)
    _ _ h

/-! ## Outlines -/

mutual

/-- The value with all items left out of the lists inside as many lists as the limit says. -/
def outline : Nested α → Nat → Nested α
  | leaf a, _ => leaf a
  | list _, 0 => list []
  | list items, limit + 1 => list (outlineAll items limit)

def outlineAll : List (Nested α) → Nat → List (Nested α)
  | [], _ => []
  | x :: xs, limit => outline x limit :: outlineAll xs limit

end

theorem outlineAll_append (xs ys : List (Nested α)) (limit : Nat) :
    outlineAll (xs ++ ys) limit = outlineAll xs limit ++ outlineAll ys limit := by
  induction xs with
  | nil => rfl
  | cons x xs ih => simp only [List.cons_append, outlineAll, ih]

/-- What is replaced does not stand out if it is at the limit or below. -/
theorem ReplacedAt.outline_eq {lists : Nat} {x y : Nested α} (h : ReplacedAt lists x y) :
    ∀ {limit : Nat}, limit ≤ lists → x.outline limit = y.outline limit := by
  induction h with
  | here items others =>
      intro limit hlimit
      obtain rfl : limit = 0 := Nat.le_zero.1 hlimit
      rfl
  | inside before after _ ih =>
      intro limit hlimit
      cases limit with
      | zero => rfl
      | succ limit =>
          have hitem := ih (Nat.le_of_succ_le_succ hlimit)
          simp only [outline, outlineAll_append, outlineAll, hitem]

mutual

theorem reflTransGen_of_outline_eq : ∀ {x y : Nested α} {limit : Nat},
    x.outline limit = y.outline limit → ReflTransGen (ReplacedAt limit) x y
  | leaf a, y, limit, h => by
      -- a token is its own outline, and no list has that outline
      cases y with
      | leaf b =>
          obtain rfl : a = b := by simpa [outline] using h
          exact .refl
      | list others => cases limit <;> simp [outline] at h
  | list items, y, limit, h => by
      cases y with
      | leaf b => cases limit <;> simp [outline] at h
      | list others =>
          cases limit with
          | zero => exact .single (.here items others)
          | succ limit =>
              have hitems : outlineAll items limit = outlineAll others limit := by
                simpa [outline] using h
              exact reflTransGen_of_outlineAll_eq [] hitems

/-- Items are replaced one after the other, those before them having been replaced already. -/
theorem reflTransGen_of_outlineAll_eq :
    ∀ (before : List (Nested α)) {xs ys : List (Nested α)} {limit : Nat},
      outlineAll xs limit = outlineAll ys limit →
        ReflTransGen (ReplacedAt (limit + 1)) (list (before ++ xs)) (list (before ++ ys))
  | before, [], ys, limit, h => by
      cases ys with
      | nil => exact .refl
      | cons y ys => simp [outlineAll] at h
  | before, x :: xs, ys, limit, h => by
      cases ys with
      | nil => simp [outlineAll] at h
      | cons y ys =>
          have hparts :
              x.outline limit = y.outline limit ∧ outlineAll xs limit = outlineAll ys limit := by
            simpa [outlineAll] using h
          have hfirst := reflTransGen_inside before xs (reflTransGen_of_outline_eq hparts.1)
          have hrest := reflTransGen_of_outlineAll_eq (before ++ [y]) hparts.2
          simp only [List.append_assoc, List.singleton_append] at hrest
          exact hfirst.trans hrest

end

/-- Values of one outline are those that become one another by replacing lists below the limit. -/
theorem outline_eq_iff {x y : Nested α} {limit : Nat} :
    x.outline limit = y.outline limit ↔ ReflTransGen (ReplacedAt limit) x y := by
  refine ⟨reflTransGen_of_outline_eq, ?_⟩
  intro h
  induction h with
  | refl => rfl
  | tail _ hlast ih => exact ih.trans (hlast.outline_eq (Nat.le_refl limit))

/-! ## Looks with a limit -/

mutual

theorem depthUpTo_outline :
    ∀ (x : Nested α) (limit : Nat), (x.outline limit).depthUpTo limit = x.depthUpTo limit
  | leaf _, _ => rfl
  | list _, 0 => rfl
  | list items, limit + 1 => by
      simp only [outline, depthUpTo, depthAllUpTo_outlineAll items limit 0]

theorem depthAllUpTo_outlineAll : ∀ (xs : List (Nested α)) (limit deepest : Nat),
    depthAllUpTo (outlineAll xs limit) limit deepest = depthAllUpTo xs limit deepest
  | [], _, _ => rfl
  | x :: xs, limit, deepest => by
      -- the look leaves both lists at the same item
      simp only [outlineAll, depthAllUpTo, depthUpTo_outline x limit,
        depthAllUpTo_outlineAll xs limit]

end

variable (f : α → String)

mutual

theorem elided_outline :
    ∀ (x : Nested α) (limit : Nat), (x.outline limit).elided f limit = x.elided f limit
  | leaf _, _ => rfl
  | list _, 0 => rfl
  | list items, limit + 1 => by
      simp only [outline, elided, elidedAll_outlineAll items limit]

theorem elidedAll_outlineAll : ∀ (xs : List (Nested α)) (limit : Nat),
    elidedAll f (outlineAll xs limit) limit = elidedAll f xs limit
  | [], _ => rfl
  | x :: xs, limit => by
      simp only [outlineAll, elidedAll, elided_outline x limit, elidedAll_outlineAll xs limit]

end

mutual

/-- Nothing is elided from a value that is not deeper than the limit. -/
theorem elided_eq_text :
    ∀ {x : Nested α} {limit : Nat}, x.depth ≤ limit → x.elided f limit = x.text f
  | leaf _, _, _ => rfl
  | list _, 0, h => by
      simp [depth] at h
  | list items, limit + 1, h => by
      have hitems : depthAll items ≤ limit := by simpa [depth] using h
      simp only [elided, text, elidedAll_eq_texts hitems]

theorem elidedAll_eq_texts : ∀ {xs : List (Nested α)} {limit : Nat}, depthAll xs ≤ limit →
    elidedAll f xs limit = texts f xs
  | [], _, _ => rfl
  | x :: xs, limit, h => by
      have hparts : x.depth ≤ limit ∧ depthAll xs ≤ limit := Nat.max_le.1 h
      simp only [elidedAll, texts, elided_eq_text hparts.1, elidedAll_eq_texts hparts.2]

end

variable {f} {x y : Nested α} {limit : Nat}

theorem depthUpTo_eq_of_outline_eq (h : x.outline limit = y.outline limit) :
    x.depthUpTo limit = y.depthUpTo limit :=
  calc
    x.depthUpTo limit = (x.outline limit).depthUpTo limit := (depthUpTo_outline x limit).symm
    _ = (y.outline limit).depthUpTo limit := by simp only [h]
    _ = y.depthUpTo limit := depthUpTo_outline y limit

theorem elided_eq_of_outline_eq (h : x.outline limit = y.outline limit) :
    x.elided f limit = y.elided f limit :=
  calc
    x.elided f limit = (x.outline limit).elided f limit := (elided_outline f x limit).symm
    _ = (y.outline limit).elided f limit := by simp only [h]
    _ = y.elided f limit := elided_outline f y limit

end Nested

/-! ## Sides that are too deep -/

namespace Side

/-- Sides of one outline that are too deep come to the same: no more than one report, the same for
both. -/
theorem build_eq_of_outline_eq {α : Type} (parse : String → Except RuleError α) {s t : Spec}
    (hs : maxDepth < s.depth) (ht : maxDepth < t.depth)
    (h : s.outline maxDepth = t.outline maxDepth) :
    build parse s = build parse t :=
  calc
    build parse s = ⟨none, [⟨s.elided id maxDepth, .depthExceeded (maxDepth + 1), .rule⟩]⟩ :=
      build_of_deep parse hs
    _ = ⟨none, [⟨t.elided id maxDepth, .depthExceeded (maxDepth + 1), .rule⟩]⟩ := by
      simp only [Nested.elided_eq_of_outline_eq h]
    _ = build parse t := (build_of_deep parse ht).symm

open Relation in
/-- To replace a list inside as many lists as the limit says, or more, changes neither the bounded
depth nor the elided text, and the elided text is the whole text if the depth is within the limit.
Specs have one outline just if such replacements lead from one to the other.  Two of them that are
too deep and have the outline of the allowed depth in common come to the same single report,
whichever side they stand on. -/
theorem blind_below_limit [PatternEngine] :
    (∀ (s t : Spec) (limit lists : Nat), limit ≤ lists → Nested.ReplacedAt lists s t →
        s.depthUpTo limit = t.depthUpTo limit ∧ s.elided id limit = t.elided id limit) ∧
      (∀ (s : Spec) (limit : Nat), s.depth ≤ limit → s.elided id limit = s.text) ∧
      (∀ (s t : Spec) (limit : Nat),
        s.outline limit = t.outline limit ↔ ReflTransGen (Nested.ReplacedAt limit) s t) ∧
      ∀ s t : Spec, maxDepth < s.depth → maxDepth < t.depth →
        s.outline maxDepth = t.outline maxDepth →
        ∃ d : Drop, condition s = ⟨none, [d]⟩ ∧ condition t = ⟨none, [d]⟩ ∧
          action s = ⟨none, [d]⟩ ∧ action t = ⟨none, [d]⟩ := by
  refine ⟨?_, fun _ _ => Nested.elided_eq_text id, fun _ _ _ => Nested.outline_eq_iff, ?_⟩
  · intro s t limit lists hlimit h
    have houtline := h.outline_eq hlimit
    exact ⟨Nested.depthUpTo_eq_of_outline_eq houtline, Nested.elided_eq_of_outline_eq houtline⟩
  · intro s t hs ht h
    refine ⟨_, build_of_deep _ hs, ?_, build_of_deep _ hs, ?_⟩
    · exact (build_eq_of_outline_eq Test.parse hs ht h).symm.trans (build_of_deep _ hs)
    · exact (build_eq_of_outline_eq Change.parse hs ht h).symm.trans (build_of_deep _ hs)

/-- Inside as many lists as are allowed stands a list with a token, or one with lists of lists. -/
theorem blind_below_limit_token_or_list :
    let around (s : Spec) : Spec := Nat.repeat (fun t => .list [t]) maxDepth s
    let s := around (.list [.leaf "inbox"])
    let t := around (.list [.list [], .list [.list []]])
    maxDepth < s.depth ∧ maxDepth < t.depth ∧ s.depth ≠ t.depth ∧
      s.outline maxDepth = t.outline maxDepth ∧
      ∃ d : Drop, condition s = ⟨none, [d]⟩ ∧ condition t = ⟨none, [d]⟩ ∧
        action s = ⟨none, [d]⟩ ∧ action t = ⟨none, [d]⟩ := by
  intro around s t
  have hs : maxDepth < s.depth := by decide +kernel
  have ht : maxDepth < t.depth := by decide +kernel
  have hdifferent : s.depth ≠ t.depth := by decide +kernel
  have houtline : s.outline maxDepth = t.outline maxDepth := by decide +kernel
  exact ⟨hs, ht, hdifferent, houtline, blind_below_limit.2.2.2 s t hs ht houtline⟩

end Side
end MailRules

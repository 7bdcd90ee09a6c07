import MailRules.Compiled
import MailRules.Proofs.Depth

/-!
# Leaves — what is left of nesting when rules are run

Conditions and actions are trees, but neither how a condition comes out nor what an action does
depends on more than the leaves from left to right.  This file proves:

* `Condition.holds_eq_all_leaves` and `Action.apply_eq_foldl_leaves`, which run a tree by its
  leaves;
* `Side.leaves_of_buildNested`, which finds the leaves of a built tree among the tokens it was built
  from: they are what the readable tokens are read as, in the same order;
* `Side.built_leaf` and `Side.built_list`, which say when a whole side can be built.
-/

namespace MailRules

/-! ## Conditions and actions -/

namespace Condition

variable [PatternEngine]

mutual

theorem holds_eq_all_leaves (m : Message) : ∀ c : Condition,
    holds m c = (Nested.leaves c).all fun t => t.holds m
  | .leaf t => by
      simp [holds, Nested.leaves]
  | .list items => by
      simpa [holds, Nested.leaves] using allHold_eq_all_leaves m items

theorem allHold_eq_all_leaves (m : Message) : ∀ cs : List Condition,
    allHold m cs = (Nested.leavesAll cs).all fun t => t.holds m
  | [] => by
      simp [allHold, Nested.leavesAll]
  | c :: cs => by
      simp only [allHold, Nested.leavesAll, List.all_append]
      rw [holds_eq_all_leaves m c, allHold_eq_all_leaves m cs]

end

end Condition

namespace Action

mutual

theorem apply_eq_foldl_leaves : ∀ (a : Action) (m : Message),
    apply a m = (Nested.leaves a).foldl (fun m c => c.apply m) m
  | .leaf c, m => by
      simp [apply, Nested.leaves]
  | .list items, m => by
      simpa [apply, Nested.leaves] using applyAll_eq_foldl_leaves items m

theorem applyAll_eq_foldl_leaves : ∀ (as : List Action) (m : Message),
    applyAll as m = (Nested.leavesAll as).foldl (fun m c => c.apply m) m
  | [], m => by
      simp [applyAll, Nested.leavesAll]
  | a :: as, m => by
      simp only [applyAll, Nested.leavesAll, List.foldl_append]
      rw [apply_eq_foldl_leaves a m, applyAll_eq_foldl_leaves as]

end

end Action

/-! ## Sides -/

namespace Side

variable {α : Type} (parse : String → Except RuleError α)

/-- What the readable ones of some tokens are read as. -/
def readable (tokens : List String) : List α := tokens.filterMap fun token => (parse token).toOption

@[simp] theorem readable_nil : readable parse [] = [] := rfl

theorem readable_cons_ok {token : String} {a : α} (h : parse token = .ok a) (tokens : List String) :
    readable parse (token :: tokens) = a :: readable parse tokens := by
  simp [readable, h, Except.toOption]

theorem readable_cons_error {token : String} {e : RuleError} (h : parse token = .error e)
    (tokens : List String) : readable parse (token :: tokens) = readable parse tokens := by
  simp [readable, h, Except.toOption]

theorem readable_append (tokens more : List String) :
    readable parse (tokens ++ more) = readable parse tokens ++ readable parse more :=
  List.filterMap_append

/-- Only a token can fail to be built as a whole. -/
theorem eq_leaf_of_buildNested_error {s : Spec} {e : RuleError}
    (h : buildNested parse s = .error e) : ∃ token, s = .leaf token ∧ parse token = .error e := by
  cases s with
  | leaf token =>
      simp only [buildNested] at h
      split at h
      · exact absurd h (by simp)
      · next e' he =>
          cases h
          exact ⟨token, rfl, he⟩
  | list items =>
      simp [buildNested] at h

mutual

theorem leaves_of_buildNested : ∀ {s : Spec} {x : Nested α} {drops : List Drop},
    buildNested parse s = .ok (x, drops) → x.leaves = readable parse s.leaves
  | .leaf token, x, drops, h => by
      simp only [buildNested] at h
      split at h
      · next a ha =>
          cases h
          simp only [Nested.leaves]
          rw [readable_cons_ok parse ha, readable_nil]
      · exact absurd h (by simp)
  | .list items, x, drops, h => by
      simp only [buildNested, Except.ok.injEq, Prod.mk.injEq] at h
      rcases h with ⟨rfl, _⟩
      simpa [Nested.leaves] using leavesAll_buildItems items

theorem leavesAll_buildItems : ∀ items : List Spec,
    Nested.leavesAll (buildItems parse items).1 = readable parse (Nested.leavesAll items)
  | [] => by
      simp [buildItems, Nested.leavesAll, readable_nil]
  | s :: rest => by
      have hrest := leavesAll_buildItems rest
      simp only [buildItems, Nested.leavesAll, readable_append]
      split
      · next x drops hs =>
          simp only [Nested.leavesAll]
          rw [leaves_of_buildNested hs, hrest]
      · next e hs =>
          -- an item that fails is a single token that cannot be read, and adds nothing on either side
          rcases eq_leaf_of_buildNested_error parse hs with ⟨token, rfl, htoken⟩
          simp only [Nested.leaves]
          rw [readable_cons_error parse htoken, readable_nil, List.nil_append, hrest]

end

theorem built_leaf (token : String) :
    (build parse (.leaf token)).built = (parse token).toOption.map .leaf := by
  have hshallow : ¬ maxDepth < (Nested.leaf token).depthUpTo maxDepth := by
    simp [Nested.limit_lt_depthUpTo_iff, Nested.depth, maxDepth]
  simp only [build, hshallow, if_false, buildNested]
  cases parse token with
  | error e => rfl
  | ok a => rfl

theorem built_list (items : List Spec) :
    (build parse (.list items)).built =
      if (Nested.list items).depth ≤ maxDepth then some (.list (buildItems parse items).1)
      else none := by
  simp only [build, Nested.limit_lt_depthUpTo_iff]
  by_cases hdeep : maxDepth < (Nested.list items).depth
  · simp [hdeep, Nat.not_le.2 hdeep]
  · simp [hdeep, Nat.not_lt.1 hdeep, buildNested]

end Side
end MailRules

import MailRules.Proofs.NormalForm

/-!
# Inversion — one element of a list and its opposite

A hyphen in front of a token inverts what the token asks, and all elements of a list have to hold.
So a list and the same list with one element inverted share out between them the messages for which
the other elements hold.  This file defines `Nested.Gap`, a list with a place left open somewhere in
it, and proves:

* `Nested.Gap.exists_items_eq`, by which every leaf of a list stands in such a place;
* `Test.parse_hyphen`, by which a token behind a hyphen is read as the inverted test;
* `Condition.holds_element`, by which an element is asked apart from all others;
* `Side.inversion_splits`: for every element of a list that is no inverted test, the list, the list
  with the element inverted and the list without it can be built; of the first two at most one
  holds, and one of them does just if the third does.  A token that cannot be read is as good as no
  element.
-/

namespace MailRules

/-! ## Lists with a place left open -/

namespace Nested

variable {α : Type}

theorem leavesAll_append (xs ys : List (Nested α)) :
    leavesAll (xs ++ ys) = leavesAll xs ++ leavesAll ys := by
  induction xs with
  | nil => rfl
  | cons x xs ih => simp only [List.cons_append, leavesAll, ih, List.append_assoc]

theorem depthAll_append (xs ys : List (Nested α)) :
    depthAll (xs ++ ys) = max (depthAll xs) (depthAll ys) := by
  induction xs with
  | nil => simp [depthAll]
  | cons x xs ih => simp only [List.cons_append, depthAll, ih, Nat.max_assoc]

/-- A list with a place left open: between some of its items and the others, or inside one of
them. -/
inductive Gap (α : Type) where
  | between (before after : List (Nested α))
  | inside (before : List (Nested α)) (gap : Gap α) (after : List (Nested α))

namespace Gap

/-- The items of the list when the place is taken by some items, none at all being possible. -/
def items : Gap α → List (Nested α) → List (Nested α)
  | between before after, xs => before ++ (xs ++ after)
  | inside before gap after, xs => before ++ list (gap.items xs) :: after

def fill (gap : Gap α) (xs : List (Nested α)) : Nested α := list (gap.items xs)

def leavesBefore : Gap α → List α
  | between before _ => leavesAll before
  | inside before gap _ => leavesAll before ++ gap.leavesBefore

def leavesAfter : Gap α → List α
  | between _ after => leavesAll after
  | inside _ gap after => gap.leavesAfter ++ leavesAll after

theorem leaves_fill (gap : Gap α) (xs : List (Nested α)) :
    (gap.fill xs).leaves = gap.leavesBefore ++ (leavesAll xs ++ gap.leavesAfter) := by
  simp only [fill, leaves]
  induction gap with
  | between before after => simp only [items, leavesBefore, leavesAfter, leavesAll_append]
  | inside before gap after ih =>
      simp only [items, leavesBefore, leavesAfter, leavesAll_append, leavesAll, leaves, ih,
        List.append_assoc]

/-- What takes the place decides the depth only as far as it is deep itself. -/
theorem depth_fill_le (gap : Gap α) {xs ys : List (Nested α)} (h : depthAll xs ≤ depthAll ys) :
    (gap.fill xs).depth ≤ (gap.fill ys).depth := by
  simp only [fill, depth]
  induction gap with
  | between before after =>
      simp only [items, depthAll_append]
      omega
  | inside before gap after ih =>
      simp only [items, depthAll_append, depthAll, depth]
      omega

/-- The same list with one more item in front. -/
def push (x : Nested α) : Gap α → Gap α
  | between before after => between (x :: before) after
  | inside before gap after => inside (x :: before) gap after

theorem items_push (x : Nested α) (gap : Gap α) (xs : List (Nested α)) :
    (gap.push x).items xs = x :: gap.items xs := by
  cases gap <;> rfl

theorem leavesBefore_push (x : Nested α) (gap : Gap α) :
    (gap.push x).leavesBefore = x.leaves ++ gap.leavesBefore := by
  cases gap <;> simp only [push, leavesBefore, leavesAll, List.append_assoc]

/-- Every leaf of a list stands in a place of it, told by how many leaves come before. -/
theorem exists_items_eq : ∀ (xs : List (Nested α)) (n : Nat) (a : α), (leavesAll xs)[n]? = some a →
    ∃ gap : Gap α, gap.items [leaf a] = xs ∧ gap.leavesBefore.length = n
  | [], n, a, h => by
      simp [leavesAll] at h
  | leaf b :: rest, 0, a, h => by
      obtain rfl : b = a := by simpa [leavesAll, leaves] using h
      exact ⟨between [] rest, rfl, rfl⟩
  | leaf b :: rest, n + 1, a, h => by
      have hrest : (leavesAll rest)[n]? = some a := by simpa [leavesAll, leaves] using h
      rcases exists_items_eq rest n a hrest with ⟨gap, hitems, hbefore⟩
      refine ⟨gap.push (leaf b), ?_, ?_⟩
      · rw [items_push, hitems]
      · simp [leavesBefore_push, leaves, hbefore]
  | list inner :: rest, n, a, h => by
      -- the leaf stands inside the inner list or behind it, as its leaves are fewer than `n` or not
      by_cases hn : n < (leavesAll inner).length
      · have hinner : (leavesAll inner)[n]? = some a := by
          simpa [leavesAll, leaves, List.getElem?_append_left hn] using h
        rcases exists_items_eq inner n a hinner with ⟨gap, hitems, hbefore⟩
        refine ⟨inside [] gap rest, ?_, ?_⟩
        · simp [items, hitems]
        · simpa [leavesBefore, leavesAll] using hbefore
      · have hrest : (leavesAll rest)[n - (leavesAll inner).length]? = some a := by
          simpa [leavesAll, leaves, List.getElem?_append_right (Nat.not_lt.1 hn)] using h
        rcases exists_items_eq rest _ a hrest with ⟨gap, hitems, hbefore⟩
        refine ⟨gap.push (list inner), ?_, ?_⟩
        · rw [items_push, hitems]
        · simp only [leavesBefore_push, leaves, List.length_append, hbefore]
          omega

end Gap
end Nested

/-! ## Tokens behind a hyphen -/

theorem Descriptor.parse?_hyphen {token : String} {d : Descriptor} (h : parse? token = some d)
    (hupright : d.inverted = false) : parse? ("-" ++ token) = some { d with inverted := true } := by
  rcases parse?_eq_some_iff.1 h with ⟨hlegible, rfl⟩
  refine parse?_eq_some_iff.2 ⟨⟨hlegible.nonempty, hlegible.letters, .inl rfl⟩, ?_⟩
  simp [text, write, hupright, String.append_assoc]

namespace Test

variable [PatternEngine]

theorem holds_inverted {t : Test} (hupright : t.inverted = false) (m : Message) :
    ({ t with inverted := true } : Test).holds m = !t.holds m := by
  simp [holds, tested, hupright]

/-- Inversion shows in the text of an objection, and not in what is checked. -/
theorem checkOf_inverted {kind : ConditionKind} {d : Descriptor} {check : Check}
    (h : checkOf kind d = .ok check) : checkOf kind { d with inverted := true } = .ok check := by
  cases hfield : kind.field? with
  | some field =>
      cases hparameter : d.parameter with
      | none => simp [checkOf, hfield, hparameter] at h
      | some p => simpa [checkOf, hfield, hparameter] using h
  | none =>
      cases hlabel : kind.fixedLabel? with
      | some label => simpa [checkOf, hfield, hlabel] using h
      | none =>
          cases hparameter : d.parameter with
          | none => simp [checkOf, hfield, hlabel, hparameter] at h
          | some p => simpa [checkOf, hfield, hlabel, hparameter] using h

theorem ofDescriptor_inverted {d : Descriptor} {t : Test} (h : ofDescriptor d = .ok t) :
    ofDescriptor { d with inverted := true } = .ok { t with inverted := true } := by
  unfold ofDescriptor at h ⊢
  cases hkind : ConditionKind.ofKeyword? d.keyword with
  | none => simp [hkind] at h
  | some kind =>
      simp only [hkind] at h ⊢
      cases hcheck : checkOf kind d with
      | error e => simp [hcheck] at h
      | ok check =>
          obtain rfl : ⟨kind, d.inverted, d.parameter, check⟩ = t := by simpa [hcheck] using h
          rw [checkOf_inverted hcheck]

/-- A token behind a hyphen is read as the same test, inverted. -/
theorem parse_hyphen {token : String} {t : Test} (h : parse token = .ok t)
    (hupright : t.inverted = false) : parse ("-" ++ token) = .ok { t with inverted := true } := by
  unfold parse at h
  split at h
  · cases h
  · next d hd =>
      have hd' : Descriptor.parse? ("-" ++ token) = some { d with inverted := true } :=
        Descriptor.parse?_hyphen hd ((of_ofDescriptor h).2.1.symm.trans hupright)
      simp only [parse, hd', ofDescriptor_inverted h]

end Test

/-! ## Lists built with an element, with its opposite and without it -/

namespace Side

variable {α : Type} (parse : String → Except RuleError α)

theorem buildItems_append (xs ys : List Spec) :
    (buildItems parse (xs ++ ys)).1 = (buildItems parse xs).1 ++ (buildItems parse ys).1 := by
  induction xs with
  | nil => simp [buildItems]
  | cons x xs ih =>
      simp only [List.cons_append, buildItems]
      split <;> simp [ih]

/-- Of what takes a place in a list, only what comes of it shows in what comes of the list. -/
theorem buildItems_congr (gap : Nested.Gap String) {xs ys : List Spec}
    (h : (buildItems parse xs).1 = (buildItems parse ys).1) :
    (buildItems parse (gap.items xs)).1 = (buildItems parse (gap.items ys)).1 := by
  induction gap with
  | between before after => simp only [Nested.Gap.items, buildItems_append, h]
  | inside before gap after ih =>
      simp only [Nested.Gap.items, buildItems_append, buildItems, buildNested, ih]

theorem buildItems_unreadable {token : String} {e : RuleError} (h : parse token = .error e) :
    (buildItems parse [.leaf token]).1 = [] := by
  simp [buildItems, buildNested, h]

theorem built_fill (gap : Nested.Gap String) {xs : List Spec}
    (hdepth : (gap.fill xs).depth ≤ maxDepth) :
    (build parse (gap.fill xs)).built = some (.list (buildItems parse (gap.items xs)).1) := by
  rw [Nested.Gap.fill] at hdepth ⊢
  rw [built_list, if_pos hdepth]

end Side

namespace Condition

variable [PatternEngine]

theorem leaves_buildItems (gap : Nested.Gap String) (xs : List Spec) :
    Nested.leavesAll (Side.buildItems Test.parse (gap.items xs)).1 =
      Side.readable Test.parse gap.leavesBefore ++
        (Side.readable Test.parse (Nested.leavesAll xs) ++
          Side.readable Test.parse gap.leavesAfter) := by
  have htokens : Nested.leavesAll (gap.items xs) =
      gap.leavesBefore ++ (Nested.leavesAll xs ++ gap.leavesAfter) := gap.leaves_fill xs
  simp only [Side.leavesAll_buildItems, htokens, Side.readable_append]

/-- Of the element that takes the place and of all the others, each is asked apart. -/
theorem holds_element (gap : Nested.Gap String) {token : String} {t : Test}
    (h : Test.parse token = .ok t) (m : Message) :
    holds m (.list (Side.buildItems Test.parse (gap.items [.leaf token])).1) =
      (t.holds m && holds m (.list (Side.buildItems Test.parse (gap.items [])).1)) := by
  have helement : Side.readable Test.parse (Nested.leavesAll [.leaf token]) = [t] :=
    Side.readable_cons_ok Test.parse h []
  have hnone : Side.readable Test.parse (Nested.leavesAll []) = [] := rfl
  simp only [holds_eq_all_leaves, Nested.leaves, leaves_buildItems, helement, hnone, List.all_append,
    List.all_cons, List.all_nil, Bool.and_true, Bool.true_and]
  exact Bool.and_left_comm _ _ _

end Condition

/-- Take a list that is not nested too deep.  Each of its tokens stands in a place of its own.  If
the token of a place is read as a test that is not inverted, conditions can be built from the list,
from the list with a hyphen in front of the token and from the list without the token.  The first
two never hold of the same message, and one of them holds just if the third does, which is also what
is built with a token that cannot be read. -/
theorem Side.inversion_splits [PatternEngine] {s : Spec} (hlist : s.isList = true)
    (hdepth : s.depth ≤ maxDepth) :
    (∀ n token, s.leaves[n]? = some token → ∃ gap : Nested.Gap String,
      gap.fill [.leaf token] = s ∧ gap.leavesBefore.length = n) ∧
      ∀ (gap : Nested.Gap String) (token : String) (t : Test), gap.fill [.leaf token] = s →
        Test.parse token = .ok t → t.inverted = false →
        ∃ upright inverted rest : Condition,
          (Side.condition s).built = some upright ∧
          (Side.condition (gap.fill [.leaf ("-" ++ token)])).built = some inverted ∧
          (Side.condition (gap.fill [])).built = some rest ∧
          (∀ m : Message, ¬ (upright.holds m = true ∧ inverted.holds m = true) ∧
            (upright.holds m = true ∨ inverted.holds m = true ↔ rest.holds m = true)) ∧
          ∀ other e, Test.parse other = .error e →
            (Side.condition (gap.fill [.leaf other])).built = some rest := by
  refine ⟨?_, ?_⟩
  · intro n token htoken
    cases s with
    | leaf a => simp [Nested.isList] at hlist
    | list items =>
        rcases Nested.Gap.exists_items_eq items n token htoken with ⟨gap, hitems, hbefore⟩
        exact ⟨gap, congrArg Nested.list hitems, hbefore⟩
  · rintro gap token t rfl hparse hupright
    have hinverted : Test.parse ("-" ++ token) = .ok { t with inverted := true } :=
      Test.parse_hyphen hparse hupright
    -- one token is as deep as another, and none at all is not deeper
    have hdepth' (other : String) : (gap.fill [.leaf other]).depth ≤ maxDepth :=
      Nat.le_trans (gap.depth_fill_le (by simp [Nested.depthAll, Nested.depth])) hdepth
    have hdepthRest : (gap.fill []).depth ≤ maxDepth :=
      Nat.le_trans (gap.depth_fill_le (by simp [Nested.depthAll])) hdepth
    refine ⟨_, _, _, Side.built_fill Test.parse gap hdepth,
      Side.built_fill Test.parse gap (hdepth' _), Side.built_fill Test.parse gap hdepthRest, ?_, ?_⟩
    · intro m
      rw [Condition.holds_element gap hparse, Condition.holds_element gap hinverted,
        Test.holds_inverted hupright]
      -- either the test holds or its opposite does, whatever is asked besides
      cases t.holds m with
      | false => simp
      | true => simp
    · intro other e hother
      have hnothing :
          (Side.buildItems Test.parse [.leaf other]).1 = (Side.buildItems Test.parse []).1 :=
        Side.buildItems_unreadable Test.parse hother
      have hsame := Side.buildItems_congr Test.parse gap hnothing
      rw [← hsame]
      exact Side.built_fill Test.parse gap (hdepth' other)

/-- A token inside a list inside the list, next to one that cannot be read. -/
theorem Side.inversion_splits_nested :
    let s : Spec := .list [.leaf "inbox", .list [.leaf "label:x", .leaf "bogus"]]
    let gap : Nested.Gap String := .inside [.leaf "inbox"] (.between [] [.leaf "bogus"]) []
    let t : Test := ⟨.label, false, some "x", .label "x"⟩
    s.isList = true ∧ s.depth ≤ maxDepth ∧ gap.fill [.leaf "label:x"] = s ∧
      Test.parse "label:x" = .ok t ∧
      ∃ upright inverted rest : Condition,
        (Side.condition s).built = some upright ∧
        (Side.condition (.list [.leaf "inbox", .list [.leaf "-label:x", .leaf "bogus"]])).built =
          some inverted ∧
        (Side.condition (.list [.leaf "inbox", .list [.leaf "bogus"]])).built = some rest ∧
        (∀ m : Message, ¬ (upright.holds m = true ∧ inverted.holds m = true) ∧
          (upright.holds m = true ∨ inverted.holds m = true ↔ rest.holds m = true)) ∧
        ∀ other e, Test.parse other = .error e →
          (Side.condition (.list [.leaf "inbox", .list [.leaf other, .leaf "bogus"]])).built =
            some rest := by
  intro s gap t
  have hlist : s.isList = true := rfl
  have hdepth : s.depth ≤ maxDepth := by decide
  have hdescriptor : Descriptor.parse? "label:x" = some ⟨false, "label", some "x"⟩ := by decide +kernel
  have hparse : Test.parse "label:x" = .ok t := by
    simp only [Test.parse, hdescriptor]
    rfl
  exact ⟨hlist, hdepth, rfl, hparse,
    (Side.inversion_splits hlist hdepth).2 gap "label:x" t rfl hparse rfl⟩

end MailRules

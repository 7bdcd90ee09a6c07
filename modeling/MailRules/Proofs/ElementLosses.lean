import MailRules.Proofs.Accounting

/-!
# ElementLosses — what the loss of an element says about the rule

That a list lost an element is noted while the list is built, before it is known what becomes of the
other side of the entry.  So the note says that the side was kept without the element, and no more
than that.  This file defines:

* `Slot.other`, the other side of a rule, and `Slot.Refuses`, the error of reading a token on a
  side;
* `Entry.side`, a side of an entry, and `Entry.isBuilt`, that it can be used;

and proves `ofEntries_lost_element`: an entry that lost an element keeps the side it lost it from,
and becomes a rule just if no report says that the other side cost it.
-/

namespace MailRules

def Slot.other : Slot → Slot
  | .condition => .action
  | .action => .condition

/-- An error of reading a token on one side of a rule. -/
def Slot.Refuses [PatternEngine] : Slot → String → RuleError → Prop
  | .condition, token, e => Condition.parse token = .error e
  | .action, token, e => Action.parse token = .error e

/-! ## Sides of an entry -/

namespace Spec

variable {α : Type} (parse : String → Except RuleError α)

/-- An element is lost by a list that is not nested too deep, and is one of its tokens. -/
theorem of_mem_losses_element {s : Spec} {d : Drop} (h : d ∈ losses parse s)
    (hloss : d.loss = .element) :
    s.isList = true ∧ s.depth ≤ maxDepth ∧ d.value ∈ s.leaves ∧ parse d.value = .error d.error := by
  unfold losses at h
  split at h
  · obtain rfl := List.mem_singleton.1 h
    cases hloss
  · next hdepth =>
      cases s with
      | leaf token =>
          have hrule := loss_of_mem_rejected parse h
          rw [hloss] at hrule
          cases hrule
      | list items =>
          rcases List.mem_filterMap.1 h with ⟨token, htoken, hdrop⟩
          cases hparse : parse token with
          | ok a => simp [hparse] at hdrop
          | error e =>
              obtain rfl : (⟨token, e, .element⟩ : Drop) = d := by simpa [hparse] using hdrop
              exact ⟨rfl, Nat.not_lt.1 hdepth, htoken, hparse⟩

end Spec

namespace Entry

variable [PatternEngine]

def isBuilt : Slot → Entry → Bool
  | .condition, e => (Side.condition e.1).built.isSome
  | .action, e => (Side.action e.2).built.isSome

theorem isBuilt_iff (slot : Slot) (e : Entry) :
    isBuilt slot e = true ↔ ∀ d ∈ losses slot e, d.loss ≠ .rule := by
  cases slot with
  | condition => rw [losses_condition]; exact Side.isSome_built_iff Test.parse e.1
  | action => rw [losses_action]; exact Side.isSome_built_iff Change.parse e.2

theorem isSome_rule?_eq (slot : Slot) (e : Entry) :
    (rule? e).isSome = (isBuilt slot e && isBuilt slot.other e) := by
  have hboth : (rule? e).isSome = (isBuilt .condition e && isBuilt .action e) := by
    simp only [rule?, isBuilt]
    cases (Side.condition e.1).built <;> cases (Side.action e.2).built <;> rfl
  cases slot with
  | condition => exact hboth
  | action => rw [hboth, Bool.and_comm]; rfl

def side : Slot → Entry → Spec
  | .condition, e => e.1
  | .action, e => e.2

/-- What a side loses by elements is among its tokens, and the side is built all the same. -/
theorem of_mem_losses_element {slot : Slot} {e : Entry} {d : Drop} (h : d ∈ losses slot e)
    (hloss : d.loss = .element) :
    d.value ∈ (side slot e).leaves ∧ slot.Refuses d.value d.error ∧ isBuilt slot e = true := by
  cases slot with
  | condition =>
      rcases Spec.of_mem_losses_element Condition.parse h hloss with ⟨hlist, hdepth, hvalue, herror⟩
      rcases Side.exists_built_of_list Test.parse hlist hdepth with ⟨c, hc, _⟩
      exact ⟨hvalue, herror, by simp [isBuilt, Side.condition, hc]⟩
  | action =>
      rcases Spec.of_mem_losses_element Action.parse h hloss with ⟨hlist, hdepth, hvalue, herror⟩
      rcases Side.exists_built_of_list Change.parse hlist hdepth with ⟨a, ha, _⟩
      exact ⟨hvalue, herror, by simp [isBuilt, Side.action, ha]⟩

end Entry

/-! ## Documents -/

namespace Compiled

variable [PatternEngine] {es : List Entry}

theorem mem_diagnostics_iff {d : Diagnostic} : d ∈ (ofEntries es).diagnostics ↔
    ∃ e, es[d.entry]? = some e ∧ d.drop ∈ Entry.losses d.slot e := by
  constructor
  · intro h
    have hreports := h
    rw [ofEntries, diagnostics_ofEntriesFrom] at hreports
    rcases List.mem_flatMap.1 hreports with ⟨⟨e, n⟩, hp, hd⟩
    have hentry : d.entry = n := Entry.entry_of_mem_reports hd
    have hn : es[d.entry]? = some e := by
      rw [hentry]
      exact List.mem_zipIdx_iff_getElem?.1 hp
    -- what is reported about its entry and its side are the losses of that side, and it is one of
    -- them
    have habout : d ∈ (ofEntries es).about d.entry d.slot := mem_about.2 ⟨h, rfl, rfl⟩
    rw [about_ofEntries hn] at habout
    rcases List.mem_map.1 habout with ⟨drop, hdrop, hsame⟩
    exact ⟨e, hn, by rw [← hsame]; exact hdrop⟩
  · rintro ⟨e, hn, hdrop⟩
    have habout : d ∈ (ofEntries es).about d.entry d.slot := by
      rw [about_ofEntries hn]
      exact List.mem_map.2 ⟨d.drop, hdrop, rfl⟩
    exact (mem_about.1 habout).1

/-- A side can be used unless a report on it says that the rule is lost. -/
theorem isBuilt_iff_reports {n : Nat} {e : Entry} (h : es[n]? = some e) (slot : Slot) :
    Entry.isBuilt slot e = true ↔
      ∀ d ∈ (ofEntries es).diagnostics, d.entry = n → d.slot = slot → d.drop.loss ≠ .rule := by
  rw [Entry.isBuilt_iff]
  constructor
  · rintro hkept d hd rfl rfl
    rcases mem_diagnostics_iff.1 hd with ⟨e', he', hdrop⟩
    obtain rfl : e = e' := Option.some.inj (h.symm.trans he')
    exact hkept d.drop hdrop
  · intro hkept drop hdrop
    exact hkept ⟨n, slot, drop⟩ (mem_diagnostics_iff.2 ⟨e, h, hdrop⟩) rfl rfl

end Compiled

open Compiled in
/-- An element that is reported as lost is a token of the entry that cannot be read, and the side it
stood on is built without it.  The entry becomes a rule just if no report says that its other side
cost the rule. -/
theorem ofEntries_lost_element [PatternEngine] {es : List Entry} {d : Diagnostic}
    (hd : d ∈ (ofEntries es).diagnostics) (hloss : d.drop.loss = .element) :
    (ofEntries es).rules = es.filterMap Entry.rule? ∧
      ∃ e, es[d.entry]? = some e ∧ d.drop.value ∈ (e.side d.slot).leaves ∧
        d.slot.Refuses d.drop.value d.drop.error ∧ Entry.isBuilt d.slot e = true ∧
        ((Entry.rule? e).isSome = true ↔ ∀ d' ∈ (ofEntries es).diagnostics,
          d'.entry = d.entry → d'.slot = d.slot.other → d'.drop.loss ≠ .rule) := by
  refine ⟨rules_ofEntriesFrom es 0, ?_⟩
  rcases mem_diagnostics_iff.1 hd with ⟨e, hentry, hdrop⟩
  rcases Entry.of_mem_losses_element hdrop hloss with ⟨hvalue, hrefused, hbuilt⟩
  refine ⟨e, hentry, hvalue, hrefused, hbuilt, ?_⟩
  rw [Entry.isSome_rule?_eq d.slot, hbuilt, Bool.true_and]
  exact isBuilt_iff_reports hentry d.slot.other

open Compiled in
/-- The condition can be used, so that the rule is kept without the second action. -/
theorem ofEntries_lost_element_kept :
    let es : List Entry := [(.leaf "inbox", .list [.leaf "star", .leaf "nope"])]
    let d : Diagnostic := ⟨0, .action, ⟨"nope", .unknownKeyword .action "nope" "nope", .element⟩⟩
    d ∈ (ofEntries es).diagnostics ∧ d.drop.loss = .element ∧
      ∃ e, es[0]? = some e ∧ (Entry.rule? e).isSome = true := by
  intro es d
  have hd : d ∈ (ofEntries es).diagnostics := by decide +kernel
  have hloss : d.drop.loss = .element := rfl
  rcases ofEntries_lost_element hd hloss with ⟨_, e, hentry, _, _, _, hkept⟩
  refine ⟨hd, hloss, e, hentry, hkept.2 ?_⟩
  decide +kernel

open Compiled in
/-- The condition cannot be used, so that there is no rule, and the second action is reported as an
element that was lost. -/
theorem ofEntries_lost_element_and_rule :
    let es : List Entry := [(.leaf "bogus", .list [.leaf "star", .leaf "nope"])]
    let d : Diagnostic := ⟨0, .action, ⟨"nope", .unknownKeyword .action "nope" "nope", .element⟩⟩
    d ∈ (ofEntries es).diagnostics ∧ d.drop.loss = .element ∧ (ofEntries es).rules.isEmpty = true := by
  decide +kernel

end MailRules

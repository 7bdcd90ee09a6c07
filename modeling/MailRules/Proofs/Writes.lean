import MailRules.Proofs.Leaves
import MailRules.Proofs.Pass

/-!
# Writes — what a pass does to one label

Seen from one label a change adds it, takes it away or leaves it alone, and whatever changes come
one after the other, the last that does not leave it alone decides.  This file defines:

* `Change.effect?`, what a change does to a label;
* `RuleSet.carriedOut`, the changes that are carried out in a pass, in order;

and proves `RuleSet.pass_writes`: after a pass a label is there if the last of these changes that
writes it adds it, or if none writes it and it was there before; and the texts of the message stay
as they are.
-/

namespace MailRules

/-! ## Labels of a message -/

namespace Message

@[simp] theorem hasLabel_addLabel (m : Message) (added l : String) :
    (m.addLabel added).hasLabel l = if l = added then true else m.hasLabel l := by
  by_cases h : l = added <;> simp [hasLabel, addLabel, StringSet.mem_insert, h]

@[simp] theorem hasLabel_removeLabel (m : Message) (removed l : String) :
    (m.removeLabel removed).hasLabel l = if l = removed then false else m.hasLabel l := by
  by_cases h : l = removed <;> simp [hasLabel, removeLabel, StringSet.mem_erase, h]

@[simp] theorem hasLabel_clearLabels (m : Message) (l : String) :
    m.clearLabels.hasLabel l = false := by
  simp [hasLabel, clearLabels, StringSet.not_mem_empty]

/-- Two labels are written at once, which is no matter as long as they are different. -/
theorem hasLabel_addLabel_removeLabel {added removed : String} (h : added ≠ removed) (m : Message)
    (l : String) : ((m.addLabel added).removeLabel removed).hasLabel l =
      (if l = added then some true else if l = removed then some false else none).getD
        (m.hasLabel l) := by
  by_cases hadded : l = added
  · simp [hadded, h]
  · by_cases hremoved : l = removed
    · simp [hremoved, Ne.symm h]
    · simp [hadded, hremoved]

/-- Two messages that differ in their labels at most. -/
def SameTexts (m n : Message) : Prop := n = { m with labels := n.labels }

theorem SameTexts.refl (m : Message) : SameTexts m m := rfl

theorem SameTexts.trans {m n o : Message} (h : SameTexts m n) (h' : SameTexts n o) :
    SameTexts m o := by
  unfold SameTexts at h h'
  rw [h', h]
  rfl

theorem SameTexts.field_eq {m n : Message} (h : SameTexts m n) (f : TextField) :
    n.field f = m.field f := by
  rw [h]
  cases f <;> rfl

theorem SameTexts.body_eq {m n : Message} (h : SameTexts m n) : n.body = m.body := by
  rw [h]

end Message

/-! ## One change -/

namespace Change

/-- What a change does to a label: it adds it, takes it away, or leaves it alone. -/
def effect? (c : Change) (l : String) : Option Bool :=
  match c.kind, c.inverted with
  | .label, false => if c.parameter = some l then some true else none
  | .label, true =>
      if c.parameter = some Label.wildcard ∨ c.parameter = some l then some false else none
  | .inbox, inverted => if l = Label.inbox then some !inverted else none
  | .unread, inverted => if l = Label.unread then some !inverted else none
  | .read, inverted => if l = Label.unread then some inverted else none
  | .star, inverted => if l = Label.starred then some inverted else none
  | .spam, false =>
      if l = Label.spam then some true else if l = Label.inbox then some false else none
  | .spam, true => if l = Label.spam then some false else none
  | .delete, false =>
      if l = Label.deleted then some true else if l = Label.inbox then some false else none
  | .delete, true => if l = Label.deleted then some false else none

theorem hasLabel_apply (c : Change) (m : Message) (l : String) :
    (c.apply m).hasLabel l = (c.effect? l).getD (m.hasLabel l) := by
  rcases c with ⟨kind, inverted, parameter⟩
  cases kind with
  | label =>
      cases parameter with
      | none => cases inverted <;> simp [apply, effect?]
      | some p =>
          cases inverted with
          | false =>
              by_cases hp : p = l
              · simp [apply, effect?, hp]
              · have hl : l ≠ p := Ne.symm hp
                simp [apply, effect?, hp, hl]
          | true =>
              by_cases hall : p = Label.wildcard
              · simp [apply, effect?, hall]
              · by_cases hp : p = l
                · subst hp
                  simp [apply, effect?, hall]
                · have hl : l ≠ p := Ne.symm hp
                  simp [apply, effect?, hall, hp, hl]
  | inbox => cases inverted <;> by_cases hl : l = Label.inbox <;> simp [apply, effect?, hl]
  | unread => cases inverted <;> by_cases hl : l = Label.unread <;> simp [apply, effect?, hl]
  | read => cases inverted <;> by_cases hl : l = Label.unread <;> simp [apply, effect?, hl]
  | star => cases inverted <;> by_cases hl : l = Label.starred <;> simp [apply, effect?, hl]
  | spam =>
      cases inverted with
      | false => exact Message.hasLabel_addLabel_removeLabel (by decide) m l
      | true => by_cases hl : l = Label.spam <;> simp [apply, effect?, hl]
  | delete =>
      cases inverted with
      | false => exact Message.hasLabel_addLabel_removeLabel (by decide) m l
      | true => by_cases hl : l = Label.deleted <;> simp [apply, effect?, hl]

theorem sameTexts_apply (c : Change) (m : Message) : Message.SameTexts m (c.apply m) := by
  rcases c with ⟨kind, inverted, parameter⟩
  cases kind with
  | label =>
      cases parameter with
      | none => rfl
      | some p =>
          simp only [apply]
          split
          · split <;> rfl
          · rfl
  | _ => cases inverted <;> rfl

/-! ## Changes one after the other -/

/-- Of several changes the last that writes a label decides. -/
theorem hasLabel_foldl_apply (cs : List Change) (l : String) : ∀ m : Message,
    (cs.foldl (fun m c => c.apply m) m).hasLabel l =
      (cs.filterMap fun c => c.effect? l).getLast?.getD (m.hasLabel l) := by
  induction cs with
  | nil =>
      intro m
      rfl
  | cons c cs ih =>
      intro m
      rw [List.foldl_cons, ih, hasLabel_apply, List.filterMap_cons]
      cases c.effect? l with
      | none => rfl
      | some added =>
          -- this write counts only if no later one follows
          simp [List.getLast?_cons]

theorem sameTexts_foldl_apply (cs : List Change) : ∀ m : Message,
    Message.SameTexts m (cs.foldl (fun m c => c.apply m) m) := by
  induction cs with
  | nil =>
      intro m
      exact Message.SameTexts.refl m
  | cons c cs ih =>
      intro m
      exact (sameTexts_apply c m).trans (ih (c.apply m))

end Change

/-! ## Passes -/

namespace RuleSet

variable [PatternEngine]

/-- The changes of the rule at a position, from left to right. -/
def changesAt (rules : RuleSet) (n : Nat) : List Change :=
  match rules[n]? with
  | some r => r.action.leaves
  | none => []

/-- The changes that are carried out in a pass, in order. -/
def carriedOut (rules : RuleSet) (m : Message) : List Change :=
  (rules.pass m).fired.flatMap (changesAt rules)

/-- The changes are given by position, since the rules that are still to come keep theirs. -/
theorem message_passFrom_eq_foldl (changes : Nat → List Change) (rules : List Rule) :
    ∀ (position : Nat) (m : Message),
      (∀ n r, rules[n]? = some r → changes (position + n) = r.action.leaves) →
        (passFrom position rules m).message =
          ((passFrom position rules m).fired.flatMap changes).foldl (fun m c => c.apply m) m := by
  induction rules with
  | nil =>
      intro position m _
      rfl
  | cons r rules ih =>
      intro position m hchanges
      have hfirst : changes position = r.action.leaves := hchanges 0 r rfl
      have hlater := ih (position + 1) (r.apply m) (by
        intro n r' hr'
        have hn := hchanges (n + 1) r' hr'
        rwa [← Nat.add_assoc, Nat.add_right_comm] at hn)
      cases hfires : r.fires m with
      | true =>
          -- the first rule's changes come first, and the later rules go on from what they leave
          have happly : r.apply m = r.action.leaves.foldl (fun m c => c.apply m) m := by
            simp only [Rule.apply, hfires, if_true]
            exact Action.apply_eq_foldl_leaves r.action m
          simp only [passFrom, hfires, if_true, List.flatMap_cons, List.foldl_append, hfirst]
          rw [← happly]
          exact hlater
      | false =>
          have happly : r.apply m = m := by
            simp [Rule.apply, hfires]
          simp only [happly] at hlater
          simpa [passFrom, hfires, happly] using hlater

theorem message_pass_eq_foldl (rules : RuleSet) (m : Message) :
    (rules.pass m).message = (rules.carriedOut m).foldl (fun m c => c.apply m) m := by
  refine message_passFrom_eq_foldl (changesAt rules) rules 0 m ?_
  intro n r hr
  simp [changesAt, hr]

/-- After a pass a label is there if the last change that writes it adds it, or if no change writes
it and it was there before.  The texts of the message are the same as before. -/
theorem pass_writes (rules : RuleSet) (m : Message) :
    (∀ l : String, l ∈ (rules.pass m).message.labels ↔
      ((rules.carriedOut m).filterMap fun c => c.effect? l).getLast? = some true ∨
        (∀ c ∈ rules.carriedOut m, c.effect? l = none) ∧ l ∈ m.labels) ∧
      (∀ f : TextField, (rules.pass m).message.field f = m.field f) ∧
      (rules.pass m).message.body = m.body := by
  have htexts : Message.SameTexts m (rules.pass m).message := by
    rw [message_pass_eq_foldl]
    exact Change.sameTexts_foldl_apply _ m
  refine ⟨?_, htexts.field_eq, htexts.body_eq⟩
  intro l
  have hlabel : (rules.pass m).message.hasLabel l =
      ((rules.carriedOut m).filterMap fun c => c.effect? l).getLast?.getD (m.hasLabel l) := by
    rw [message_pass_eq_foldl]
    exact Change.hasLabel_foldl_apply _ l m
  have hmem (n : Message) : l ∈ n.labels ↔ n.hasLabel l = true := by
    simp [Message.hasLabel]
  have hunwritten : (∀ c ∈ rules.carriedOut m, c.effect? l = none) ↔
      ((rules.carriedOut m).filterMap fun c => c.effect? l).getLast? = none := by
    rw [List.getLast?_eq_none_iff, List.filterMap_eq_nil_iff]
  rw [hmem, hmem, hlabel, hunwritten]
  cases ((rules.carriedOut m).filterMap fun c => c.effect? l).getLast? with
  | none => simp
  | some added => simp

end RuleSet
end MailRules

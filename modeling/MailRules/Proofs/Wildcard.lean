import MailRules.Proofs.NormalForm
import MailRules.Proofs.Writes

/-!
# Wildcard — a label that no pass brings

The wildcard stands for every label where labels are taken away, and a token that would add it
cannot be read.  A message may still come with a label of this name.  This file defines:

* `RuleSet.midway`, the message at any moment of a pass, between one change and the next;
* `Change.clearing`, the change that takes every label away;

and proves `RuleSet.midway_induction`, by which a property that every change of a pass keeps holds
at every moment of it, and from it `Compiled.wildcard_never_brought`: a message that comes without
the wildcard is without it at every moment of a pass, and one that comes with it loses it only where
all its labels are taken away.
-/

namespace MailRules

/-! ## Moments of a pass -/

namespace RuleSet

variable [PatternEngine] (rules : RuleSet) (m : Message)

theorem before_succ (n : Nat) : rules.before m (n + 1) =
    match rules[n]? with
    | some r => r.apply (rules.before m n)
    | none => rules.before m n := by
  unfold before
  rw [List.take_add_one]
  cases rules[n]? with
  | none => simp
  | some r => simp

theorem before_succ_of_fired {n : Nat} (hn : n ∈ (rules.pass m).fired) :
    rules.before m (n + 1) = (rules.changesAt n).foldl (fun m c => c.apply m) (rules.before m n) := by
  rcases mem_fired_pass.1 hn with ⟨r, hr, hfires⟩
  simp only [before_succ, changesAt, hr, Rule.apply, hfires, if_true]
  exact Action.apply_eq_foldl_leaves r.action _

theorem before_succ_of_not_fired {n : Nat} (hn : n ∉ (rules.pass m).fired) :
    rules.before m (n + 1) = rules.before m n := by
  rw [before_succ]
  cases hr : rules[n]? with
  | none => rfl
  | some r =>
      have hquiet : r.fires (rules.before m n) ≠ true := by
        intro hfires
        exact hn (mem_fired_pass.2 ⟨r, hr, hfires⟩)
      simp [Rule.apply, hquiet]

/-- The message in the course of a pass, when so many changes of the rule at a position are done. -/
def midway (n k : Nat) : Message :=
  ((rules.changesAt n).take k).foldl (fun m c => c.apply m) (rules.before m n)

@[simp] theorem midway_zero (n : Nat) : rules.midway m n 0 = rules.before m n := rfl

theorem midway_succ {n k : Nat} {c : Change} (hc : (rules.changesAt n)[k]? = some c) :
    rules.midway m n (k + 1) = c.apply (rules.midway m n k) := by
  simp [midway, List.take_add_one, hc]

theorem midway_of_length_le {n k : Nat} (hk : (rules.changesAt n).length ≤ k) :
    rules.midway m n k = (rules.changesAt n).foldl (fun m c => c.apply m) (rules.before m n) := by
  rw [midway, List.take_of_length_le hk]

/-- What holds of a message at first, and is kept by every change that is carried out, holds at
every moment of a pass. -/
theorem midway_induction {P : Message → Prop} (hfirst : P m)
    (hkeep : ∀ n ∈ (rules.pass m).fired, ∀ k c, (rules.changesAt n)[k]? = some c →
      P (rules.midway m n k) → P (c.apply (rules.midway m n k))) :
    (∀ n, P (rules.before m n)) ∧ ∀ n ∈ (rules.pass m).fired, ∀ k, P (rules.midway m n k) := by
  -- within one rule, by induction on the number of changes that are done
  have hrule : ∀ n ∈ (rules.pass m).fired, P (rules.before m n) → ∀ k, P (rules.midway m n k) := by
    intro n hn hbefore k
    induction k with
    | zero => simpa using hbefore
    | succ k ih =>
        cases hc : (rules.changesAt n)[k]? with
        | some c =>
            rw [midway_succ rules m hc]
            exact hkeep n hn k c hc ih
        | none =>
            -- all changes of the rule are done already
            have hlength : (rules.changesAt n).length ≤ k := List.getElem?_eq_none_iff.1 hc
            rw [midway_of_length_le rules m (Nat.le_succ_of_le hlength),
              ← midway_of_length_le rules m hlength]
            exact ih
  have hbefore : ∀ n, P (rules.before m n) := by
    intro n
    induction n with
    | zero => exact hfirst
    | succ n ih =>
        by_cases hn : n ∈ (rules.pass m).fired
        · have hend := hrule n hn ih (rules.changesAt n).length
          rw [midway_of_length_le rules m (Nat.le_refl _)] at hend
          rw [before_succ_of_fired rules m hn]
          exact hend
        · rw [before_succ_of_not_fired rules m hn]
          exact ih
  exact ⟨hbefore, fun n hn => hrule n hn (hbefore n)⟩

end RuleSet

/-! ## Changes of the wildcard -/

namespace Change

/-- Takes every label away. -/
def clearing : Change := ⟨.label, true, some Label.wildcard⟩

theorem labels_apply_clearing (m : Message) : (clearing.apply m).labels = StringSet.empty := rfl

/-- The other kinds of change write labels of their own, none of which is the wildcard. -/
theorem kind_of_effect?_wildcard {c : Change} {added : Bool}
    (h : c.effect? Label.wildcard = some added) :
    c.kind = .label ∧ c.inverted = !added ∧ c.parameter = some Label.wildcard := by
  have hother : Label.wildcard ≠ Label.inbox ∧ Label.wildcard ≠ Label.unread ∧
      Label.wildcard ≠ Label.starred ∧ Label.wildcard ≠ Label.spam ∧
        Label.wildcard ≠ Label.deleted := by
    decide
  rcases c with ⟨kind, inverted, parameter⟩
  cases kind <;> cases inverted <;> cases added <;> simp_all [effect?]

theorem eq_clearing {c : Change} (h : c.effect? Label.wildcard = some false) : c = clearing := by
  rcases c with ⟨kind, inverted, parameter⟩
  rcases kind_of_effect?_wildcard h with ⟨hkind, hinverted, hparameter⟩
  simp only at hkind hinverted hparameter
  rw [hkind, hinverted, hparameter]
  rfl

/-- A token that would add the wildcard cannot be read. -/
theorem effect?_wildcard_ne_of_parse {token : String} {c : Change} (h : parse token = .ok c) :
    c.effect? Label.wildcard ≠ some true := by
  intro hadds
  rcases kind_of_effect?_wildcard hadds with ⟨hkind, hinverted, hparameter⟩
  rcases parse_eq_ok_iff.1 h with ⟨d, _, hd⟩
  have hallowed : c.IsAllowed := (ofDescriptor_eq_ok_iff.1 hd).2.2.2
  simp [IsAllowed, hkind, hinverted, hparameter] at hallowed

end Change

/-! ## Passes of a compiled document -/

namespace Compiled

variable [PatternEngine]

/-- Whatever a compiled document changes was read from some token of it. -/
theorem exists_token_of_mem_changesAt {es : List Entry} {n : Nat} {c : Change}
    (hc : c ∈ RuleSet.changesAt (ofEntries es).rules n) : ∃ token, Change.parse token = .ok c := by
  unfold RuleSet.changesAt at hc
  cases hr : (ofEntries es).rules[n]? with
  | none => simp [hr] at hc
  | some r =>
      simp only [hr] at hc
      have hmem : r ∈ es.filterMap Entry.rule? := by
        have hmem := List.mem_of_getElem? hr
        rwa [ofEntries, rules_ofEntriesFrom] at hmem
      rcases List.mem_filterMap.1 hmem with ⟨e, _, he⟩
      rcases Side.built_eq_some Change.parse (Entry.rule?_eq_some_iff.1 he).2 with ⟨_, drops, hbuilt⟩
      rw [Side.leaves_of_buildNested Change.parse hbuilt] at hc
      rcases List.mem_filterMap.1 hc with ⟨token, _, htoken⟩
      refine ⟨token, ?_⟩
      cases hparse : Change.parse token with
      | error e => simp [hparse, Except.toOption] at htoken
      | ok c' =>
          obtain rfl : c' = c := by simpa [hparse, Except.toOption] using htoken
          rfl

/-- A message that comes without the wildcard is without it before every rule, before and after
every change, and at the end.  One that comes with it and ends without it had it up to a change that
took every label away. -/
theorem wildcard_never_brought (es : List Entry) (m : Message) :
    let rules := (ofEntries es).rules
    (Label.wildcard ∉ m.labels →
      (∀ n, Label.wildcard ∉ (rules.before m n).labels) ∧
        (∀ n ∈ (rules.pass m).fired, ∀ k, Label.wildcard ∉ (rules.midway m n k).labels) ∧
        Label.wildcard ∉ (rules.pass m).message.labels) ∧
      (Label.wildcard ∈ m.labels → Label.wildcard ∉ (rules.pass m).message.labels →
        ∃ n ∈ (rules.pass m).fired, ∃ k, (rules.changesAt n)[k]? = some Change.clearing ∧
          Label.wildcard ∈ (rules.midway m n k).labels ∧
          (rules.midway m n (k + 1)).labels = StringSet.empty) := by
  intro rules
  have hmem (n : Message) : Label.wildcard ∈ n.labels ↔ n.hasLabel Label.wildcard = true := by
    simp [Message.hasLabel]
  simp only [hmem]
  refine ⟨?_, ?_⟩
  · intro hwithout
    have hmoments := RuleSet.midway_induction rules m
      (P := fun m => ¬ m.hasLabel Label.wildcard = true) hwithout (by
        intro n _ k c hc hlacks
        rcases exists_token_of_mem_changesAt (List.mem_of_getElem? hc) with ⟨token, htoken⟩
        have hadds := Change.effect?_wildcard_ne_of_parse htoken
        rw [Change.hasLabel_apply]
        cases heffect : c.effect? Label.wildcard with
        | none => simpa using hlacks
        | some added => cases added <;> simp_all)
    refine ⟨hmoments.1, hmoments.2, ?_⟩
    rw [RuleSet.message_pass]
    exact hmoments.1 rules.length
  · intro hwith hlost
    refine Classical.byContradiction fun hnever => ?_
    -- if no change took every label away, the wildcard would be there at every moment
    have hmoments := RuleSet.midway_induction rules m
      (P := fun m => m.hasLabel Label.wildcard = true) hwith (by
        intro n hn k c hc hhas
        rw [Change.hasLabel_apply]
        cases heffect : c.effect? Label.wildcard with
        | none => simpa using hhas
        | some added =>
            cases added with
            | true => rfl
            | false =>
                obtain rfl : c = Change.clearing := Change.eq_clearing heffect
                refine absurd ⟨n, hn, k, hc, hhas, ?_⟩ hnever
                rw [RuleSet.midway_succ rules m hc]
                exact Change.labels_apply_clearing _)
    rw [RuleSet.message_pass] at hlost
    exact hlost (hmoments.1 rules.length)

/-- The token that would add the wildcard is left out of the list, and the one that takes every
label away is carried out where it stands. -/
example : ((ofEntries [(.leaf "-inbox", .list [.leaf "label:a", .leaf "L:*", .list [.leaf "-l:*"],
    .leaf "label:b"])]).rules.pass { labels := StringSet.ofList ["*"] }).message.labels.toList =
      ["b"] := by
  cbv

end Compiled
end MailRules

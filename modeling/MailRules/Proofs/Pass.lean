import MailRules.Rule

/-!
# Pass — the steps of a pass

A pass is one rule after the other, each on the message as the rules before it left it.  This file
defines `RuleSet.before`, the message that a rule is tried on, and proves:

* `RuleSet.message_pass`, the message after a pass;
* `RuleSet.mem_fired_pass`, by which the fired positions are those of the rules that fire on the
  message they are tried on;
* `RuleSet.pairwise_fired_pass`, by which the fired positions ascend;
* `RuleSet.pass_append`, by which a pass of some rules and then of more is a pass of all of them.
-/

namespace MailRules
namespace RuleSet

variable [PatternEngine]

/-- The message as the rules before a position leave it. -/
def before (rules : RuleSet) (m : Message) (n : Nat) : Message :=
  (rules.take n).foldl (fun m r => r.apply m) m

@[simp] theorem before_zero (rules : RuleSet) (m : Message) : before rules m 0 = m := rfl

@[simp] theorem before_cons_succ (r : Rule) (rules : RuleSet) (m : Message) (n : Nat) :
    before (r :: rules) m (n + 1) = before rules (r.apply m) n := rfl

/-! ## Passes from a position -/

theorem message_passFrom (rules : List Rule) : ∀ (position : Nat) (m : Message),
    (passFrom position rules m).message = before rules m rules.length := by
  induction rules with
  | nil =>
      intro position m
      rfl
  | cons r rules ih =>
      intro position m
      rw [List.length_cons, before_cons_succ, ← ih (position + 1)]
      simp only [passFrom]
      split <;> rfl

theorem mem_fired_passFrom (rules : List Rule) : ∀ (position : Nat) (m : Message) (k : Nat),
    k ∈ (passFrom position rules m).fired ↔
      ∃ n r, k = position + n ∧ rules[n]? = some r ∧ r.fires (before rules m n) = true := by
  induction rules with
  | nil =>
      intro position m k
      simp [passFrom]
  | cons r rules ih =>
      intro position m k
      have hlater : k ∈ (passFrom (position + 1) rules (r.apply m)).fired ↔
          ∃ n r', k = position + (n + 1) ∧ rules[n]? = some r' ∧
            r'.fires (before rules (r.apply m) n) = true := by
        rw [ih (position + 1) (r.apply m) k]
        simp only [Nat.add_assoc, Nat.add_comm 1]
      constructor
      · intro hk
        -- a fired position is that of the first rule or that of a later one
        have hk' : (k = position ∧ r.fires m = true) ∨
            k ∈ (passFrom (position + 1) rules (r.apply m)).fired := by
          simp only [passFrom] at hk
          split at hk
          · next hr =>
              rcases List.mem_cons.1 hk with hk | hk
              · exact .inl ⟨hk, hr⟩
              · exact .inr hk
          · exact .inr hk
        rcases hk' with ⟨rfl, hr⟩ | hk'
        · exact ⟨0, r, rfl, rfl, hr⟩
        · rcases hlater.1 hk' with ⟨n, r', hn, hr', hfires⟩
          exact ⟨n + 1, r', hn, hr', hfires⟩
      · rintro ⟨n, r', hn, hr', hfires⟩
        simp only [passFrom]
        cases n with
        | zero =>
            cases hr'
            rw [before_zero] at hfires
            simp [hfires, hn]
        | succ n =>
            have hk := hlater.2 ⟨n, r', hn, hr', hfires⟩
            split
            · exact List.mem_cons_of_mem _ hk
            · exact hk

theorem pairwise_fired_passFrom (rules : List Rule) : ∀ (position : Nat) (m : Message),
    (passFrom position rules m).fired.Pairwise (· < ·) := by
  induction rules with
  | nil =>
      intro position m
      exact .nil
  | cons r rules ih =>
      intro position m
      simp only [passFrom]
      split
      · -- the later rules have later positions
        refine List.pairwise_cons.2 ⟨?_, ih _ _⟩
        intro k hk
        rcases (mem_fired_passFrom rules (position + 1) (r.apply m) k).1 hk with ⟨n, _, hn, _⟩
        omega
      · exact ih _ _

/-! ## Passes -/

theorem message_pass (rules : RuleSet) (m : Message) :
    (rules.pass m).message = rules.before m rules.length :=
  message_passFrom rules 0 m

theorem mem_fired_pass {rules : RuleSet} {m : Message} {n : Nat} :
    n ∈ (rules.pass m).fired ↔ ∃ r, rules[n]? = some r ∧ r.fires (rules.before m n) = true := by
  unfold pass
  rw [mem_fired_passFrom]
  constructor
  · rintro ⟨k, r, hn, hr, hfires⟩
    obtain rfl : n = k := by omega
    exact ⟨r, hr, hfires⟩
  · rintro ⟨r, hr, hfires⟩
    exact ⟨n, r, (Nat.zero_add n).symm, hr, hfires⟩

theorem pairwise_fired_pass (rules : RuleSet) (m : Message) :
    (rules.pass m).fired.Pairwise (· < ·) :=
  pairwise_fired_passFrom rules 0 m

/-! ## Rules and more rules -/

/-- Where the positions start decides what the fired rules are called, and nothing else. -/
theorem fired_passFrom_add (k : Nat) (rules : List Rule) : ∀ (position : Nat) (m : Message),
    (passFrom (position + k) rules m).fired = (passFrom position rules m).fired.map (· + k) := by
  induction rules with
  | nil =>
      intro position m
      rfl
  | cons r rules ih =>
      intro position m
      have hnext : position + k + 1 = position + 1 + k := Nat.add_right_comm position k 1
      have hlater := ih (position + 1) (r.apply m)
      simp only [passFrom, hnext]
      split
      · simpa using hlater
      · exact hlater

theorem passFrom_append (rules more : List Rule) : ∀ (position : Nat) (m : Message),
    passFrom position (rules ++ more) m =
      ⟨(passFrom position rules m).fired ++
          (passFrom (position + rules.length) more (passFrom position rules m).message).fired,
        (passFrom (position + rules.length) more (passFrom position rules m).message).message⟩ := by
  induction rules with
  | nil =>
      intro position m
      rfl
  | cons r rules ih =>
      intro position m
      have hplace : position + (r :: rules).length = position + 1 + rules.length := by
        simp only [List.length_cons]
        omega
      have hlater := ih (position + 1) (r.apply m)
      simp only [List.cons_append, passFrom, hplace, hlater]
      split
      · rfl
      · rfl

/-- The later rules start on what the earlier ones leave, and their positions count on. -/
theorem pass_append (rules more : RuleSet) (m : Message) :
    pass (rules ++ more) m =
      ⟨(rules.pass m).fired ++ (more.pass (rules.pass m).message).fired.map (· + rules.length),
        (more.pass (rules.pass m).message).message⟩ := by
  have hfired := fired_passFrom_add rules.length more 0 (rules.pass m).message
  have hmessage : (passFrom (0 + rules.length) more (rules.pass m).message).message =
      (more.pass (rules.pass m).message).message := by
    simp only [pass, message_passFrom]
  calc
    pass (rules ++ more) m = _ := passFrom_append rules more 0 m
    _ = _ := by
      simp only [pass] at hfired hmessage ⊢
      rw [hfired, hmessage]

end RuleSet
end MailRules

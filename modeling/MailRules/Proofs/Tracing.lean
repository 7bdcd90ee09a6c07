import MailRules.Proofs.Pass
import MailRules.Trace

/-!
# Tracing — a traced pass is a pass

A pass that keeps a trace tries each condition to its end, where a plain pass stops at the first
item that fails.  This file defines `ConditionTrace.Records`, the relation of a condition to a trace
that tells how each part of it came out on a message, and proves:

* `ConditionTrace.records_of`, by which the trace of a condition records it;
* `ConditionTrace.matched_eq_holds`, by which any record of a condition has the outcome of the plain
  test;
* `Trace.pass_records`, which compares a traced pass with a plain one, step by step.
-/

namespace MailRules

/-! ## Conditions -/

namespace ConditionTrace

variable [PatternEngine]

mutual

/-- The trace has the shape of the condition.  At a test it tells the outcome on the message before
inversion and the outcome after it; at a list it tells whether all of its items matched. -/
def Records (m : Message) : Condition → ConditionTrace → Prop
  | .leaf t, .test descriptor tested matched =>
      descriptor = t.text ∧ tested = t.tested m ∧ matched = (tested ^^ t.inverted)
  | .list items, .list matched traces =>
      RecordsAll m items traces ∧ (matched = true ↔ ∀ t ∈ traces, t.matched = true)
  | _, _ => False

def RecordsAll (m : Message) : List Condition → List ConditionTrace → Prop
  | [], [] => True
  | c :: cs, t :: ts => Records m c t ∧ RecordsAll m cs ts
  | _, _ => False

end

mutual

theorem records_of (m : Message) : ∀ c : Condition, Records m c (of m c)
  | .leaf t => by
      refine ⟨rfl, rfl, ?_⟩
      cases h : t.tested m <;> simp [Test.holds, h]
  | .list items => by
      refine ⟨recordsAll_ofAll m items, ?_⟩
      exact List.all_eq_true

theorem recordsAll_ofAll (m : Message) : ∀ cs : List Condition, RecordsAll m cs (ofAll m cs)
  | [] => trivial
  | c :: cs => ⟨records_of m c, recordsAll_ofAll m cs⟩

end

mutual

/-- A record of a condition comes out as the condition does. -/
theorem matched_eq_holds {m : Message} : ∀ {c : Condition} {t : ConditionTrace},
    Records m c t → t.matched = c.holds m
  | .leaf x, .test descriptor tested matched, h => by
      rcases h with ⟨_, rfl, rfl⟩
      cases hx : x.tested m <;> simp [ConditionTrace.matched, Condition.holds, Test.holds, hx]
  | .list items, .list matched traces, h => by
      -- all traced items match exactly if the plain test does not stop early
      have hitems := forall_matched_iff_allHold h.1
      rw [← h.2] at hitems
      simpa [ConditionTrace.matched, Condition.holds] using Bool.eq_iff_iff.2 hitems

theorem forall_matched_iff_allHold {m : Message} :
    ∀ {cs : List Condition} {ts : List ConditionTrace},
      RecordsAll m cs ts → ((∀ t ∈ ts, t.matched = true) ↔ Condition.allHold m cs = true)
  | [], [], _ => by
      simp [Condition.allHold]
  | c :: cs, t :: ts, h => by
      have hfirst := matched_eq_holds h.1
      have hrest := forall_matched_iff_allHold h.2
      simp only [List.forall_mem_cons, Condition.allHold, Bool.and_eq_true, hfirst, hrest]

end

end ConditionTrace

/-! ## Passes -/

namespace Trace

variable [PatternEngine]

/-- What a traced pass keeps of a rule at a position, when it is tried on a message. -/
def stepOf (position : Nat) (r : Rule) (m : Message) : TraceStep :=
  ⟨position, r.condition.text, r.action.text, .of m r.condition, r.fires m⟩

theorem matched_of (m : Message) (c : Condition) : (ConditionTrace.of m c).matched = c.holds m :=
  ConditionTrace.matched_eq_holds (ConditionTrace.records_of m c)

theorem passFrom_cons (position : Nat) (r : Rule) (rules : List Rule) (m : Message) :
    passFrom position (r :: rules) m =
      (stepOf position r m :: (passFrom (position + 1) rules (r.apply m)).1,
        (passFrom (position + 1) rules (r.apply m)).2) := by
  simp only [passFrom, matched_of]
  rfl

theorem message_passFrom (rules : List Rule) : ∀ (position : Nat) (m : Message),
    (passFrom position rules m).2 = RuleSet.before rules m rules.length := by
  induction rules with
  | nil =>
      intro position m
      rfl
  | cons r rules ih =>
      intro position m
      rw [passFrom_cons, List.length_cons, RuleSet.before_cons_succ]
      exact ih (position + 1) (r.apply m)

theorem getElem?_passFrom (rules : List Rule) : ∀ (position : Nat) (m : Message) (n : Nat),
    (passFrom position rules m).1[n]? =
      rules[n]?.map fun r => stepOf (position + n) r (RuleSet.before rules m n) := by
  induction rules with
  | nil =>
      intro position m n
      rfl
  | cons r rules ih =>
      intro position m n
      rw [passFrom_cons]
      -- the first step is that of the first rule, the others are those of the rest one place on
      cases n with
      | zero => rfl
      | succ n =>
          have hplace : position + (n + 1) = position + 1 + n := by omega
          rw [List.getElem?_cons_succ, List.getElem?_cons_succ, RuleSet.before_cons_succ, hplace]
          exact ih (position + 1) (r.apply m) n

theorem length_passFrom (rules : List Rule) : ∀ (position : Nat) (m : Message),
    (passFrom position rules m).1.length = rules.length := by
  induction rules with
  | nil =>
      intro position m
      rfl
  | cons r rules ih =>
      intro position m
      rw [passFrom_cons, List.length_cons, List.length_cons, ih]

/-- The steps marked as fired are those of the rules that a plain pass finds to fire. -/
theorem fired_passFrom (rules : List Rule) : ∀ (position : Nat) (m : Message),
    ((passFrom position rules m).1.filter (·.fired)).map (·.index) =
      (RuleSet.passFrom position rules m).fired := by
  induction rules with
  | nil =>
      intro position m
      rfl
  | cons r rules ih =>
      intro position m
      have hrest := ih (position + 1) (r.apply m)
      rw [passFrom_cons]
      simp only [RuleSet.passFrom, List.filter_cons, stepOf]
      split
      · rw [List.map_cons, hrest]
      · exact hrest

theorem firedIndices_pass (rules : RuleSet) (m : Message) :
    (pass rules m).1.firedIndices = (rules.pass m).fired :=
  fired_passFrom rules 0 m

theorem fired_pass (rules : RuleSet) (m : Message) :
    (pass rules m).1.fired = (rules.pass m).fired.length := by
  have hlength := congrArg List.length (firedIndices_pass rules m)
  simpa [fired, firedIndices] using hlength

theorem message_pass (rules : RuleSet) (m : Message) :
    (pass rules m).2 = (rules.pass m).message := by
  have hplain := RuleSet.message_pass rules m
  exact (message_passFrom rules 0 m).trans hplain.symm

/-- A traced pass leaves the message that a plain pass leaves, and has one step for every rule.  The
step of a rule is marked as fired if the rule fires when the rules are applied one by one, and its
trace records the condition on the message as it was just before the rule.  The fired steps are
counted and listed as in a plain pass. -/
theorem pass_records (rules : RuleSet) (m : Message) :
    (pass rules m).2 = (rules.pass m).message ∧
      (pass rules m).1.steps.length = rules.length ∧
      (∀ n r, rules[n]? = some r → ∃ step, (pass rules m).1.steps[n]? = some step ∧ step.index = n ∧
        step.fired = r.fires (rules.before m n) ∧
        ConditionTrace.Records (rules.before m n) r.condition step.trace ∧
        step.trace.matched = r.condition.holds (rules.before m n)) ∧
      (pass rules m).1.fired = (rules.pass m).fired.length ∧
      (pass rules m).1.firedIndices.Pairwise (· < ·) ∧
      ∀ n, n ∈ (pass rules m).1.firedIndices ↔
        ∃ r, rules[n]? = some r ∧ r.fires (rules.before m n) = true := by
  refine ⟨?_, length_passFrom rules 0 m, ?_, ?_, ?_, ?_⟩
  · rw [RuleSet.message_pass]
    exact message_passFrom rules 0 m
  · intro n r hr
    refine ⟨stepOf n r (rules.before m n), ?_, rfl, rfl, ConditionTrace.records_of _ _, matched_of _ _⟩
    have hstep := getElem?_passFrom rules 0 m n
    rw [hr, Nat.zero_add] at hstep
    exact hstep
  · rw [← firedIndices_pass]
    simp [fired, firedIndices]
  · rw [firedIndices_pass]
    exact RuleSet.pairwise_fired_pass rules m
  · intro n
    rw [firedIndices_pass]
    exact RuleSet.mem_fired_pass

end Trace
end MailRules

import Mathlib.Data.List.Destutter
import MailRules.Fixture
import MailRules.Proofs.Effects

/-!
# Verdicts — what a fixture says of its cases

A case is written with lists of labels, and what is compared are sets: the labels that are expected
and those that a pass leaves.  So the verdict on a case is told by its texts and by which labels it
names, and the cases around it have no part in it.  This file defines:

* `MessageDraft.Alike` and `FixtureCase.Alike`, the same but for the order and the number of the
  labels;
* `FixtureCase.IsMet`, that a pass leaves just what is expected;
* `Fixture.CountHolds`, that there are as many diagnostics as the fixture says, if it says so;

and proves:

* `StringSet.toList_ofList`, by which a set keeps a list sorted, and of equal texts the first;
* `FixtureCase.passed_run` and `FixtureCase.Alike.run_eq`, on one case;
* `Fixture.verdicts`, on all cases and on the first thing that is wrong with a fixture.
-/

namespace MailRules

/-! ## Sets of listed texts -/

namespace StringSet

theorem ofList_eq_iff {ls ms : List String} : ofList ls = ofList ms ↔ ∀ l, l ∈ ls ↔ l ∈ ms := by
  constructor
  · intro h l
    calc
      l ∈ ls ↔ l ∈ ofList ls := mem_ofList.symm
      _ ↔ l ∈ ofList ms := by simp only [h]
      _ ↔ l ∈ ms := mem_ofList
  · intro h
    refine ext_mem fun l => ?_
    calc
      l ∈ ofList ls ↔ l ∈ ls := mem_ofList
      _ ↔ l ∈ ms := h l
      _ ↔ l ∈ ofList ms := mem_ofList.symm

/-- Of a run of equal texts one is kept, so that none is lost. -/
theorem mem_destutter {m : String} : ∀ {ls : List String}, m ∈ ls.destutter (· ≠ ·) ↔ m ∈ ls
  | [] => by simp
  | l :: ls => by
      suffices hbehind : ∀ l, m ∈ ls.destutter' (· ≠ ·) l ↔ m = l ∨ m ∈ ls by
        simpa [List.destutter_cons'] using hbehind l
      induction ls with
      | nil => simp
      | cons k ls ih =>
          intro l
          by_cases hne : l ≠ k
          · simp [List.destutter'_cons_pos ls hne, ih]
          · -- the text repeats the one before it
            obtain rfl : l = k := not_not.1 hne
            simp [List.destutter'_cons_neg ls hne, ih]

theorem ascending_destutter {ls : List String} (h : ls.Pairwise (· ≤ ·)) :
    (ls.destutter (· ≠ ·)).Pairwise (· < ·) := by
  have hordered : (ls.destutter (· ≠ ·)).IsChain (· ≤ ·) :=
    (h.sublist (List.destutter_sublist (· ≠ ·) ls)).isChain
  have hdifferent : (ls.destutter (· ≠ ·)).IsChain (· ≠ ·) := List.isChain_destutter (· ≠ ·) ls
  refine List.IsChain.pairwise (List.isChain_iff_forall_rel_of_append_cons_cons.2 ?_)
  -- of two neighbours the first is not greater than the second, and not equal to it
  intro k l before after hneighbours
  have hle := List.isChain_iff_forall_rel_of_append_cons_cons.1 hordered hneighbours
  have hne := List.isChain_iff_forall_rel_of_append_cons_cons.1 hdifferent hneighbours
  exact Std.lt_of_le_of_ne hle hne

/-- A set keeps its texts sorted, and one of each run of equal ones. -/
theorem toList_ofList (ls : List String) :
    (ofList ls).toList = (ls.mergeSort (· ≤ ·)).destutter (· ≠ ·) := by
  have hsorted : (ls.mergeSort (· ≤ ·)).Pairwise (· ≤ ·) := by
    simpa using List.pairwise_mergeSort' (· ≤ ·) ls
  refine (ofList ls).ascending.eq_of_mem_iff (ascending_destutter hsorted) fun l => ?_
  calc
    l ∈ ofList ls ↔ l ∈ ls := mem_ofList
    _ ↔ l ∈ ls.mergeSort (· ≤ ·) := List.mem_mergeSort.symm
    _ ↔ l ∈ (ls.mergeSort (· ≤ ·)).destutter (· ≠ ·) := mem_destutter.symm

end StringSet

/-! ## Cases -/

/-- The same texts, and the same labels in any order and number. -/
def MessageDraft.Alike (d e : MessageDraft) : Prop :=
  e = { d with labels := e.labels } ∧ ∀ l, l ∈ d.labels ↔ l ∈ e.labels

theorem MessageDraft.Alike.message_eq {d e : MessageDraft} (h : d.Alike e) :
    d.message = e.message := by
  rcases h with ⟨htexts, hlabels⟩
  have hset : StringSet.ofList d.labels = StringSet.ofList e.labels :=
    StringSet.ofList_eq_iff.2 hlabels
  calc
    d.message = { d with labels := e.labels }.message := by simp only [message, hset]
    _ = e.message := by simp only [← htexts]

namespace FixtureCase

/-- Cases on the same message that expect the same labels, whatever they are called. -/
def Alike (c d : FixtureCase) : Prop := c.draft.Alike d.draft ∧ ∀ l, l ∈ c.expect ↔ l ∈ d.expect

variable [PatternEngine] {rules : RuleSet} {c d : FixtureCase}

/-- The labels that a pass over the message of the case leaves are those that the case expects. -/
def IsMet (rules : RuleSet) (c : FixtureCase) : Prop :=
  ∀ l, l ∈ c.expect ↔ l ∈ (rules.pass c.draft.message).message.labels

theorem passed_run : (c.run rules).passed = true ↔ c.IsMet rules := by
  constructor
  · intro hpassed l
    have hsame : (rules.pass c.draft.message).message.labels = StringSet.ofList c.expect :=
      of_decide_eq_true hpassed
    simp only [hsame, StringSet.mem_ofList]
  · intro hmet
    refine decide_eq_true (StringSet.ext_mem fun l => ?_)
    exact (hmet l).symm.trans StringSet.mem_ofList.symm

theorem Alike.run_eq (h : c.Alike d) : c.run rules = { d.run rules with name := c.name } := by
  have hexpected : StringSet.ofList c.expect = StringSet.ofList d.expect :=
    StringSet.ofList_eq_iff.2 h.2
  simp only [run, hexpected, h.1.message_eq]

end FixtureCase

/-! ## Fixtures -/

namespace Fixture

variable [PatternEngine] {f : Fixture}

/-- If the fixture says how many diagnostics its rules give, it is right. -/
def CountHolds (f : Fixture) : Prop :=
  ∀ n, f.diagnostics = some n → f.compiled.diagnostics.length = n

theorem failure?_of_countHolds (h : f.CountHolds) :
    f.failure? = (f.run.find? fun r => !r.passed).map .result := by
  unfold failure?
  cases hcount : f.diagnostics with
  | none => rfl
  | some n => simp [h n hcount]

theorem failure?_of_not_countHolds (h : ¬ f.CountHolds) :
    ∃ n, f.diagnostics = some n ∧ f.compiled.diagnostics.length ≠ n ∧
      f.failure? = some (.diagnostics n) := by
  simp only [CountHolds, Classical.not_forall] at h
  rcases h with ⟨n, hcount, hwrong⟩
  exact ⟨n, hcount, hwrong, by simp [failure?, hcount, hwrong]⟩

theorem find?_run_eq_none_iff :
    (f.run.find? fun r => !r.passed) = none ↔ ∀ c ∈ f.cases, c.IsMet f.compiled.rules := by
  simp [run, FixtureCase.passed_run]

theorem find?_run_eq_some_iff {r : CaseResult} :
    (f.run.find? fun r => !r.passed) = some r ↔ ∃ before c after, f.cases = before ++ c :: after ∧
      (∀ b ∈ before, b.IsMet f.compiled.rules) ∧ ¬ c.IsMet f.compiled.rules ∧
      r = c.run f.compiled.rules := by
  have hfails (c : FixtureCase) :
      (!(c.run f.compiled.rules).passed) = true ↔ ¬ c.IsMet f.compiled.rules := by
    simp [← FixtureCase.passed_run]
  have hcases : (f.run.find? fun r => !r.passed) =
      (f.cases.find? fun c => !(c.run f.compiled.rules).passed).map
        (FixtureCase.run f.compiled.rules) :=
    List.find?_map
  simp only [hcases, Option.map_eq_some_iff, List.find?_eq_some_iff_append, hfails]
  constructor
  · rintro ⟨c, ⟨hunmet, before, after, hsplit, hmet⟩, rfl⟩
    refine ⟨before, c, after, hsplit, ?_, hunmet, rfl⟩
    intro b hb
    simpa [FixtureCase.passed_run] using hmet b hb
  · rintro ⟨before, c, after, hsplit, hmet, hunmet, rfl⟩
    refine ⟨c, ⟨hunmet, before, after, hsplit, ?_⟩, rfl⟩
    intro b hb
    simpa [FixtureCase.passed_run] using hmet b hb

theorem failure?_eq_none_iff :
    f.failure? = none ↔ f.CountHolds ∧ ∀ c ∈ f.cases, c.IsMet f.compiled.rules := by
  by_cases hcount : f.CountHolds
  · simp only [failure?_of_countHolds hcount, Option.map_eq_none_iff, find?_run_eq_none_iff, hcount,
      true_and]
  · rcases failure?_of_not_countHolds hcount with ⟨n, _, _, hfailure⟩
    simp [hfailure, hcount]

theorem failure?_eq_diagnostics_iff {n : Nat} : f.failure? = some (.diagnostics n) ↔
    f.diagnostics = some n ∧ f.compiled.diagnostics.length ≠ n := by
  constructor
  · intro h
    by_cases hcount : f.CountHolds
    · -- with the right number only a case can fail
      simp [failure?_of_countHolds hcount] at h
    · rcases failure?_of_not_countHolds hcount with ⟨m, hgiven, hwrong, hfailure⟩
      obtain rfl : m = n := by simpa [hfailure] using h
      exact ⟨hgiven, hwrong⟩
  · rintro ⟨hgiven, hwrong⟩
    simp [failure?, hgiven, hwrong]

theorem failure?_eq_result_iff {r : CaseResult} : f.failure? = some (.result r) ↔
    f.CountHolds ∧ ∃ before c after, f.cases = before ++ c :: after ∧
      (∀ b ∈ before, b.IsMet f.compiled.rules) ∧ ¬ c.IsMet f.compiled.rules ∧
      r = c.run f.compiled.rules := by
  by_cases hcount : f.CountHolds
  · simp only [failure?_of_countHolds hcount, Option.map_eq_some_iff, FixtureFailure.result.injEq,
      exists_eq_right, find?_run_eq_some_iff, hcount, true_and]
  · rcases failure?_of_not_countHolds hcount with ⟨n, _, _, hfailure⟩
    simp [hfailure, hcount]

/-- There is one result for each case, and it compares two sets: what is expected, reported as a
sorted list without repetitions, and what one pass leaves of the message of the case.  Cases that
are alike get the same verdict and the same two lists wherever they stand, in this fixture or in
another one with the same rules.  Nothing is wrong with a fixture just if the number of diagnostics
is the one it says, if it says one, and all cases are met; a wrong number is told before any case,
and of the cases that are not met the first. -/
theorem verdicts (f : Fixture) :
    f.run.length = f.cases.length ∧
      (∀ (i : Nat) (c : FixtureCase), f.cases[i]? = some c → ∃ r : CaseResult, f.run[i]? = some r ∧
        r.name = c.name ∧ r.expected.toList = (c.expect.mergeSort (· ≤ ·)).destutter (· ≠ ·) ∧
        r.actual = (f.compiled.rules.pass c.draft.message).message.labels ∧
        (r.passed = true ↔ c.IsMet f.compiled.rules)) ∧
      (∀ (g : Fixture) (i j : Nat) (c d : FixtureCase), g.entries = f.entries → f.cases[i]? = some c →
        g.cases[j]? = some d → c.Alike d → ∃ r s : CaseResult, f.run[i]? = some r ∧ g.run[j]? = some s ∧
          r.expected = s.expected ∧ r.actual = s.actual ∧ r.passed = s.passed) ∧
      (f.failure? = none ↔ f.CountHolds ∧ ∀ c ∈ f.cases, c.IsMet f.compiled.rules) ∧
      (∀ n, f.failure? = some (.diagnostics n) ↔
        f.diagnostics = some n ∧ f.compiled.diagnostics.length ≠ n) ∧
      ∀ r, f.failure? = some (.result r) ↔ f.CountHolds ∧ ∃ before c after,
        f.cases = before ++ c :: after ∧ (∀ b ∈ before, b.IsMet f.compiled.rules) ∧
          ¬ c.IsMet f.compiled.rules ∧ r = c.run f.compiled.rules := by
  refine ⟨List.length_map _, ?_, ?_, failure?_eq_none_iff, fun _ => failure?_eq_diagnostics_iff,
    fun _ => failure?_eq_result_iff⟩
  · intro i c hc
    refine ⟨c.run f.compiled.rules, by simp [run, hc], rfl, ?_, rfl, FixtureCase.passed_run⟩
    exact StringSet.toList_ofList c.expect
  · intro g i j c d hentries hc hd halike
    have hcompiled : g.compiled = f.compiled := congrArg Compiled.ofEntries hentries
    have hsame : c.run f.compiled.rules = { d.run g.compiled.rules with name := c.name } := by
      simp only [hcompiled, halike.run_eq]
    refine ⟨c.run f.compiled.rules, d.run g.compiled.rules, by simp [run, hc], by simp [run, hd], ?_⟩
    simp only [hsame, CaseResult.passed, and_self]

end Fixture

/-- Of two cases that are not met the first is told. -/
example : Fixture.failure? {
    entries := [(.leaf "label:x", .leaf "label:y")], diagnostics := some 0,
    cases := [⟨"met", { labels := ["x"] }, ["y", "x", "y"]⟩, ⟨"first", { labels := ["x"] }, ["y"]⟩,
      ⟨"second", {}, ["y"]⟩] } =
    some (.result ⟨"first", StringSet.ofList ["y"], StringSet.ofList ["x", "y"]⟩) := by
  decide +kernel

end MailRules

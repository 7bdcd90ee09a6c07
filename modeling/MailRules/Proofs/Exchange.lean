import Mathlib.Logic.Equiv.Basic
import MailRules.Proofs.Effects

/-!
# Exchange — neighbouring rules in the other order

A rule depends on the rules before it by the labels that its condition asks for and by the labels
that both write.  This file defines:

* `Rule.Reads`, `Rule.Adds` and `Rule.Removes`, what a rule has to do with a label;
* `Rule.Independent`, two rules of which neither writes what the other reads, nor adds what the
  other takes away;

and proves:

* `Rule.Spares.fires_apply`, by which a rule fires after a rule that spares it just if it fires
  without it;
* `Rule.Independent.apply_comm`, by which independent rules may be applied in either order;
* `RuleSet.pass_exchange`: when two neighbouring rules that are independent change places, the same
  rules fire and the message is left the same, whatever comes before and after them.
-/

namespace MailRules

/-! ## What is read -/

theorem Test.holds_congr [PatternEngine] {t : Test} {m n : Message} (htexts : Message.SameTexts m n)
    (hlabels : ∀ l, t.check = .label l → n.hasLabel l = m.hasLabel l) : t.holds n = t.holds m := by
  have htested : t.tested n = t.tested m := by
    unfold tested
    cases hcheck : t.check with
    | text field pattern => simp only [htexts.field_eq]
    | label l => exact hlabels l hcheck
  simp only [holds, htested]

namespace Rule

/-- Some test of the rule asks for the label. -/
def Reads (r : Rule) (l : String) : Prop := ∃ t ∈ Nested.leaves r.condition, t.check = .label l

/-- Some change of the rule adds the label. -/
def Adds (r : Rule) (l : String) : Prop := ∃ c ∈ Nested.leaves r.action, c.effect? l = some true

/-- Some change of the rule takes the label away, by its name or with all others. -/
def Removes (r : Rule) (l : String) : Prop := ∃ c ∈ Nested.leaves r.action, c.effect? l = some false

theorem fires_congr [PatternEngine] {r : Rule} {m n : Message} (htexts : Message.SameTexts m n)
    (hlabels : ∀ l, r.Reads l → n.hasLabel l = m.hasLabel l) : r.fires n = r.fires m := by
  simp only [fires, Condition.holds_eq_all_leaves]
  rw [Bool.eq_iff_iff, List.all_eq_true, List.all_eq_true]
  refine forall_congr' fun t => forall_congr' fun ht => ?_
  have hsame : t.holds n = t.holds m :=
    Test.holds_congr htexts fun l hcheck => hlabels l ⟨t, ht, hcheck⟩
  rw [hsame]

/-! ## Rules that have nothing to do with each other -/

/-- A rule writes no label that another one reads, and adds none that the other takes away. -/
structure Spares (r other : Rule) : Prop where
  unread : ∀ l, r.Adds l ∨ r.Removes l → ¬ other.Reads l
  kept : ∀ l, r.Adds l → ¬ other.Removes l

def Independent (r other : Rule) : Prop := r.Spares other ∧ other.Spares r

variable {r other : Rule}

theorem adds_of_overall? {l : String} (h : Change.overall? (Nested.leaves r.action) l = some true) :
    r.Adds l :=
  Change.overall?_eq_some h

theorem removes_of_overall? {l : String}
    (h : Change.overall? (Nested.leaves r.action) l = some false) : r.Removes l :=
  Change.overall?_eq_some h

theorem Spares.overall?_eq_none (h : r.Spares other) {l : String} (hl : other.Reads l) :
    Change.overall? (Nested.leaves r.action) l = none := by
  cases hoverall : Change.overall? (Nested.leaves r.action) l with
  | none => rfl
  | some added =>
      cases added with
      | true => exact absurd hl (h.unread l (.inl (adds_of_overall? hoverall)))
      | false => exact absurd hl (h.unread l (.inr (removes_of_overall? hoverall)))

/-- Where both rules write a label they write it in the same way, so that it does not matter which
of them writes it last. -/
theorem Independent.overall?_comm (h : r.Independent other) (l : String) :
    Change.overall? (Nested.leaves r.action ++ Nested.leaves other.action) l =
      Change.overall? (Nested.leaves other.action ++ Nested.leaves r.action) l := by
  rw [Change.overall?_append, Change.overall?_append]
  cases hr : Change.overall? (Nested.leaves r.action) l with
  | none => simp
  | some added =>
      cases hother : Change.overall? (Nested.leaves other.action) l with
      | none => rfl
      | some added' =>
          cases added with
          | true =>
              cases added' with
              | true => rfl
              | false => exact absurd (removes_of_overall? hother) (h.1.kept l (adds_of_overall? hr))
          | false =>
              cases added' with
              | true => exact absurd (removes_of_overall? hr) (h.2.kept l (adds_of_overall? hother))
              | false => rfl

theorem Independent.action_comm (h : r.Independent other) (m : Message) :
    other.action.apply (r.action.apply m) = r.action.apply (other.action.apply m) := by
  simp only [Action.apply_eq_foldl_leaves, ← List.foldl_append]
  exact Change.foldl_apply_congr h.overall?_comm m

variable [PatternEngine]

theorem apply_of_fires {m : Message} (h : r.fires m = true) : r.apply m = r.action.apply m := by
  simp [apply, h]

theorem apply_of_not_fires {m : Message} (h : r.fires m = false) : r.apply m = m := by
  simp [apply, h]

theorem Spares.fires_action (h : r.Spares other) (m : Message) :
    other.fires (r.action.apply m) = other.fires m := by
  rw [Action.apply_eq_foldl_leaves]
  refine fires_congr (Change.sameTexts_foldl_apply _ m) fun l hl => ?_
  have hunwritten : Change.overall? (Nested.leaves r.action) l = none := h.overall?_eq_none hl
  calc
    ((Nested.leaves r.action).foldl (fun m c => c.apply m) m).hasLabel l
        = (Change.overall? (Nested.leaves r.action) l).getD (m.hasLabel l) :=
          Change.hasLabel_foldl_apply _ l m
    _ = m.hasLabel l := by rw [hunwritten]; rfl

theorem Spares.fires_apply (h : r.Spares other) (m : Message) :
    other.fires (r.apply m) = other.fires m := by
  cases hr : r.fires m with
  | false => rw [apply_of_not_fires hr]
  | true => rw [apply_of_fires hr, h.fires_action]

theorem Independent.apply_comm (h : r.Independent other) (m : Message) :
    other.apply (r.apply m) = r.apply (other.apply m) := by
  have hother : other.fires (r.apply m) = other.fires m := h.1.fires_apply m
  have hr : r.fires (other.apply m) = r.fires m := h.2.fires_apply m
  cases hfires : r.fires m with
  | false =>
      rw [hfires] at hr
      rw [apply_of_not_fires hfires, apply_of_not_fires hr]
  | true =>
      rw [hfires] at hr
      cases hfires' : other.fires m with
      | false =>
          rw [hfires'] at hother
          rw [apply_of_not_fires hother, apply_of_not_fires hfires']
      | true =>
          rw [hfires'] at hother
          calc
            other.apply (r.apply m) = other.action.apply (r.action.apply m) := by
              rw [apply_of_fires hother, apply_of_fires hfires]
            _ = r.action.apply (other.action.apply m) := h.action_comm m
            _ = r.apply (other.apply m) := by
              rw [apply_of_fires hr, apply_of_fires hfires']

end Rule

/-! ## Passes -/

namespace RuleSet

/-- The rules before and after two neighbours, which stay where they are when the two change
places. -/
theorem exists_around {rules : RuleSet} {i : Nat} {r other : Rule} (hr : rules[i]? = some r)
    (hother : rules[i + 1]? = some other) :
    ∃ earlier later : RuleSet, earlier.length = i ∧ rules = earlier ++ r :: other :: later ∧
      (rules.set i other).set (i + 1) r = earlier ++ other :: r :: later := by
  rcases List.getElem?_eq_some_iff.1 hr with ⟨hi, hr⟩
  rcases List.getElem?_eq_some_iff.1 hother with ⟨hnext, hother⟩
  have hlength : (rules.take i).length = i := List.length_take_of_le (Nat.le_of_lt hi)
  have hrules : rules = rules.take i ++ r :: other :: rules.drop (i + 2) := by
    rw [← hr, ← hother, ← List.drop_eq_getElem_cons hnext, ← List.drop_eq_getElem_cons hi,
      List.take_append_drop]
  have hset (earlier later : RuleSet) (hearlier : earlier.length = i) :
      ((earlier ++ r :: other :: later).set i other).set (i + 1) r =
        earlier ++ other :: r :: later := by
    subst hearlier
    simp
  refine ⟨rules.take i, rules.drop (i + 2), hlength, hrules, ?_⟩
  rw [← hset _ _ hlength, ← hrules]

variable [PatternEngine]

theorem lt_length_of_mem_fired {rules : RuleSet} {m : Message} {n : Nat}
    (h : n ∈ (rules.pass m).fired) : n < rules.length := by
  rcases mem_fired_pass.1 h with ⟨r, hr, _⟩
  exact (List.getElem?_eq_some_iff.1 hr).1

theorem pass_pair (r other : Rule) (m : Message) : pass [r, other] m =
    ⟨(if r.fires m then [0] else []) ++ (if other.fires (r.apply m) then [1] else []),
      other.apply (r.apply m)⟩ := by
  simp only [pass, passFrom]
  split <;> split <;> rfl

/-- A pass over two neighbouring rules among others: the earlier rules fire as they do, then it
shows which of the two fire, and the later rules start on what the two leave. -/
theorem pass_around (earlier later : RuleSet) (r other : Rule) (m : Message) :
    let found := (earlier.pass m).message
    let left := other.apply (r.apply found)
    pass (earlier ++ r :: other :: later) m =
      ⟨(earlier.pass m).fired ++
          ((if r.fires found then [earlier.length] else []) ++
            (if other.fires (r.apply found) then [earlier.length + 1] else []) ++
              (later.pass left).fired.map (· + (earlier.length + 2))),
        (later.pass left).message⟩ := by
  intro found left
  have hlater : pass ([r, other] ++ later) found =
      ⟨(if r.fires found then [0] else []) ++ (if other.fires (r.apply found) then [1] else []) ++
          (later.pass left).fired.map (· + 2), (later.pass left).message⟩ := by
    rw [pass_append, pass_pair]
    rfl
  calc
    pass (earlier ++ r :: other :: later) m
        = ⟨(earlier.pass m).fired ++
            (pass ([r, other] ++ later) found).fired.map (· + earlier.length),
          (pass ([r, other] ++ later) found).message⟩ := pass_append earlier ([r, other] ++ later) m
    _ = _ := by
          rw [hlater]
          have hplace (k : Nat) : k + 2 + earlier.length = k + (earlier.length + 2) := by omega
          have hfirst : (if r.fires found then [0] else []).map (· + earlier.length) =
              if r.fires found then [earlier.length] else [] := by
            split <;> simp
          have hsecond : (if other.fires (r.apply found) then [1] else []).map (· + earlier.length) =
              if other.fires (r.apply found) then [earlier.length + 1] else [] := by
            split <;> simp [Nat.add_comm]
          simp only [List.map_append, List.map_map, hfirst, hsecond, Function.comp_def, hplace]

theorem mem_fired_around {earlier later : RuleSet} {r other : Rule} {m : Message} {n : Nat} :
    n ∈ (pass (earlier ++ r :: other :: later) m).fired ↔
      n ∈ (earlier.pass m).fired ∨
        (n = earlier.length ∧ r.fires (earlier.pass m).message = true) ∨
        (n = earlier.length + 1 ∧ other.fires (r.apply (earlier.pass m).message) = true) ∨
        ∃ k ∈ (later.pass (other.apply (r.apply (earlier.pass m).message))).fired,
          k + (earlier.length + 2) = n := by
  have hfired := congrArg Pass.fired (pass_around earlier later r other m)
  simp only at hfired
  rw [hfired]
  simp only [List.mem_append, List.mem_map, or_assoc]
  refine or_congr Iff.rfl (or_congr ?_ (or_congr ?_ Iff.rfl))
  · cases r.fires (earlier.pass m).message <;> simp
  · cases other.fires (r.apply (earlier.pass m).message) <;> simp

/-- When two neighbouring rules that are independent change places, the rules that fire are the
same, each at its new position, and the message is left the same. -/
theorem pass_exchange {rules : RuleSet} {i : Nat} {r other : Rule} (hr : rules[i]? = some r)
    (hother : rules[i + 1]? = some other) (h : r.Independent other) (m : Message) :
    let exchanged : RuleSet := (rules.set i other).set (i + 1) r
    (exchanged.pass m).message = (rules.pass m).message ∧
      (exchanged.pass m).fired.length = (rules.pass m).fired.length ∧
      ∀ n, n ∈ (exchanged.pass m).fired ↔ Equiv.swap i (i + 1) n ∈ (rules.pass m).fired := by
  intro exchanged
  rcases exists_around hr hother with ⟨earlier, later, rfl, rfl, hexchanged⟩
  have hpass : exchanged.pass m = pass (earlier ++ other :: r :: later) m := by
    rw [← hexchanged]
  rw [hpass]
  -- both rules are tried on what decides them, in whichever order they come
  have hleft : r.apply (other.apply (earlier.pass m).message) =
      other.apply (r.apply (earlier.pass m).message) := (h.apply_comm _).symm
  have hfires : other.fires (r.apply (earlier.pass m).message) =
      other.fires (earlier.pass m).message := h.1.fires_apply _
  have hfires' : r.fires (other.apply (earlier.pass m).message) =
      r.fires (earlier.pass m).message := h.2.fires_apply _
  refine ⟨?_, ?_, ?_⟩
  · rw [pass_around, pass_around, hleft]
  · rw [pass_around, pass_around, hleft, hfires, hfires']
    simp only [List.length_append]
    cases r.fires (earlier.pass m).message <;> cases other.fires (earlier.pass m).message <;> rfl
  · intro n
    rw [mem_fired_around, mem_fired_around, hleft, hfires, hfires']
    -- the earlier rules have lower positions than the two, and the later ones higher positions
    have hearlier : ∀ k ∈ (earlier.pass m).fired, k < earlier.length :=
      fun k hk => lt_length_of_mem_fired hk
    by_cases hfirst : n = earlier.length
    · subst hfirst
      rw [Equiv.swap_apply_left]
      grind
    · by_cases hsecond : n = earlier.length + 1
      · subst hsecond
        rw [Equiv.swap_apply_right]
        grind
      · rw [Equiv.swap_apply_of_ne_of_ne hfirst hsecond]
        simp [hfirst, hsecond]

end RuleSet

/-- Two rules that both add `b`, of which only one fires: what fires at its position is the other
rule after the exchange. -/
theorem RuleSet.pass_exchange_adding :
    let r : Rule := ⟨.leaf ⟨.inbox, false, none, .label Label.inbox⟩,
      .list [.leaf ⟨.label, true, some "a"⟩, .list [.leaf ⟨.label, false, some "b"⟩]]⟩
    let other : Rule := ⟨.leaf ⟨.label, false, some "c", .label "c"⟩,
      .list [.leaf ⟨.label, false, some "b"⟩, .leaf ⟨.read, false, none⟩]⟩
    let first : Rule := ⟨.list [], .leaf ⟨.label, false, some "a"⟩⟩
    let last : Rule := ⟨.leaf ⟨.label, false, some "b", .label "b"⟩, .leaf ⟨.spam, false, none⟩⟩
    let m : Message := { labels := StringSet.ofList ["inbox", "unread"] }
    r.Independent other ∧
      (pass [first, r, other, last] m).fired = [0, 1, 3] ∧
      (pass [first, other, r, last] m).message = (pass [first, r, other, last] m).message ∧
      (pass [first, other, r, last] m).fired.length = 3 ∧
      2 ∈ (pass [first, other, r, last] m).fired := by
  intro r other first last m
  have hadds (l : String) : r.Adds l ↔ l = "b" := by
    simp [r, Rule.Adds, Nested.leaves, Nested.leavesAll, Change.effect?, eq_comm]
  have hremoves (l : String) : r.Removes l ↔ l = "a" := by
    simp [r, Rule.Removes, Nested.leaves, Nested.leavesAll, Change.effect?, Label.wildcard, eq_comm]
  have hreads (l : String) : r.Reads l ↔ l = Label.inbox := by
    simp [r, Rule.Reads, Nested.leaves, eq_comm]
  have hadds' (l : String) : other.Adds l ↔ l = "b" := by
    simp [other, Rule.Adds, Nested.leaves, Nested.leavesAll, Change.effect?, eq_comm]
  have hremoves' (l : String) : other.Removes l ↔ l = Label.unread := by
    simp [other, Rule.Removes, Nested.leaves, Nested.leavesAll, Change.effect?]
  have hreads' (l : String) : other.Reads l ↔ l = "c" := by
    simp [other, Rule.Reads, Nested.leaves, eq_comm]
  have hindependent : r.Independent other := by
    refine ⟨⟨?_, ?_⟩, ⟨?_, ?_⟩⟩ <;>
      simp only [hadds, hremoves, hreads, hadds', hremoves', hreads'] <;>
      rintro l h rfl <;> revert h <;> decide
  have hfired : (pass [first, r, other, last] m).fired = [0, 1, 3] := by decide +kernel
  have hr : [first, r, other, last][1]? = some r := rfl
  have hother : [first, r, other, last][2]? = some other := rfl
  rcases RuleSet.pass_exchange hr hother hindependent m with ⟨hmessage, hcount, hplaces⟩
  rw [hfired] at hcount
  refine ⟨hindependent, hfired, hmessage, hcount, (hplaces 2).2 ?_⟩
  rw [hfired]
  decide

end MailRules

import Mathlib.Data.List.Sort
import MailRules.Proofs.Writes

/-!
# Effects — series of changes as a whole

Whatever changes come one after the other, a label is left as the last of them that writes it has
it.  So a series of changes is known by what it does to each label, and two series that do the same
to every label cannot be told apart.  This file defines `Change.overall?`, what a series of changes
does to a label, and proves:

* `Message.SameTexts.eq_of_hasLabel`, by which there is nothing to a message but its texts and which
  labels it has;
* `Change.foldl_apply_congr`, by which series that do the same to every label leave the same
  message;
* `RuleSet.pass_again`: a second pass in which the same rules fire changes nothing, and to carry out
  an action twice is to carry it out once.
-/

namespace MailRules

/-- Sets with the same members are the same, since the members are kept in ascending order. -/
theorem StringSet.ext_mem {s t : StringSet} (h : ∀ l, l ∈ s ↔ l ∈ t) : s = t := by
  have hlist : s.toList = t.toList := s.ascending.eq_of_mem_iff t.ascending h
  cases s
  cases t
  simpa using hlist

namespace Message

theorem SameTexts.symm {m n : Message} (h : SameTexts m n) : SameTexts n m := by
  unfold SameTexts at h ⊢
  rw [h]

theorem SameTexts.eq_of_hasLabel {m n : Message} (htexts : SameTexts m n)
    (hlabels : ∀ l, n.hasLabel l = m.hasLabel l) : n = m := by
  have hset : n.labels = m.labels := by
    refine StringSet.ext_mem fun l => ?_
    simpa [hasLabel] using hlabels l
  calc
    n = { m with labels := n.labels } := htexts
    _ = m := by rw [hset]

end Message

/-! ## Series of changes -/

namespace Change

/-- What changes one after the other do to a label: what the last of them that writes it does. -/
def overall? (cs : List Change) (l : String) : Option Bool :=
  (cs.filterMap fun c => c.effect? l).getLast?

/-- The later part of a series decides where it writes a label, and the earlier part elsewhere. -/
theorem overall?_append (cs ds : List Change) (l : String) :
    overall? (cs ++ ds) l = (overall? ds l).or (overall? cs l) := by
  simp only [overall?, List.filterMap_append, List.getLast?_append]

theorem overall?_eq_some {cs : List Change} {l : String} {added : Bool}
    (h : overall? cs l = some added) : ∃ c ∈ cs, c.effect? l = some added :=
  List.mem_filterMap.1 (List.mem_of_getLast? h)

theorem foldl_apply_congr {cs ds : List Change} (h : ∀ l, overall? cs l = overall? ds l)
    (m : Message) : cs.foldl (fun m c => c.apply m) m = ds.foldl (fun m c => c.apply m) m := by
  have htexts := (sameTexts_foldl_apply ds m).symm.trans (sameTexts_foldl_apply cs m)
  refine htexts.eq_of_hasLabel fun l => ?_
  calc
    (cs.foldl (fun m c => c.apply m) m).hasLabel l = (overall? cs l).getD (m.hasLabel l) :=
      hasLabel_foldl_apply cs l m
    _ = (overall? ds l).getD (m.hasLabel l) := by rw [h l]
    _ = (ds.foldl (fun m c => c.apply m) m).hasLabel l := (hasLabel_foldl_apply ds l m).symm

/-- A series carried out twice writes the same labels in the same way as once, although it may take
away in between what it added before. -/
theorem foldl_apply_twice (cs : List Change) (m : Message) :
    cs.foldl (fun m c => c.apply m) (cs.foldl (fun m c => c.apply m) m) =
      cs.foldl (fun m c => c.apply m) m := by
  have htwice (l : String) : overall? (cs ++ cs) l = overall? cs l := by
    rw [overall?_append, Option.or_self]
  calc
    cs.foldl (fun m c => c.apply m) (cs.foldl (fun m c => c.apply m) m)
        = (cs ++ cs).foldl (fun m c => c.apply m) m := List.foldl_append.symm
    _ = cs.foldl (fun m c => c.apply m) m := foldl_apply_congr htwice m

end Change

/-! ## Passes again -/

namespace RuleSet

variable [PatternEngine]

/-- If the rules that fire in a second pass are those that fired in the first, the second pass
leaves the message as the first left it, whatever labels came and went on the way.  An action
carried out twice leaves the message as it is left once. -/
theorem pass_again (rules : RuleSet) (m : Message) :
    let first := rules.pass m
    let second := rules.pass first.message
    ((∀ n, n ∈ second.fired ↔ n ∈ first.fired) → second.message = first.message) ∧
      ∀ (a : Action) (m : Message), a.apply (a.apply m) = a.apply m := by
  intro first second
  refine ⟨?_, ?_⟩
  · intro hfired
    -- fired positions ascend, so that the same positions are the same list and carry out the same
    -- changes
    have hlist : second.fired = first.fired :=
      (pairwise_fired_pass rules first.message).eq_of_mem_iff (pairwise_fired_pass rules m) hfired
    have hchanges : rules.carriedOut first.message = rules.carriedOut m :=
      congrArg (fun fired => fired.flatMap (changesAt rules)) hlist
    have hfirst : first.message = (rules.carriedOut m).foldl (fun m c => c.apply m) m :=
      message_pass_eq_foldl rules m
    calc
      second.message
          = (rules.carriedOut first.message).foldl (fun m c => c.apply m) first.message :=
            message_pass_eq_foldl rules first.message
      _ = (rules.carriedOut m).foldl (fun m c => c.apply m)
            ((rules.carriedOut m).foldl (fun m c => c.apply m) m) := by rw [hchanges, ← hfirst]
      _ = (rules.carriedOut m).foldl (fun m c => c.apply m) m :=
            Change.foldl_apply_twice (rules.carriedOut m) m
      _ = first.message := hfirst.symm
  · intro a m
    simp only [Action.apply_eq_foldl_leaves]
    exact Change.foldl_apply_twice (Nested.leaves a) m

end RuleSet

/-- The second pass goes through other labels than the first: it takes away `spam` and adds it
again. -/
theorem RuleSet.pass_again_cleared :
    let rules : RuleSet := (Compiled.ofEntries
      [(.list [], .list [.leaf "-label:*", .leaf "label:a"]),
        (.leaf "label:a", .list [.leaf "-label:a", .list [.leaf "spam"]])]).rules
    let first := rules.pass { labels := StringSet.ofList ["inbox"] }
    let second := rules.pass first.message
    (∀ n, n ∈ second.fired ↔ n ∈ first.fired) ∧ second.message = first.message ∧
      first.message.labels.toList = ["spam"] := by
  intro rules first second
  have hfired : second.fired = first.fired := by decide +kernel
  have hmembers : ∀ n, n ∈ second.fired ↔ n ∈ first.fired := by simp [hfired]
  exact ⟨hmembers, (RuleSet.pass_again rules _).1 hmembers, by decide +kernel⟩

end MailRules

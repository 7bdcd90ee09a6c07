import MailRules.Proofs.Filtering
import MailRules.Proofs.Pass

/-!
# Concatenation — documents one after the other

Entries are compiled one by one, and of the others an entry knows no more than how many come before
it.  This file defines `Compiled.append`, the rules and reports of two documents together, and
`Compiled.later`, those of a document whose entries come later, and proves:

* `Compiled.ofEntries_append`, by which compiling takes a concatenation to such a pair;
* `Compiled.concatenation_runs_in_turn`, by which filtering with a concatenation is filtering with
  its parts in turn.
-/

namespace MailRules

/-- The same report on an entry that comes so many entries later. -/
def Diagnostic.later (k : Nat) (d : Diagnostic) : Diagnostic := { d with entry := d.entry + k }

namespace Compiled

/-- The same rules, from entries that come so many entries later. -/
def later (k : Nat) (c : Compiled) : Compiled := ⟨c.rules, c.diagnostics.map (Diagnostic.later k)⟩

def append (c d : Compiled) : Compiled := ⟨c.rules ++ d.rules, c.diagnostics ++ d.diagnostics⟩

theorem append_assoc (b c d : Compiled) : (b.append c).append d = b.append (c.append d) := by
  simp [append]

theorem later_append (k : Nat) (c d : Compiled) :
    (c.append d).later k = (c.later k).append (d.later k) := by
  simp [append, later]

theorem later_later (k l : Nat) (c : Compiled) : (c.later k).later l = c.later (k + l) := by
  simp [later, Diagnostic.later, Nat.add_assoc]

variable [PatternEngine]

/-! ## Compiling -/

/-- The number of an entry shows in the reports on it, and nowhere else. -/
theorem ofEntry_add (k n : Nat) (e : Entry) : ofEntry (n + k) e = (ofEntry n e).later k := by
  simp only [ofEntry, later, List.map_append, List.map_map]
  rfl

theorem ofEntriesFrom_cons (n : Nat) (e : Entry) (es : List Entry) :
    ofEntriesFrom n (e :: es) = (ofEntry n e).append (ofEntriesFrom (n + 1) es) := rfl

theorem ofEntriesFrom_add (k : Nat) (es : List Entry) : ∀ n : Nat,
    ofEntriesFrom (n + k) es = (ofEntriesFrom n es).later k := by
  induction es with
  | nil =>
      intro n
      rfl
  | cons e es ih =>
      intro n
      calc
        ofEntriesFrom (n + k) (e :: es)
            = (ofEntry (n + k) e).append (ofEntriesFrom (n + 1 + k) es) := by
              rw [ofEntriesFrom_cons, Nat.add_right_comm]
        _ = ((ofEntry n e).later k).append ((ofEntriesFrom (n + 1) es).later k) := by
              rw [ofEntry_add, ih (n + 1)]
        _ = (ofEntriesFrom n (e :: es)).later k := (later_append ..).symm

theorem ofEntriesFrom_append (a b : List Entry) : ∀ n : Nat,
    ofEntriesFrom n (a ++ b) = (ofEntriesFrom n a).append (ofEntriesFrom (n + a.length) b) := by
  -- the number where the first part begins is left free, since every entry moves it on
  induction a with
  | nil =>
      intro n
      rfl
  | cons e a ih =>
      intro n
      have hlength : n + (e :: a).length = n + 1 + a.length := by
        simp only [List.length_cons]
        omega
      calc
        ofEntriesFrom n (e :: a ++ b)
            = (ofEntry n e).append ((ofEntriesFrom (n + 1) a).append
                (ofEntriesFrom (n + 1 + a.length) b)) := by
              rw [List.cons_append, ofEntriesFrom_cons, ih (n + 1)]
        _ = (ofEntriesFrom n (e :: a)).append (ofEntriesFrom (n + (e :: a).length) b) := by
              rw [← append_assoc, ← ofEntriesFrom_cons, hlength]

theorem ofEntries_append (a b : List Entry) :
    ofEntries (a ++ b) = (ofEntries a).append ((ofEntries b).later a.length) := by
  have hlater : ofEntriesFrom (0 + a.length) b = (ofEntriesFrom 0 b).later a.length :=
    ofEntriesFrom_add a.length b 0
  calc
    ofEntries (a ++ b) = (ofEntries a).append (ofEntriesFrom (0 + a.length) b) :=
      ofEntriesFrom_append a b 0
    _ = (ofEntries a).append ((ofEntries b).later a.length) := by rw [hlater]; rfl

end Compiled

/-! ## Filtering -/

namespace Filter

variable [PatternEngine] (s : Source) (cache : Cache) (m : Message)

theorem rulesUsed_inline (es : List Entry) :
    rulesUsed s cache (.inline es) = (Compiled.ofEntries es).rules := by
  cases hrules : (Loader.usable es).1 with
  | none =>
      have hempty := Loader.usable_eq_none_iff.1 hrules
      have hnone := (Loader.resolveInline_of_failed cache hrules).1
      simp [rulesUsed, Loader.resolve, hnone, hempty]
  | some rules =>
      have hsome := (Loader.usable_eq_some_iff.1 hrules).1
      have hmade := (Loader.resolveInline_of_made cache hrules).1
      simp [rulesUsed, Loader.resolve, hmade, hsome]

/-- Given entries are compiled and run, even if no rules come of them. -/
theorem apply_inline (es : List Entry) :
    (apply s cache (.inline es) m).message = ((Compiled.ofEntries es).rules.pass m).message ∧
      (apply s cache (.inline es) m).fired = ((Compiled.ofEntries es).rules.pass m).fired.length := by
  have happly := apply_eq_pass s cache (.inline es) m
  rwa [rulesUsed_inline] at happly

end Filter

namespace Compiled

variable [PatternEngine]

/-- A concatenation compiles into the rules of its parts and into the reports on them, the entries
of the second part being counted on.  Filtering a message with a concatenation is filtering it with
the first part and then with the second, whichever loaders do it.  So an entry between others adds
its own rules and reports to theirs, which do not depend on it. -/
theorem concatenation_runs_in_turn (a b : List Entry) :
    (ofEntries (a ++ b)).rules = (ofEntries a).rules ++ (ofEntries b).rules ∧
      (ofEntries (a ++ b)).diagnostics =
        (ofEntries a).diagnostics ++ (ofEntries b).diagnostics.map (Diagnostic.later a.length) ∧
      (∀ (s s' : Source) (cache cache' : Cache) (m : Message),
        let both := Filter.apply s cache (.inline (a ++ b)) m
        let first := Filter.apply s' cache' (.inline a) m
        let second := Filter.apply s' first.resolution.cache (.inline b) first.message
        both.message = second.message ∧ both.fired = first.fired + second.fired) ∧
      ∀ e : Entry, ofEntries (a ++ e :: b) =
        (ofEntries a).append
          (((ofEntries [e]).later a.length).append ((ofEntries b).later (a.length + 1))) := by
  have hboth := ofEntries_append a b
  refine ⟨congrArg rules hboth, congrArg diagnostics hboth, ?_, ?_⟩
  · intro s s' cache cache' m both first second
    have hrules : (ofEntries (a ++ b)).rules = (ofEntries a).rules ++ (ofEntries b).rules :=
      congrArg rules hboth
    have hpass := RuleSet.pass_append (ofEntries a).rules (ofEntries b).rules m
    have hwhole := Filter.apply_inline s cache m (a ++ b)
    have hfirst : first.message = _ ∧ first.fired = _ := Filter.apply_inline s' cache' m a
    -- the second part meets the message as the first one left it, and a cache that does not matter
    have hsecond : second.message = _ ∧ second.fired = _ :=
      Filter.apply_inline s' first.resolution.cache first.message b
    refine ⟨?_, ?_⟩
    · calc
        both.message = ((ofEntries (a ++ b)).rules.pass m).message := hwhole.1
        _ = ((ofEntries b).rules.pass ((ofEntries a).rules.pass m).message).message := by
              rw [hrules, hpass]
        _ = second.message := by rw [hsecond.1, hfirst.1]
    · calc
        both.fired = ((ofEntries (a ++ b)).rules.pass m).fired.length := hwhole.2
        _ = ((ofEntries a).rules.pass m).fired.length +
            ((ofEntries b).rules.pass ((ofEntries a).rules.pass m).message).fired.length := by
              rw [hrules, hpass, List.length_append, List.length_map]
        _ = first.fired + second.fired := by rw [hfirst.2, hsecond.2, hfirst.1]
  · intro e
    have hrest := ofEntries_append [e] b
    rw [ofEntries_append a (e :: b), ← List.singleton_append, hrest, later_append, later_later]
    simp [Nat.add_comm]

end Compiled
end MailRules

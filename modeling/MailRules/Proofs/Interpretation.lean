import MailRules.Proofs.Leaves

/-!
# Interpretation — a document run as it is written

A document can be run without being compiled: its entries are taken in order, and every token in
them is read anew for every message.  Nesting plays no part in this beyond the limit on its depth,
and a token that cannot be read is passed over.  This file defines:

* `Entry.isLive`, `Entry.fires` and `Entry.run`, one entry on one message;
* `interpret`, all entries on one message;

and proves `pass_ofEntries`: compiling a document and making a pass with the rules is interpreting
it.  This holds for any `PatternEngine`, whichever patterns it accepts and wherever it finds them.
-/

namespace MailRules

/-! ## Running a document as it is -/

/-- Whether one side of an entry can be used, given which tokens can: a token has to be readable
itself, of a list only the depth counts. -/
def Spec.isUsable (reads : String → Bool) : Spec → Bool
  | .leaf token => reads token
  | .list items => decide ((Nested.list items).depth ≤ maxDepth)

namespace Entry

variable [PatternEngine]

def isLive (e : Entry) : Bool :=
  Spec.isUsable (fun token => (Condition.parse token).isOk) e.1 &&
    Spec.isUsable (fun token => (Action.parse token).isOk) e.2

/-- A token that is no condition asks for nothing. -/
def tokenHolds (m : Message) (token : String) : Bool :=
  match Condition.parse token with
  | .ok c => c.holds m
  | .error _ => true

/-- A token that is no action changes nothing. -/
def carryOut (m : Message) (token : String) : Message :=
  match Action.parse token with
  | .ok a => a.apply m
  | .error _ => m

def fires (e : Entry) (m : Message) : Bool := isLive e && (Nested.leaves e.1).all (tokenHolds m)

def run (e : Entry) (m : Message) : Message :=
  if fires e m then (Nested.leaves e.2).foldl carryOut m else m

end Entry

/-- What running a document leaves: how many of its entries fired, and the message. -/
structure Interpretation where
  fired : Nat
  message : Message

/-- Runs the entries in order, each on the message as the ones before it left it. -/
def interpret [PatternEngine] : List Entry → Message → Interpretation
  | [], m => ⟨0, m⟩
  | e :: es, m =>
      let rest := interpret es (Entry.run e m)
      if Entry.fires e m then { rest with fired := rest.fired + 1 } else rest

/-! ## Sides -/

namespace Side

variable {α : Type} (parse : String → Except RuleError α)

theorem built_eq_none {s : Spec} (h : Spec.isUsable (fun token => (parse token).isOk) s = false) :
    (build parse s).built = none := by
  cases s with
  | leaf token =>
      rw [built_leaf]
      cases htoken : parse token with
      | error e => rfl
      | ok a => simp [Spec.isUsable, htoken, Except.isOk, Except.toBool] at h
  | list items =>
      rw [built_list]
      simpa [Spec.isUsable] using h

theorem exists_built {s : Spec} (h : Spec.isUsable (fun token => (parse token).isOk) s = true) :
    ∃ x : Nested α, (build parse s).built = some x ∧ x.leaves = readable parse (Nested.leaves s) := by
  cases s with
  | leaf token =>
      rw [built_leaf]
      cases htoken : parse token with
      | error e => simp [Spec.isUsable, htoken, Except.isOk, Except.toBool] at h
      | ok a =>
          refine ⟨.leaf a, rfl, ?_⟩
          simp only [Nested.leaves]
          rw [readable_cons_ok parse htoken, readable_nil]
  | list items =>
      have hdepth : (Nested.list items).depth ≤ maxDepth := by
        simpa [Spec.isUsable] using h
      refine ⟨.list (buildItems parse items).1, ?_, ?_⟩
      · rw [built_list, if_pos hdepth]
      · simpa [Nested.leaves] using leavesAll_buildItems parse items

end Side

/-! ## Entries -/

namespace Entry

theorem isOk_actionParse (token : String) :
    (Action.parse token).isOk = (Change.parse token).isOk := by
  unfold Action.parse
  cases Change.parse token <;> rfl

theorem foldl_readable_apply (m : Message) (tokens : List String) :
    (Side.readable Change.parse tokens).foldl (fun m c => c.apply m) m = tokens.foldl carryOut m := by
  induction tokens generalizing m with
  | nil => rfl
  | cons token tokens ih =>
      cases htoken : Change.parse token with
      | error e =>
          have hpassed : carryOut m token = m := by
            simp [carryOut, Action.parse, htoken, Except.map]
          rw [Side.readable_cons_error Change.parse htoken, List.foldl_cons, hpassed, ih]
      | ok c =>
          have hread : carryOut m token = c.apply m := by
            simp [carryOut, Action.parse, htoken, Except.map, Action.apply]
          rw [Side.readable_cons_ok Change.parse htoken, List.foldl_cons, List.foldl_cons, hread, ih]

variable [PatternEngine]

theorem isOk_conditionParse (token : String) :
    (Condition.parse token).isOk = (Test.parse token).isOk := by
  unfold Condition.parse
  cases Test.parse token <;> rfl

theorem all_readable_holds (m : Message) (tokens : List String) :
    ((Side.readable Test.parse tokens).all fun t => t.holds m) = tokens.all (tokenHolds m) := by
  induction tokens with
  | nil => rfl
  | cons token tokens ih =>
      cases htoken : Test.parse token with
      | error e =>
          have hpassed : tokenHolds m token = true := by
            simp [tokenHolds, Condition.parse, htoken, Except.map]
          rw [Side.readable_cons_error Test.parse htoken, List.all_cons, hpassed, Bool.true_and, ih]
      | ok t =>
          have hread : tokenHolds m token = t.holds m := by
            simp [tokenHolds, Condition.parse, htoken, Except.map, Condition.holds]
          rw [Side.readable_cons_ok Test.parse htoken, List.all_cons, List.all_cons, hread, ih]

theorem rules_ofEntry_of_not_live {e : Entry} (n : Nat) (h : isLive e = false) :
    (Compiled.ofEntry n e).rules = [] := by
  simp only [isLive, isOk_conditionParse, isOk_actionParse, Bool.and_eq_false_iff] at h
  simp only [Compiled.ofEntry, Side.condition, Side.action]
  rcases h with h | h
  · simp [Side.built_eq_none Test.parse h]
  · simp [Side.built_eq_none Change.parse h]

/-- A live entry becomes one rule, which fires and acts as the entry does. -/
theorem rules_ofEntry_of_live {e : Entry} (n : Nat) (h : isLive e = true) :
    ∃ r : Rule, (Compiled.ofEntry n e).rules = [r] ∧
      ∀ m, r.fires m = fires e m ∧ r.apply m = run e m := by
  have hlive := h
  simp only [isLive, isOk_conditionParse, isOk_actionParse, Bool.and_eq_true] at hlive
  rcases Side.exists_built Test.parse hlive.1 with ⟨c, hc, hcleaves⟩
  rcases Side.exists_built Change.parse hlive.2 with ⟨a, ha, haleaves⟩
  -- both come down to the tokens that can be read, from left to right
  have hfires (m : Message) : Rule.fires ⟨c, a⟩ m = fires e m := by
    simp only [Rule.fires, fires, h, Bool.true_and]
    rw [Condition.holds_eq_all_leaves, hcleaves, all_readable_holds]
  refine ⟨⟨c, a⟩, ?_, fun m => ⟨hfires m, ?_⟩⟩
  · simp [Compiled.ofEntry, Side.condition, Side.action, hc, ha]
  · simp only [Rule.apply, run, hfires m]
    rw [Action.apply_eq_foldl_leaves, haleaves, foldl_readable_apply]

end Entry

/-! ## Documents -/

variable [PatternEngine]

theorem passFrom_ofEntriesFrom (es : List Entry) : ∀ (position n : Nat) (m : Message),
    (RuleSet.passFrom position (Compiled.ofEntriesFrom n es).rules m).message =
        (interpret es m).message ∧
      (RuleSet.passFrom position (Compiled.ofEntriesFrom n es).rules m).fired.length =
        (interpret es m).fired := by
  induction es with
  | nil =>
      intro position n m
      exact ⟨rfl, rfl⟩
  | cons e es ih =>
      intro position n m
      simp only [Compiled.ofEntriesFrom, interpret]
      cases hlive : Entry.isLive e with
      | false =>
          -- a dead entry leaves no rule, so that the later rules keep the position
          have hdead : Entry.fires e m = false := by
            simp [Entry.fires, hlive]
          rw [Entry.rules_ofEntry_of_not_live n hlive, List.nil_append]
          simpa [hdead, Entry.run] using ih position (n + 1) m
      | true =>
          -- the one rule of a live entry hands on to the later rules what the entry hands on
          rcases Entry.rules_ofEntry_of_live n hlive with ⟨r, hr, hsame⟩
          have hrest := ih (position + 1) (n + 1) (Entry.run e m)
          rw [hr, List.singleton_append]
          simp only [RuleSet.passFrom, (hsame m).1, (hsame m).2]
          split
          · exact ⟨hrest.1, by simp [hrest.2]⟩
          · exact hrest

/-- Compiling a document and running the rules once over a message leaves the same message as
interpreting the document, after as many rules as entries have fired. -/
theorem pass_ofEntries (es : List Entry) (m : Message) :
    ((Compiled.ofEntries es).rules.pass m).message = (interpret es m).message ∧
      ((Compiled.ofEntries es).rules.pass m).fired.length = (interpret es m).fired :=
  passFrom_ofEntriesFrom es 0 0 m

end MailRules

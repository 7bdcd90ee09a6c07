import MailRules.Proofs.Interpretation

/-!
# Accounting — what the diagnostics say was left out

What a side loses can be told without building it, from its depth and from which of its tokens can
be read.  This file defines:

* `Spec.rejected`, a drop for each token that cannot be read, and `Spec.losses`, all that a side
  loses;
* `Entry.losses` and `Entry.reports`, the same for the two sides of an entry;
* `Entry.rule?`, the rule an entry becomes;
* `Compiled.about`, what a compiled document reports on one side of one entry;

and proves `ofEntries_accounts`: the diagnostics are these losses in the order of the document, an
entry is lost exactly when a report says so, and of a list every token is either built or reported.
-/

namespace MailRules

/-! ## Losses told from the tokens -/

namespace Spec

variable {α β : Type} (parse : String → Except RuleError α)

/-- A drop for each token that cannot be read, from left to right. -/
def rejected (loss : Loss) (tokens : List String) : List Drop :=
  tokens.filterMap fun token =>
    match parse token with
    | .ok _ => none
    | .error e => some ⟨token, e, loss⟩

/-- All that a side loses.  One that is nested too deep is lost as a whole, whatever its tokens
are. -/
def losses (s : Spec) : List Drop :=
  if maxDepth < s.depth then [⟨s.elided id maxDepth, .depthExceeded (maxDepth + 1), .rule⟩]
  else
    match s with
    | .leaf token => rejected parse .rule [token]
    | .list items => rejected parse .element (Nested.leavesAll items)

theorem rejected_cons_ok {token : String} {a : α} (h : parse token = .ok a) (loss : Loss)
    (tokens : List String) : rejected parse loss (token :: tokens) = rejected parse loss tokens := by
  simp [rejected, h]

theorem rejected_cons_error {token : String} {e : RuleError} (h : parse token = .error e)
    (loss : Loss) (tokens : List String) :
    rejected parse loss (token :: tokens) = ⟨token, e, loss⟩ :: rejected parse loss tokens := by
  simp [rejected, h]

theorem rejected_append (loss : Loss) (tokens more : List String) :
    rejected parse loss (tokens ++ more) = rejected parse loss tokens ++ rejected parse loss more :=
  List.filterMap_append

theorem loss_of_mem_rejected {loss : Loss} {tokens : List String} {d : Drop}
    (h : d ∈ rejected parse loss tokens) : d.loss = loss := by
  rcases List.mem_filterMap.1 h with ⟨token, _, htoken⟩
  cases hparse : parse token with
  | ok a =>
      simp [hparse] at htoken
  | error e =>
      have hd : (⟨token, e, loss⟩ : Drop) = d := by
        simpa [hparse] using htoken
      rw [← hd]

/-- What is made of the tokens that can be read has no part in what is lost. -/
theorem losses_map (f : α → β) (s : Spec) :
    losses (fun token => (parse token).map f) s = losses parse s := by
  have hrejected (loss : Loss) (tokens : List String) :
      rejected (fun token => (parse token).map f) loss tokens = rejected parse loss tokens := by
    unfold rejected
    congr 1
    funext token
    cases hparse : parse token <;> simp [hparse, Except.map]
  simp only [losses, hrejected]

end Spec

/-! ## Sides -/

namespace Side

variable {α : Type} (parse : String → Except RuleError α)

mutual

theorem drops_of_buildNested : ∀ {s : Spec} {x : Nested α} {drops : List Drop},
    buildNested parse s = .ok (x, drops) → drops = Spec.rejected parse .element (Nested.leaves s)
  | .leaf token, x, drops, h => by
      simp only [buildNested] at h
      split at h
      · next a ha =>
          cases h
          simp [Nested.leaves, Spec.rejected, ha]
      · exact absurd h (by simp)
  | .list items, x, drops, h => by
      simp only [buildNested, Except.ok.injEq, Prod.mk.injEq] at h
      rcases h with ⟨_, rfl⟩
      simpa [Nested.leaves] using drops_buildItems items

theorem drops_buildItems : ∀ items : List Spec,
    (buildItems parse items).2 = Spec.rejected parse .element (Nested.leavesAll items)
  | [] => by
      simp [buildItems, Nested.leavesAll, Spec.rejected]
  | s :: rest => by
      have hrest := drops_buildItems rest
      simp only [buildItems, Nested.leavesAll, Spec.rejected_append]
      split
      · next x drops hs =>
          have hdrops := drops_of_buildNested hs
          simp only [hdrops, hrest]
      · next e hs =>
          -- an item that fails is a single token, whose own error is the one reported
          rcases eq_leaf_of_buildNested_error parse hs with ⟨token, rfl, htoken⟩
          simp [Nested.leaves, Spec.text, Nested.text, Spec.rejected, htoken, hrest]

end

theorem drops_build (s : Spec) : (build parse s).drops = Spec.losses parse s := by
  simp only [build, Spec.losses, Nested.limit_lt_depthUpTo_iff]
  split
  · next hdeep =>
      have hdepth : s.depthUpTo maxDepth = maxDepth + 1 := by
        have hmin := Nested.depthUpTo_eq_min s maxDepth
        omega
      simp only [hdepth]
  · cases s with
    | leaf token =>
        cases htoken : parse token with
        | ok a => simp [buildNested, htoken, Spec.rejected]
        | error e => simp [buildNested, htoken, Spec.rejected, Spec.text, Nested.text]
    | list items =>
        simpa [buildNested] using drops_buildItems parse items

/-- A side can be used unless a drop says that it cost the rule. -/
theorem isSome_built_iff (s : Spec) :
    (build parse s).built.isSome = true ↔ ∀ d ∈ Spec.losses parse s, d.loss ≠ .rule := by
  cases s with
  | leaf token =>
      have hshallow : ¬ maxDepth < (Nested.leaf token).depth := by
        simp [Nested.depth, maxDepth]
      rw [built_leaf]
      cases htoken : parse token with
      | ok a => simp [Spec.losses, hshallow, Spec.rejected, htoken, Except.toOption]
      | error e => simp [Spec.losses, hshallow, Spec.rejected, htoken, Except.toOption]
  | list items =>
      rw [built_list]
      by_cases hdeep : maxDepth < (Nested.list items).depth
      · -- the one drop of a list nested too deep costs the rule
        simp [Spec.losses, hdeep, Nat.not_le.2 hdeep]
      · -- any other list loses elements only
        have hkept : ∀ d ∈ Spec.losses parse (.list items), d.loss ≠ .rule := by
          intro d hd
          have hrejected : d ∈ Spec.rejected parse .element (Nested.leavesAll items) := by
            simpa [Spec.losses, hdeep] using hd
          simp [Spec.loss_of_mem_rejected parse hrejected]
        simpa [Nat.not_lt.1 hdeep] using hkept

theorem length_readable_add_length_rejected (loss : Loss) (tokens : List String) :
    (readable parse tokens).length + (Spec.rejected parse loss tokens).length = tokens.length := by
  induction tokens with
  | nil => rfl
  | cons token tokens ih =>
      cases htoken : parse token with
      | ok a =>
          rw [readable_cons_ok parse htoken, Spec.rejected_cons_ok parse htoken]
          simp only [List.length_cons]
          omega
      | error e =>
          rw [readable_cons_error parse htoken, Spec.rejected_cons_error parse htoken]
          simp only [List.length_cons]
          omega

/-- Every token of a list is either built or lost. -/
theorem exists_built_of_list {s : Spec} (hlist : s.isList = true) (hdepth : s.depth ≤ maxDepth) :
    ∃ x : Nested α, (build parse s).built = some x ∧ x.leaves = readable parse s.leaves ∧
      x.leaves.length + (Spec.losses parse s).length = s.leaves.length := by
  cases s with
  | leaf token => simp [Nested.isList] at hlist
  | list items =>
      have husable : Spec.isUsable (fun token => (parse token).isOk) (.list items) = true := by
        simpa [Spec.isUsable] using hdepth
      rcases exists_built parse husable with ⟨x, hx, hleaves⟩
      have hlosses : Spec.losses parse (.list items) =
          Spec.rejected parse .element (Nested.leavesAll items) := by
        simp [Spec.losses, Nat.not_lt.2 hdepth]
      refine ⟨x, hx, hleaves, ?_⟩
      rw [hleaves, hlosses]
      exact length_readable_add_length_rejected parse .element (Nested.leavesAll items)

end Side

/-! ## Entries -/

namespace Entry

variable [PatternEngine]

/-- What an entry loses on one side. -/
def losses : Slot → Entry → List Drop
  | .condition, e => Spec.losses Condition.parse e.1
  | .action, e => Spec.losses Action.parse e.2

/-- What is to be reported on an entry, its condition first. -/
def reports (n : Nat) (e : Entry) : List Diagnostic :=
  (losses .condition e).map (⟨n, .condition, ·⟩) ++ (losses .action e).map (⟨n, .action, ·⟩)

/-- The rule that an entry becomes. -/
def rule? (e : Entry) : Option Rule :=
  match (Side.condition e.1).built, (Side.action e.2).built with
  | some c, some a => some ⟨c, a⟩
  | _, _ => none

theorem losses_condition (e : Entry) : losses .condition e = Spec.losses Test.parse e.1 :=
  Spec.losses_map Test.parse Nested.leaf e.1

theorem losses_action (e : Entry) : losses .action e = Spec.losses Change.parse e.2 :=
  Spec.losses_map Change.parse Nested.leaf e.2

theorem diagnostics_ofEntry (n : Nat) (e : Entry) :
    (Compiled.ofEntry n e).diagnostics = reports n e := by
  simp only [Compiled.ofEntry, reports, losses_condition, losses_action, Side.condition, Side.action,
    Side.drops_build]

theorem rules_ofEntry (n : Nat) (e : Entry) : (Compiled.ofEntry n e).rules = (rule? e).toList := by
  simp only [Compiled.ofEntry, rule?]
  cases (Side.condition e.1).built <;> cases (Side.action e.2).built <;> rfl

theorem entry_of_mem_reports {n : Nat} {e : Entry} {d : Diagnostic} (h : d ∈ reports n e) :
    d.entry = n := by
  rcases List.mem_append.1 h with h | h
  · rcases List.mem_map.1 h with ⟨_, _, rfl⟩
    rfl
  · rcases List.mem_map.1 h with ⟨_, _, rfl⟩
    rfl

/-- An entry becomes a rule unless one of its two sides is lost. -/
theorem isSome_rule?_iff (e : Entry) :
    (rule? e).isSome = true ↔ ∀ slot, ∀ d ∈ losses slot e, d.loss ≠ .rule := by
  have hcondition := Side.isSome_built_iff Test.parse e.1
  have haction := Side.isSome_built_iff Change.parse e.2
  rw [← losses_condition] at hcondition
  rw [← losses_action] at haction
  have hrule : (rule? e).isSome =
      ((Side.condition e.1).built.isSome && (Side.action e.2).built.isSome) := by
    simp only [rule?]
    cases (Side.condition e.1).built <;> cases (Side.action e.2).built <;> rfl
  rw [hrule, Bool.and_eq_true]
  constructor
  · rintro ⟨hc, ha⟩ slot
    cases slot with
    | condition => exact hcondition.1 hc
    | action => exact haction.1 ha
  · intro h
    exact ⟨hcondition.2 (h .condition), haction.2 (h .action)⟩

theorem filter_reports_self (n : Nat) (e : Entry) (slot : Slot) :
    ((reports n e).filter fun d => d.entry == n && d.slot == slot) =
      (losses slot e).map (⟨n, slot, ·⟩) := by
  have hown (drops : List Drop) : ((drops.map fun drop => (⟨n, slot, drop⟩ : Diagnostic)).filter
      fun d => d.entry == n && d.slot == slot) = drops.map (⟨n, slot, ·⟩) := by
    refine List.filter_eq_self.2 ?_
    intro d hd
    rcases List.mem_map.1 hd with ⟨_, _, rfl⟩
    simp
  have hother {other : Slot} (h : other ≠ slot) (drops : List Drop) :
      ((drops.map fun drop => (⟨n, other, drop⟩ : Diagnostic)).filter
        fun d => d.entry == n && d.slot == slot) = [] := by
    refine List.filter_eq_nil_iff.2 ?_
    intro d hd
    rcases List.mem_map.1 hd with ⟨_, _, rfl⟩
    simp [h]
  cases slot with
  | condition =>
      rw [reports, List.filter_append, hown, hother (by simp), List.append_nil]
  | action =>
      rw [reports, List.filter_append, hown, hother (by simp), List.nil_append]

end Entry

/-! ## Documents -/

namespace Compiled

/-- The diagnostics about one side of one entry. -/
def about (c : Compiled) (n : Nat) (slot : Slot) : List Diagnostic :=
  c.diagnostics.filter fun d => d.entry == n && d.slot == slot

theorem mem_about {c : Compiled} {n : Nat} {slot : Slot} {d : Diagnostic} :
    d ∈ c.about n slot ↔ d ∈ c.diagnostics ∧ d.entry = n ∧ d.slot = slot := by
  simp [about]

variable [PatternEngine]

theorem diagnostics_ofEntriesFrom (es : List Entry) : ∀ n : Nat,
    (ofEntriesFrom n es).diagnostics = (es.zipIdx n).flatMap fun p => Entry.reports p.2 p.1 := by
  induction es with
  | nil =>
      intro n
      rfl
  | cons e es ih =>
      intro n
      simp [ofEntriesFrom, Entry.diagnostics_ofEntry, ih (n + 1)]

theorem rules_ofEntriesFrom (es : List Entry) : ∀ n : Nat,
    (ofEntriesFrom n es).rules = es.filterMap Entry.rule? := by
  induction es with
  | nil =>
      intro n
      rfl
  | cons e es ih =>
      intro n
      simp only [ofEntriesFrom, Entry.rules_ofEntry, ih (n + 1), List.filterMap_cons]
      cases Entry.rule? e <;> rfl

theorem le_entry_of_mem_ofEntriesFrom {es : List Entry} {n : Nat} {d : Diagnostic}
    (h : d ∈ (ofEntriesFrom n es).diagnostics) : n ≤ d.entry := by
  rw [diagnostics_ofEntriesFrom] at h
  rcases List.mem_flatMap.1 h with ⟨p, hp, hd⟩
  have hentry := Entry.entry_of_mem_reports hd
  have hposition := List.le_snd_of_mem_zipIdx hp
  omega

/-- What is reported on one side of an entry is what that side loses. -/
theorem about_ofEntriesFrom (slot : Slot) (es : List Entry) : ∀ (n k : Nat) (e : Entry),
    es[k]? = some e →
      (ofEntriesFrom n es).about (n + k) slot = (Entry.losses slot e).map (⟨n + k, slot, ·⟩) := by
  induction es with
  | nil =>
      intro n k e hk
      simp at hk
  | cons first es ih =>
      intro n k e hk
      have hsplit : (ofEntriesFrom n (first :: es)).about (n + k) slot =
          ((Entry.reports n first).filter fun d => d.entry == n + k && d.slot == slot) ++
            (ofEntriesFrom (n + 1) es).about (n + k) slot := by
        simp [about, ofEntriesFrom, Entry.diagnostics_ofEntry]
      cases k with
      | zero =>
          obtain rfl : first = e := by simpa using hk
          -- the entries after it have higher numbers
          have hlater : (ofEntriesFrom (n + 1) es).about n slot = [] := by
            refine List.filter_eq_nil_iff.2 ?_
            intro d hd
            have hle := le_entry_of_mem_ofEntriesFrom hd
            have hne : d.entry ≠ n := by omega
            simp [hne]
          rw [hsplit, Nat.add_zero, Entry.filter_reports_self, hlater, List.append_nil]
      | succ k =>
          -- the first entry has a lower number, so that the others account for all of it
          have hfirst : ((Entry.reports n first).filter fun d =>
              d.entry == n + (k + 1) && d.slot == slot) = [] := by
            refine List.filter_eq_nil_iff.2 ?_
            intro d hd
            have hne : d.entry ≠ n + (k + 1) := by
              have hentry := Entry.entry_of_mem_reports hd
              omega
            simp [hne]
          have hrest := ih (n + 1) k e (by simpa using hk)
          rw [Nat.add_right_comm n 1 k] at hrest
          rw [hsplit, hfirst, List.nil_append]
          exact hrest

theorem about_ofEntries {es : List Entry} {n : Nat} {e : Entry} (h : es[n]? = some e)
    (slot : Slot) : (ofEntries es).about n slot = (Entry.losses slot e).map (⟨n, slot, ·⟩) := by
  have habout := about_ofEntriesFrom slot es 0 n e h
  rwa [Nat.zero_add] at habout

/-- An entry becomes a rule unless a report says that the rule is lost. -/
theorem isSome_rule?_iff_reports {es : List Entry} {n : Nat} {e : Entry} (h : es[n]? = some e) :
    (Entry.rule? e).isSome = true ↔
      ∀ d ∈ (ofEntries es).diagnostics, d.entry = n → d.drop.loss ≠ .rule := by
  rw [Entry.isSome_rule?_iff]
  constructor
  · intro hkept d hd hentry
    have habout : d ∈ (ofEntries es).about n d.slot := mem_about.2 ⟨hd, hentry, rfl⟩
    rw [about_ofEntries h] at habout
    rcases List.mem_map.1 habout with ⟨drop, hdrop, hd'⟩
    rw [← hd']
    exact hkept d.slot drop hdrop
  · intro hkept slot drop hdrop
    have habout : (⟨n, slot, drop⟩ : Diagnostic) ∈ (ofEntries es).about n slot := by
      rw [about_ofEntries h]
      exact List.mem_map.2 ⟨drop, hdrop, rfl⟩
    exact hkept _ (mem_about.1 habout).1 rfl

end Compiled

open Compiled in
/-- The diagnostics of a document are the losses of its entries, in order; the rules are what
becomes of the entries of which no report says that they are lost; and of a list that is not nested
too deep every token is either built or reported. -/
theorem ofEntries_accounts [PatternEngine] (es : List Entry) :
    (ofEntries es).diagnostics = (es.zipIdx.flatMap fun p => Entry.reports p.2 p.1) ∧
      (ofEntries es).rules = es.filterMap Entry.rule? ∧
      ∀ n e, es[n]? = some e →
        ((Entry.rule? e).isSome = true ↔
          ∀ d ∈ (ofEntries es).diagnostics, d.entry = n → d.drop.loss ≠ .rule) ∧
        (e.1.isList = true → e.1.depth ≤ maxDepth → ∃ c, (Side.condition e.1).built = some c ∧
          c.leaves = Side.readable Test.parse e.1.leaves ∧
          c.leaves.length + ((ofEntries es).about n .condition).length = e.1.leaves.length) ∧
        (e.2.isList = true → e.2.depth ≤ maxDepth → ∃ a, (Side.action e.2).built = some a ∧
          a.leaves = Side.readable Change.parse e.2.leaves ∧
          a.leaves.length + ((ofEntries es).about n .action).length = e.2.leaves.length) := by
  refine ⟨diagnostics_ofEntriesFrom es 0, rules_ofEntriesFrom es 0, ?_⟩
  intro n e hn
  refine ⟨isSome_rule?_iff_reports hn, ?_, ?_⟩
  · intro hlist hdepth
    rw [about_ofEntries hn, List.length_map, Entry.losses_condition]
    exact Side.exists_built_of_list Test.parse hlist hdepth
  · intro hlist hdepth
    rw [about_ofEntries hn, List.length_map, Entry.losses_action]
    exact Side.exists_built_of_list Change.parse hlist hdepth

end MailRules

import MailRules.Loader
import MailRules.Proofs.CacheView

/-!
# Resolution — the three ways of asking for rules by identifier

Asking for the rules of an identifier goes one of three ways: the cache keeps some already; the
document yields some, which are kept from now on; or there are none.  This file defines:

* `Source.rulesOf?`, the rules that a source has for an identifier at one moment;
* `Cache.keep`, the cache after a new rule set was made and kept;

and proves `Loader.resolveNamed_of_kept`, `Loader.resolveNamed_of_made` and
`Loader.resolveNamed_of_failed`, which tell the result, the questions and the cache for each way.
-/

namespace MailRules

/-! ## What a source has -/

namespace Source

/-- The rules of a document, if there is one, it can be loaded and rules come of it. -/
def rulesOf? [PatternEngine] (s : Source) (key : String) : Option RuleSet :=
  if s.holds key then
    match s.load key with
    | .ok entries => (Loader.usable entries).1
    | .error _ => none
  else none

/-- The questions that it takes to find out. -/
def questions (s : Source) (key : String) : List SourceCall :=
  if s.holds key then [.holds key, .load key] else [.holds key]

end Source

section Rules

variable [PatternEngine]

theorem Loader.usable_eq_some_iff {entries : List Entry} {rules : RuleSet} :
    (usable entries).1 = some rules ↔ (Compiled.ofEntries entries).rules = rules ∧ rules ≠ [] := by
  simp only [usable]
  split
  · next hempty =>
      rw [List.isEmpty_iff] at hempty
      simp only [reduceCtorEq, false_iff, not_and, not_not]
      intro h
      rw [← h, hempty]
  · next hsome =>
      rw [List.isEmpty_iff] at hsome
      simp only [Option.some.injEq]
      constructor
      · intro h
        exact ⟨h, h ▸ hsome⟩
      · intro h
        exact h.1

theorem Loader.usable_eq_none_iff {entries : List Entry} :
    (usable entries).1 = none ↔ (Compiled.ofEntries entries).rules = [] := by
  simp only [usable]
  split
  · next hempty => simpa using hempty
  · next hsome => simpa using hsome

theorem Source.rulesOf?_eq_some_iff {s : Source} {key : String} {rules : RuleSet} :
    s.rulesOf? key = some rules ↔ s.holds key = true ∧ ∃ entries, s.load key = .ok entries ∧
      (Compiled.ofEntries entries).rules = rules ∧ rules ≠ [] := by
  unfold Source.rulesOf?
  by_cases hholds : s.holds key = true
  · cases hload : s.load key with
    | error e => simp
    | ok entries => simp [hholds, Loader.usable_eq_some_iff]
  · simp [hholds]

end Rules

/-! ## The cache after a rule set was made -/

namespace Cache

variable (c : Cache) (key : String) (rules : RuleSet)

/-- Makes a rule set and keeps it under an identifier. -/
def keep : Cache := ((c.openSlot key).stamped rules).2.fill key ⟨c.made, rules⟩

@[simp] theorem made_keep : (c.keep key rules).made = c.made + 1 := rfl

theorem get?_keep_self (hempty : c.get? key = none) :
    (c.keep key rules).get? key = some ⟨c.made, rules⟩ := by
  refine get?_fill_self _ _ ?_ ?_
  · rw [keys_stamped, mem_keys_openSlot]
    exact .inl rfl
  · rw [get?_stamped, get?_openSlot]
    exact hempty

theorem get?_keep_of_ne {k : String} (h : k ≠ key) : (c.keep key rules).get? k = c.get? k := by
  unfold keep
  rw [get?_fill_of_ne _ _ _ h, get?_stamped, get?_openSlot]

theorem mem_keys_keep {k : String} : k ∈ (c.keep key rules).keys ↔ k = key ∨ k ∈ c.keys := by
  unfold keep
  rw [keys_fill, keys_stamped, mem_keys_openSlot]

end Cache

/-! ## Asking for rules -/

namespace Loader

variable [PatternEngine] {s : Source} {cache : Cache} {key id : String}

theorem loadInto_of_made {rules : RuleSet} (hrules : s.rulesOf? key = some rules) :
    (loadInto s cache key).rules = some ⟨cache.made, rules⟩ ∧
      (loadInto s cache key).calls = s.questions key ∧
      (loadInto s cache key).cache = (cache.stamped rules).2.fill key ⟨cache.made, rules⟩ := by
  rcases Source.rulesOf?_eq_some_iff.1 hrules with ⟨hholds, entries, hload, husable⟩
  have husable := usable_eq_some_iff.2 husable
  rcases hu : usable entries with ⟨made, events⟩
  rw [hu] at husable
  cases husable
  simp [loadInto, Source.questions, hholds, hload, hu, Cache.stamped]

theorem loadInto_of_failed (hrules : s.rulesOf? key = none) :
    (loadInto s cache key).rules = none ∧ (loadInto s cache key).calls = s.questions key ∧
      (loadInto s cache key).cache = cache := by
  simp only [Source.rulesOf?] at hrules
  cases hholds : s.holds key with
  | false => simp [loadInto, Source.questions, hholds]
  | true =>
      cases hload : s.load key with
      | error e => simp [loadInto, Source.questions, hholds, hload]
      | ok entries =>
          rcases hu : usable entries with ⟨made, events⟩
          simp only [hholds, hload, hu, if_true] at hrules
          subst hrules
          simp [loadInto, Source.questions, hholds, hload, hu]

theorem resolveNamed_of_kept {shared : SharedRules}
    (h : cache.get? (s.canonicalId id) = some shared) :
    (resolveNamed s cache id).rules = some shared ∧ (resolveNamed s cache id).calls = [] ∧
      (resolveNamed s cache id).cache = cache.openSlot (s.canonicalId id) := by
  simp [resolveNamed, Cache.get?_openSlot, h]

theorem resolveNamed_eq_loadInto (h : cache.get? (s.canonicalId id) = none) :
    resolveNamed s cache id = loadInto s (cache.openSlot (s.canonicalId id)) (s.canonicalId id) := by
  simp [resolveNamed, Cache.get?_openSlot, h]

theorem resolveNamed_of_made {rules : RuleSet} (h : cache.get? (s.canonicalId id) = none)
    (hrules : s.rulesOf? (s.canonicalId id) = some rules) :
    (resolveNamed s cache id).rules = some ⟨cache.made, rules⟩ ∧
      (resolveNamed s cache id).calls = s.questions (s.canonicalId id) ∧
      (resolveNamed s cache id).cache = cache.keep (s.canonicalId id) rules := by
  rw [resolveNamed_eq_loadInto h]
  exact loadInto_of_made hrules

theorem resolveNamed_of_failed (h : cache.get? (s.canonicalId id) = none)
    (hrules : s.rulesOf? (s.canonicalId id) = none) :
    (resolveNamed s cache id).rules = none ∧
      (resolveNamed s cache id).calls = s.questions (s.canonicalId id) ∧
      (resolveNamed s cache id).cache = cache.openSlot (s.canonicalId id) := by
  rw [resolveNamed_eq_loadInto h]
  exact loadInto_of_failed hrules

theorem resolveInline_of_made (cache : Cache) {entries : List Entry} {rules : RuleSet}
    (h : (usable entries).1 = some rules) :
    (resolveInline cache entries).rules = some ⟨cache.made, rules⟩ ∧
      (resolveInline cache entries).calls = [] ∧
      (resolveInline cache entries).cache = (cache.stamped rules).2 := by
  rcases hu : usable entries with ⟨made, events⟩
  rw [hu] at h
  cases h
  simp [resolveInline, hu, Cache.stamped]

theorem resolveInline_of_failed (cache : Cache) {entries : List Entry}
    (h : (usable entries).1 = none) :
    (resolveInline cache entries).rules = none ∧ (resolveInline cache entries).calls = [] ∧
      (resolveInline cache entries).cache = cache := by
  rcases hu : usable entries with ⟨made, events⟩
  rw [hu] at h
  cases h
  simp [resolveInline, hu]

end Loader
end MailRules

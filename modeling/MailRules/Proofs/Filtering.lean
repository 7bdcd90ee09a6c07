import MailRules.Filter
import MailRules.Proofs.Session
import MailRules.Proofs.Tracing

/-!
# Filtering — messages filtered over time

A filter asks for rules each time it is given a message, so that what it does depends on what was
asked for earlier.  This file defines:

* `RuleSource.key?`, the identifier that rules are looked up under;
* `Source.document?`, the document that a source has for an identifier, if rules come of it;
* `Session.firstFound?`, the source with which the rules of an identifier were found first, as it
  was at that time;

and proves `Session.filtering_frozen`: from the first request on that finds rules for an identifier,
a filter uses the document that this request loaded.  Before, it uses the document as it is now, and
without one it leaves the message alone.
-/

namespace MailRules

/-! ## What a filter does -/

namespace Filter

variable [PatternEngine] (s : Source) (cache : Cache) (source : RuleSource) (m : Message)

/-- The rules that are found, or else none at all. -/
def rulesUsed : RuleSet := ((Loader.resolve s cache source).rules.map SharedRules.rules).getD []

@[simp] theorem resolution_apply :
    (apply s cache source m).resolution = Loader.resolve s cache source := by
  cases hrules : (Loader.resolve s cache source).rules <;> simp [apply, hrules]

@[simp] theorem resolution_applyWithTrace :
    (applyWithTrace s cache source m).resolution = Loader.resolve s cache source := by
  cases hrules : (Loader.resolve s cache source).rules <;> simp [applyWithTrace, hrules]

/-- No rules do as little as a pass of an empty rule set. -/
theorem apply_eq_pass :
    (apply s cache source m).message = ((rulesUsed s cache source).pass m).message ∧
      (apply s cache source m).fired = ((rulesUsed s cache source).pass m).fired.length := by
  cases hrules : (Loader.resolve s cache source).rules with
  | none => simp [apply, rulesUsed, hrules, RuleSet.pass, RuleSet.passFrom]
  | some shared => simp [apply, rulesUsed, hrules]

theorem applyWithTrace_eq_apply :
    (applyWithTrace s cache source m).message = (apply s cache source m).message ∧
      (applyWithTrace s cache source m).trace.map Trace.fired =
        (Loader.resolve s cache source).rules.map fun _ => (apply s cache source m).fired := by
  cases hrules : (Loader.resolve s cache source).rules with
  | none => simp [apply, applyWithTrace, hrules]
  | some shared => simp [apply, applyWithTrace, hrules, Trace.message_pass, Trace.fired_pass]

end Filter

/-! ## Rules asked for by identifier -/

namespace RuleSource

/-- The rules of a document that is given by name, or else of the standard one. -/
def byName : Option String → RuleSource
  | some id => .named id
  | none => .standard

/-- The identifier that rules are looked up under, as a source spells it at one moment. -/
def key? (s : Source) : RuleSource → Option String
  | .named id => some (s.canonicalId id)
  | .standard => s.defaultId.map s.canonicalId
  | .inline _ => none

end RuleSource

namespace Loader

variable [PatternEngine] {s : Source} {cache : Cache} {source : RuleSource} {key : String}

/-- Afterwards the cache holds what was found for the identifier, and the rest as before. -/
theorem get?_resolveNamed (id : String) : (resolveNamed s cache id).cache.get? key =
    if s.canonicalId id = key then (resolveNamed s cache id).rules else cache.get? key := by
  cases hget : cache.get? (s.canonicalId id) with
  | some shared =>
      rcases resolveNamed_of_kept hget with ⟨hrules, _, hcache⟩
      by_cases hkey : s.canonicalId id = key
      · simp [hcache, hrules, hkey, ← hget]
      · simp [hcache, hkey]
  | none =>
      cases hmade : s.rulesOf? (s.canonicalId id) with
      | some rules =>
          rcases resolveNamed_of_made hget hmade with ⟨hrules, _, hcache⟩
          by_cases hkey : s.canonicalId id = key
          · subst hkey
            simp [hcache, hrules, Cache.get?_keep_self cache _ rules hget]
          · simp [hcache, hkey, Cache.get?_keep_of_ne cache _ rules (Ne.symm hkey)]
      | none =>
          rcases resolveNamed_of_failed hget hmade with ⟨hrules, _, hcache⟩
          by_cases hkey : s.canonicalId id = key
          · simp [hcache, hrules, hkey, ← hget]
          · simp [hcache, hkey]

theorem rules_resolveNamed (id : String) :
    (resolveNamed s cache id).rules.map SharedRules.rules =
      ((cache.get? (s.canonicalId id)).map SharedRules.rules).or (s.rulesOf? (s.canonicalId id)) := by
  cases hget : cache.get? (s.canonicalId id) with
  | some shared => simp [(resolveNamed_of_kept hget).1]
  | none =>
      cases hmade : s.rulesOf? (s.canonicalId id) with
      | some rules => simp [(resolveNamed_of_made hget hmade).1]
      | none => simp [(resolveNamed_of_failed hget hmade).1]

theorem get?_resolve : (resolve s cache source).cache.get? key =
    if source.key? s = some key then (resolve s cache source).rules else cache.get? key := by
  cases source with
  | named id => simpa [resolve, RuleSource.key?] using get?_resolveNamed id
  | standard =>
      cases hid : s.defaultId with
      | some id => simpa [resolve, RuleSource.key?, hid] using get?_resolveNamed id
      | none => simp [resolve, RuleSource.key?, hid]
  | inline entries =>
      -- given entries use up a number at most
      cases hrules : (usable entries).1 with
      | some rules =>
          simp [resolve, RuleSource.key?, (resolveInline_of_made cache hrules).2.2]
      | none =>
          simp [resolve, RuleSource.key?, (resolveInline_of_failed cache hrules).2.2]

theorem rules_resolve (hkey : source.key? s = some key) :
    (resolve s cache source).rules.map SharedRules.rules =
      ((cache.get? key).map SharedRules.rules).or (s.rulesOf? key) := by
  cases source with
  | named id =>
      obtain rfl : s.canonicalId id = key := by simpa [RuleSource.key?] using hkey
      exact rules_resolveNamed id
  | standard =>
      rcases Option.map_eq_some_iff.1 hkey with ⟨id, hid, rfl⟩
      simpa [resolve, hid] using rules_resolveNamed id
  | inline entries => simp [RuleSource.key?] at hkey

theorem rules_resolve_of_no_key {name : Option String}
    (hkey : (RuleSource.byName name).key? s = none) :
    (resolve s cache (.byName name)).rules = none := by
  cases name with
  | some id => simp [RuleSource.byName, RuleSource.key?] at hkey
  | none =>
      have hid : s.defaultId = none := by simpa [RuleSource.byName, RuleSource.key?] using hkey
      simp [resolve, RuleSource.byName, hid]

end Loader

/-! ## Documents that rules come of -/

/-- The document of an identifier, if there is one, it can be loaded and rules come of it. -/
def Source.document? [PatternEngine] (s : Source) (key : String) : Option (List Entry) :=
  if s.holds key then
    match s.load key with
    | .ok entries => if (Compiled.ofEntries entries).rules.isEmpty then none else some entries
    | .error _ => none
  else none

theorem Source.rulesOf?_eq_map_document? [PatternEngine] (s : Source) (key : String) :
    s.rulesOf? key = (s.document? key).map fun entries => (Compiled.ofEntries entries).rules := by
  unfold rulesOf? document?
  cases s.holds key with
  | false => rfl
  | true =>
      cases s.load key with
      | error e => rfl
      | ok entries =>
          cases hrules : (Loader.usable entries).1 with
          | none =>
              have hempty := Loader.usable_eq_none_iff.1 hrules
              simp [hrules, hempty]
          | some rules =>
              have hsome := Loader.usable_eq_some_iff.1 hrules
              simp [hrules, hsome.1, hsome.2]

/-! ## The first request that finds rules -/

namespace Session

variable [PatternEngine]

/-- The source of a request that asks for the rules of an identifier and finds some. -/
def found? (σ : Session) (key : String) : Request → Option Source
  | .resolve loader source =>
      let s := σ.sources loader
      if source.key? s = some key ∧ (Loader.resolve s σ.cache source).rules.isSome = true then some s
      else none
  | _ => none

/-- The source of the first such request, as it was at that time. -/
def firstFound? (σ : Session) (key : String) : List Request → Option Source
  | [] => none
  | q :: rest => (σ.found? key q).or ((σ.handle q).firstFound? key rest)

section Step

variable {σ : Session} {key : String} {q : Request}

theorem found?_eq_some_iff {s : Source} : σ.found? key q = some s ↔
    ∃ loader source, q = .resolve loader source ∧ s = σ.sources loader ∧ source.key? s = some key ∧
      (Loader.resolve s σ.cache source).rules.isSome = true := by
  constructor
  · intro h
    cases q with
    | resolve loader source =>
        simp only [found?] at h
        split at h
        · next hfound =>
            cases h
            exact ⟨loader, source, rfl, rfl, hfound⟩
        · cases h
    | _ => cases h
  · rintro ⟨loader, source, rfl, rfl, hfound⟩
    exact if_pos hfound

theorem get?_handle_resolve {loader : Nat} {source : RuleSource} :
    (σ.handle (.resolve loader source)).cache.get? key =
      if source.key? (σ.sources loader) = some key then
        (Loader.resolve (σ.sources loader) σ.cache source).rules
      else σ.cache.get? key :=
  Loader.get?_resolve

/-- A request for other identifiers, or one that finds nothing, leaves an identifier as it is. -/
theorem get?_handle_of_not_found (hget : σ.cache.get? key = none) (hfound : σ.found? key q = none) :
    (σ.handle q).cache.get? key = none := by
  cases q with
  | resolve loader source =>
      rw [get?_handle_resolve]
      split
      · next hkey =>
          simpa [found?, hkey] using hfound
      · exact hget
  | _ => exact hget

theorem get?_handle_of_found {s : Source} (hget : σ.cache.get? key = none)
    (hfound : σ.found? key q = some s) :
    ((σ.handle q).cache.get? key).map SharedRules.rules = s.rulesOf? key ∧
      ((σ.handle q).cache.get? key).isSome = true := by
  rcases found?_eq_some_iff.1 hfound with ⟨loader, source, rfl, rfl, hkey, hsome⟩
  have hcache : (σ.handle (.resolve loader source)).cache.get? key =
      (Loader.resolve (σ.sources loader) σ.cache source).rules :=
    get?_handle_resolve.trans (if_pos hkey)
  have hrules : (Loader.resolve (σ.sources loader) σ.cache source).rules.map SharedRules.rules =
      ((σ.cache.get? key).map SharedRules.rules).or ((σ.sources loader).rulesOf? key) :=
    Loader.rules_resolve hkey
  refine ⟨?_, ?_⟩
  · simpa [hcache, hget] using hrules
  · simpa [hcache] using hsome

theorem get?_handle_of_kept {shared : SharedRules} (hget : σ.cache.get? key = some shared) :
    ((σ.handle q).cache.get? key).map SharedRules.rules = some shared.rules := by
  cases q with
  | resolve loader source =>
      rw [get?_handle_resolve]
      split
      · next hkey =>
          -- what is kept is found again, whatever the source holds
          rw [Loader.rules_resolve hkey, hget]
          rfl
      · simp [hget]
  | _ => simp [handle, answer, hget]

end Step

/-! ## Runs -/

theorem get?_run_of_kept {key : String} {rules : RuleSet} (requests : List Request) :
    ∀ σ : Session, (σ.cache.get? key).map SharedRules.rules = some rules →
      ((σ.run requests).cache.get? key).map SharedRules.rules = some rules := by
  induction requests with
  | nil =>
      intro σ h
      exact h
  | cons q rest ih =>
      intro σ h
      rcases Option.map_eq_some_iff.1 h with ⟨shared, hget, rfl⟩
      exact ih (σ.handle q) (get?_handle_of_kept hget)

/-- What the cache holds for an identifier is what the first request for it found. -/
theorem get?_run (key : String) (requests : List Request) :
    ∀ σ : Session, σ.cache.get? key = none →
      ((σ.run requests).cache.get? key).map SharedRules.rules =
          (σ.firstFound? key requests).bind (fun s => s.rulesOf? key) ∧
        ∀ s, σ.firstFound? key requests = some s → (s.rulesOf? key).isSome = true := by
  induction requests with
  | nil =>
      intro σ hget
      refine ⟨?_, nofun⟩
      simp [run, hget, firstFound?]
  | cons q rest ih =>
      intro σ hget
      have hrun : σ.run (q :: rest) = (σ.handle q).run rest := rfl
      cases hfound : σ.found? key q with
      | none =>
          have hlater := ih (σ.handle q) (get?_handle_of_not_found hget hfound)
          simpa [hrun, firstFound?, hfound] using hlater
      | some s =>
          -- from here on the rules are kept, whatever the later requests are
          rcases get?_handle_of_found hget hfound with ⟨hrules, hsome⟩
          have hsome' : (s.rulesOf? key).isSome = true := by
            rw [← hrules, Option.isSome_map]
            exact hsome
          rcases Option.isSome_iff_exists.1 hsome' with ⟨rules, hrulesOf⟩
          have hkept := get?_run_of_kept rest (σ.handle q) (hrules.trans hrulesOf)
          refine ⟨?_, ?_⟩
          · simpa [hrun, firstFound?, hfound, hrulesOf] using hkept
          · intro s' hs'
            obtain rfl : s = s' := by simpa [firstFound?, hfound] using hs'
            exact hsome'

/-- The document that a filter uses after a history of requests: the one that was loaded when rules
were first found for the identifier, or else the one that the source has now. -/
def documentUsed? (sources : Nat → Source) (history : List Request) (now : Source)
    (source : RuleSource) : Option (List Entry) :=
  (source.key? now).bind fun key =>
    (((start sources).firstFound? key history).getD now).document? key

theorem rules_resolve_run (sources : Nat → Source) (history : List Request) (now : Source)
    (name : Option String) :
    (Loader.resolve now ((start sources).run history).cache (.byName name)).rules.map
        SharedRules.rules =
      (documentUsed? sources history now (.byName name)).map fun entries =>
        (Compiled.ofEntries entries).rules := by
  cases hkey : (RuleSource.byName name).key? now with
  | none => simp [documentUsed?, hkey, Loader.rules_resolve_of_no_key hkey]
  | some key =>
      have hrun := get?_run key history (start sources) rfl
      simp only [documentUsed?, hkey, Option.bind_some, ← Source.rulesOf?_eq_map_document?]
      rw [Loader.rules_resolve hkey, hrun.1]
      cases hfirst : (start sources).firstFound? key history with
      | none => rfl
      | some first =>
          -- rules were found then, so that those of now do not count
          rcases Option.isSome_iff_exists.1 (hrun.2 first hfirst) with ⟨rules, hrulesOf⟩
          simp [hrulesOf]

/-- After any requests and changes of documents, a filter that is given a document by name, or no
name, uses the document with which rules were first found under its identifier; this document has
rules.  If none were found so far, it uses the document that is there now, if that has rules; and if
it has none, or if there is no identifier, it leaves the message as it is.  A traced filter has a
trace unless there was no document to use, and has the same effects. -/
theorem filtering_frozen (sources : Nat → Source) (history : List Request) (loader : Nat)
    (name : Option String) (m : Message) :
    let σ := (start sources).run history
    let now := σ.sources loader
    let source := RuleSource.byName name
    let document := documentUsed? sources history now source
    let plain := Filter.apply now σ.cache source m
    let traced := Filter.applyWithTrace now σ.cache source m
    (∀ key first, (start sources).firstFound? key history = some first →
        (first.document? key).isSome = true) ∧
      (∀ entries, document = some entries →
        plain.message = ((Compiled.ofEntries entries).rules.pass m).message ∧
          plain.fired = ((Compiled.ofEntries entries).rules.pass m).fired.length) ∧
      (document = none → plain.message = m ∧ plain.fired = 0) ∧
      traced.trace.map Trace.fired = document.map (fun _ => plain.fired) ∧
      traced.message = plain.message ∧
      traced.resolution.cache = plain.resolution.cache ∧
      plain.resolution.cache = (σ.handle (.resolve loader source)).cache := by
  intro σ now source document plain traced
  have hrules : (Loader.resolve now σ.cache source).rules.map SharedRules.rules =
      document.map fun entries => (Compiled.ofEntries entries).rules :=
    rules_resolve_run sources history now name
  have hplain := Filter.apply_eq_pass now σ.cache source m
  have htraced := Filter.applyWithTrace_eq_apply now σ.cache source m
  have hcache : plain.resolution.cache = (σ.handle (.resolve loader source)).cache :=
    congrArg Resolution.cache (Filter.resolution_apply now σ.cache source m)
  have hsame : traced.resolution.cache = plain.resolution.cache :=
    (congrArg Resolution.cache (Filter.resolution_applyWithTrace now σ.cache source m)).trans
      hcache.symm
  refine ⟨?_, ?_, ?_, ?_, htraced.1, hsame, hcache⟩
  · intro key first hfirst
    have hsome := (get?_run key history (start sources) rfl).2 first hfirst
    simpa [Source.rulesOf?_eq_map_document?] using hsome
  · intro entries hentries
    simpa [Filter.rulesUsed, hrules, hentries] using hplain
  · intro hnone
    simpa [Filter.rulesUsed, hrules, hnone, RuleSet.pass, RuleSet.passFrom] using hplain
  · have hcount := congrArg (Option.map fun _ => plain.fired) hrules
    simp only [Option.map_map, Function.comp_def] at hcount
    exact htraced.2.trans hcount

end Session
end MailRules

import Mathlib.Logic.Function.Basic
import MailRules.Proofs.Resolution

/-!
# Session — loaders that share a cache, over time

A session is a cache with any number of loaders, each with a source of its own.  Between requests
the sources may change in any way: documents come, go and are replaced.  This file defines:

* `Session.handle` and `Session.run`, the requests and their answers;
* `Known`, a partial map from identifiers to rule sets, and `Known.Step`, which tells from such a
  map alone how a request may be answered and how the map grows by it;

and proves `Session.log_runs_known`: whatever the requests are, a session answers them as the map
does.  Slots, and what failed requests leave in them, play no part in `Known`.
-/

namespace MailRules

/-! ## Requests -/

inductive Request where
  | resolve (loader : Nat) (source : RuleSource)
  /-- From now on the loader finds other documents, or the same ones elsewhere. -/
  | change (loader : Nat) (now : Source)
  | get (key : String)
  | contains (key : String)
  | isCached (loader : Nat) (id : String)
  | ids
  | size
  | isEmpty

inductive Answer where
  | rules (found : Option SharedRules) (calls : List SourceCall)
  | truth (b : Bool)
  | names (ids : List String)
  | count (n : Nat)
  | done

/-- What the loaders find after a request. -/
def Request.sourcesAfter (sources : Nat → Source) : Request → Nat → Source
  | .change loader now => Function.update sources loader now
  | _ => sources

structure Session where
  cache : Cache
  sources : Nat → Source

namespace Session

def start (sources : Nat → Source) : Session := ⟨Cache.empty, sources⟩

variable [PatternEngine]

/-- The answer to a request, and the cache after it. -/
def answer (σ : Session) : Request → Answer × Cache
  | .resolve loader source =>
      let r := Loader.resolve (σ.sources loader) σ.cache source
      (.rules r.rules r.calls, r.cache)
  | .change _ _ => (.done, σ.cache)
  | .get key => (.rules (σ.cache.get? key) [], σ.cache)
  | .contains key => (.truth (σ.cache.contains key), σ.cache)
  | .isCached loader id => (.truth (Loader.isCached (σ.sources loader) σ.cache id), σ.cache)
  | .ids => (.names σ.cache.ids, σ.cache)
  | .size => (.count σ.cache.size, σ.cache)
  | .isEmpty => (.truth σ.cache.isEmpty, σ.cache)

def handle (σ : Session) (q : Request) : Session := ⟨(σ.answer q).2, q.sourcesAfter σ.sources⟩

def run (σ : Session) (requests : List Request) : Session := requests.foldl handle σ

/-- The requests of a run, each with its answer. -/
def log (σ : Session) : List Request → List (Request × Answer)
  | [] => []
  | q :: rest => (q, (σ.answer q).1) :: log (σ.handle q) rest

end Session

/-! ## What is known -/

/-- The rules known for each identifier, and how many rule sets were made so far.  The next one to
be made gets this number, so that it is no earlier one. -/
structure Known where
  rules : String → Option SharedRules
  made : Nat

namespace Known

def nothing : Known := ⟨fun _ => none, 0⟩

/-- The identifiers that rules are known for, in ascending order. -/
def Lists (k : Known) (ids : List String) : Prop :=
  ids.Pairwise (· < ·) ∧ ∀ key, key ∈ ids ↔ (k.rules key).isSome = true

/-- Rules that are known have a number that was given out, and there is at least one of them. -/
def Sound (k : Known) : Prop :=
  ∀ key shared, k.rules key = some shared → shared.rules ≠ [] ∧ shared.stamp < k.made

/-- Nothing that is known is forgotten or replaced. -/
def Grows (k k' : Known) : Prop :=
  ∀ key shared, k.rules key = some shared → k'.rules key = some shared

theorem sound_nothing : Sound nothing := by
  intro key shared h
  cases h

variable [PatternEngine]

/-- A source says that it has a document, loads it, and rules come of it. -/
def Yields (s : Source) (key : String) (rules : RuleSet) : Prop :=
  s.holds key = true ∧ ∃ entries, s.load key = .ok entries ∧
    (Compiled.ofEntries entries).rules = rules ∧ rules ≠ []

/-- How rules are found by identifier: the result, the questions, and what is known afterwards. -/
inductive Resolves (s : Source) (key : String) (k : Known) :
    Option SharedRules → List SourceCall → Known → Prop where
  | kept {shared : SharedRules} (h : k.rules key = some shared) :
      Resolves s key k (some shared) [] k
  | made {rules : RuleSet} (h : k.rules key = none) (hrules : Yields s key rules) :
      Resolves s key k (some ⟨k.made, rules⟩) [.holds key, .load key]
        ⟨Function.update k.rules key (some ⟨k.made, rules⟩), k.made + 1⟩
  | failed (h : k.rules key = none) (hrules : ∀ rules, ¬ Yields s key rules) :
      Resolves s key k none (s.questions key) k

/-- How a request may be answered, and what is known afterwards. -/
inductive Step (sources : Nat → Source) (k : Known) : Request → Answer → Known → Prop where
  | named {loader : Nat} {id : String} {found : Option SharedRules} {calls : List SourceCall}
      {k' : Known} (h : Resolves (sources loader) ((sources loader).canonicalId id) k found calls k') :
      Step sources k (.resolve loader (.named id)) (.rules found calls) k'
  | standard {loader : Nat} {id : String} {found : Option SharedRules} {calls : List SourceCall}
      {k' : Known} (hid : (sources loader).defaultId = some id)
      (h : Resolves (sources loader) ((sources loader).canonicalId id) k found calls k') :
      Step sources k (.resolve loader .standard) (.rules found calls) k'
  | noStandard {loader : Nat} (hid : (sources loader).defaultId = none) :
      Step sources k (.resolve loader .standard) (.rules none []) k
  | inline {loader : Nat} {entries : List Entry} (h : (Compiled.ofEntries entries).rules ≠ []) :
      Step sources k (.resolve loader (.inline entries))
        (.rules (some ⟨k.made, (Compiled.ofEntries entries).rules⟩) []) ⟨k.rules, k.made + 1⟩
  | inlineEmpty {loader : Nat} {entries : List Entry} (h : (Compiled.ofEntries entries).rules = []) :
      Step sources k (.resolve loader (.inline entries)) (.rules none []) k
  | change {loader : Nat} {now : Source} : Step sources k (.change loader now) .done k
  | get {key : String} : Step sources k (.get key) (.rules (k.rules key) []) k
  | contains {key : String} : Step sources k (.contains key) (.truth (k.rules key).isSome) k
  | isCached {loader : Nat} {id : String} : Step sources k (.isCached loader id)
      (.truth (k.rules ((sources loader).canonicalId id)).isSome) k
  | ids {ids : List String} (h : k.Lists ids) : Step sources k .ids (.names ids) k
  | size {ids : List String} (h : k.Lists ids) : Step sources k .size (.count ids.length) k
  | isEmpty {b : Bool} (h : b = true ↔ ∀ key, k.rules key = none) :
      Step sources k .isEmpty (.truth b) k

/-- One request after the other, with what the loaders find at the time of each. -/
inductive Run : (Nat → Source) → Known → List (Request × Answer) → Known → Prop where
  | nil {sources : Nat → Source} {k : Known} : Run sources k [] k
  | cons {sources : Nat → Source} {k k' k'' : Known} {q : Request} {a : Answer}
      {rest : List (Request × Answer)} (h : Step sources k q a k')
      (hrest : Run (q.sourcesAfter sources) k' rest k'') : Run sources k ((q, a) :: rest) k''

/-! ## What is known only grows -/

theorem Resolves.sound {s : Source} {key : String} {k k' : Known} {found : Option SharedRules}
    {calls : List SourceCall} (h : Resolves s key k found calls k') (hk : k.Sound) : k'.Sound := by
  cases h with
  | kept _ => exact hk
  | failed _ _ => exact hk
  | made hnone hrules =>
      rcases hrules with ⟨_, entries, _, _, hne⟩
      intro key' shared hshared
      by_cases hkey : key' = key
      · subst hkey
        simp only [Function.update_self, Option.some.injEq] at hshared
        subst hshared
        exact ⟨hne, Nat.lt_succ_self _⟩
      · simp only [Function.update_of_ne hkey] at hshared
        have hold := hk key' shared hshared
        exact ⟨hold.1, Nat.lt_succ_of_lt hold.2⟩

theorem Resolves.grows {s : Source} {key : String} {k k' : Known} {found : Option SharedRules}
    {calls : List SourceCall} (h : Resolves s key k found calls k') : k.Grows k' := by
  cases h with
  | kept _ => exact fun _ _ h => h
  | failed _ _ => exact fun _ _ h => h
  | made hnone _ =>
      intro key' shared hshared
      -- the one identifier that changes had no rules before
      have hkey : key' ≠ key := by
        rintro rfl
        rw [hnone] at hshared
        cases hshared
      simpa only [Function.update_of_ne hkey] using hshared

theorem Step.sound_and_grows {sources : Nat → Source} {k k' : Known} {q : Request} {a : Answer}
    (h : Step sources k q a k') (hk : k.Sound) : k'.Sound ∧ k.Grows k' := by
  cases h with
  | named h => exact ⟨h.sound hk, h.grows⟩
  | standard _ h => exact ⟨h.sound hk, h.grows⟩
  | inline _ =>
      refine ⟨?_, fun _ _ h => h⟩
      intro key shared hshared
      have hold := hk key shared hshared
      exact ⟨hold.1, Nat.lt_succ_of_lt hold.2⟩
  | _ => exact ⟨hk, fun _ _ h => h⟩

theorem Run.sound_and_grows {sources : Nat → Source} {k k' : Known} {log : List (Request × Answer)}
    (h : Run sources k log k') : k.Sound → k'.Sound ∧ k.Grows k' := by
  induction h with
  | nil =>
      intro hk
      exact ⟨hk, fun _ _ h => h⟩
  | cons hstep _ ih =>
      intro hk
      rcases hstep.sound_and_grows hk with ⟨hsound, hgrows⟩
      rcases ih hsound with ⟨hsound', hgrows'⟩
      exact ⟨hsound', fun key shared h => hgrows' key shared (hgrows key shared h)⟩

end Known

/-! ## A session knows what its cache holds -/

/-- What a cache amounts to. -/
def Cache.known (c : Cache) : Known := ⟨c.get?, c.made⟩

namespace Cache

theorem known_openSlot (c : Cache) (key : String) : (c.openSlot key).known = c.known := by
  simp only [known, Known.mk.injEq]
  exact ⟨funext fun k => c.get?_openSlot key k, rfl⟩

theorem known_keep (c : Cache) {key : String} (rules : RuleSet) (h : c.get? key = none) :
    (c.keep key rules).known =
      ⟨Function.update c.known.rules key (some ⟨c.made, rules⟩), c.made + 1⟩ := by
  have hget : (c.keep key rules).get? = Function.update c.get? key (some ⟨c.made, rules⟩) := by
    funext k
    by_cases hk : k = key
    · subst hk
      rw [Function.update_self, get?_keep_self c k rules h]
    · rw [Function.update_of_ne hk, get?_keep_of_ne c key rules hk]
  simp only [known, hget, made_keep]

theorem known_lists_ids (c : Cache) : c.known.Lists c.ids :=
  ⟨c.pairwise_ids, fun _ => c.mem_ids⟩

end Cache

namespace Loader

variable [PatternEngine]

theorem resolveNamed_resolves (s : Source) (cache : Cache) (id : String) :
    Known.Resolves s (s.canonicalId id) cache.known (resolveNamed s cache id).rules
      (resolveNamed s cache id).calls (resolveNamed s cache id).cache.known := by
  cases hget : cache.get? (s.canonicalId id) with
  | some shared =>
      rcases resolveNamed_of_kept hget with ⟨hrules, hcalls, hcache⟩
      -- the slot that is opened on the way cannot be seen
      rw [hrules, hcalls, hcache, Cache.known_openSlot]
      exact .kept hget
  | none =>
      cases hrulesOf : s.rulesOf? (s.canonicalId id) with
      | some rules =>
          rcases resolveNamed_of_made hget hrulesOf with ⟨hrules, hcalls, hcache⟩
          have hyields : Known.Yields s (s.canonicalId id) rules :=
            Source.rulesOf?_eq_some_iff.1 hrulesOf
          rw [hrules, hcalls, hcache, Cache.known_keep cache rules hget, Source.questions,
            if_pos hyields.1]
          exact .made hget hyields
      | none =>
          rcases resolveNamed_of_failed hget hrulesOf with ⟨hrules, hcalls, hcache⟩
          rw [hrules, hcalls, hcache, Cache.known_openSlot]
          refine .failed hget ?_
          intro rules hyields
          rw [Source.rulesOf?_eq_some_iff.2 hyields] at hrulesOf
          cases hrulesOf

end Loader

namespace Session

variable [PatternEngine]

theorem answer_step (σ : Session) (q : Request) :
    Known.Step σ.sources σ.cache.known q (σ.answer q).1 (σ.answer q).2.known := by
  cases q with
  | resolve loader source =>
      cases source with
      | named id => exact .named (Loader.resolveNamed_resolves _ _ _)
      | standard =>
          cases hid : (σ.sources loader).defaultId with
          | some id =>
              simp only [answer, Loader.resolve, hid]
              exact .standard hid (Loader.resolveNamed_resolves _ _ _)
          | none =>
              simp only [answer, Loader.resolve, hid]
              exact .noStandard hid
      | inline entries =>
          simp only [answer, Loader.resolve]
          -- given entries never touch a slot; at most a number is used up
          by_cases hempty : (Compiled.ofEntries entries).rules = []
          · rcases Loader.resolveInline_of_failed σ.cache
              (Loader.usable_eq_none_iff.2 hempty) with ⟨hrules, hcalls, hcache⟩
            rw [hrules, hcalls, hcache]
            exact .inlineEmpty hempty
          · rcases Loader.resolveInline_of_made σ.cache
              (Loader.usable_eq_some_iff.2 ⟨rfl, hempty⟩) with ⟨hrules, hcalls, hcache⟩
            rw [hrules, hcalls, hcache]
            exact .inline hempty
  | change loader now => exact .change
  | get key => exact .get
  | contains key => exact .contains
  | isCached loader id => exact .isCached
  | ids => exact .ids σ.cache.known_lists_ids
  | size =>
      simp only [answer, Cache.size_eq_length_ids]
      exact .size σ.cache.known_lists_ids
  | isEmpty => exact .isEmpty σ.cache.isEmpty_iff

theorem log_run (requests : List Request) : ∀ σ : Session,
    Known.Run σ.sources σ.cache.known (σ.log requests) (σ.run requests).cache.known := by
  induction requests with
  | nil =>
      intro σ
      exact .nil
  | cons q rest ih =>
      intro σ
      exact .cons (σ.answer_step q) (ih (σ.handle q))

/-- From the start on, a session answers as told by a partial map from identifiers to rule sets.
What the map holds at one time it holds at all later times, and all it holds is a rule set that is
not empty and has a number below that of the next one. -/
theorem log_runs_known (sources : Nat → Source) (requests later : List Request) :
    Known.Run sources Known.nothing ((start sources).log requests)
        ((start sources).run requests).cache.known ∧
      Known.Run ((start sources).run requests).sources ((start sources).run requests).cache.known
        (((start sources).run requests).log later)
        ((start sources).run (requests ++ later)).cache.known ∧
      ((start sources).run requests).cache.known.Sound ∧
      ((start sources).run requests).cache.known.Grows
        ((start sources).run (requests ++ later)).cache.known := by
  have hfirst := log_run requests (start sources)
  have hlater := log_run later ((start sources).run requests)
  have hrun : ((start sources).run requests).run later = (start sources).run (requests ++ later) :=
    (List.foldl_append ..).symm
  rw [hrun] at hlater
  have hsound := (hfirst.sound_and_grows Known.sound_nothing).1
  exact ⟨hfirst, hlater, hsound, (hlater.sound_and_grows hsound).2⟩

end Session
end MailRules

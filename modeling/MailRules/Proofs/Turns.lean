import MailRules.Proofs.Settling

/-!
# Turns — calls at once and calls one after the other

Calls that take their steps in any order do what the same calls do one after the other, each taking
its turn when it is settled how it will end.  This file defines:

* `Turns`, calls one after the other, and `Turns.inOrder`, all of them in a given order;
* `Mirrors asks s t`, the relation between calls at once and calls one after the other;

and proves `Mirrors.advance`: a step of a call either leaves the relation as it is, or it does so
once the call has taken its turn.
-/

namespace MailRules

/-- Calls one after the other: the cache after them, and what came of each, the last first. -/
structure Turns where
  cache : Cache
  taken : List (Nat × Resolution) := []

namespace Turns

variable [PatternEngine]

def take (asks : List Ask) (t : Turns) (i : Nat) : Turns :=
  match asks[i]? with
  | none => t
  | some a =>
      let r := Loader.resolveNamed a.source t.cache a.id
      { cache := r.cache, taken := (i, r) :: t.taken }

def inOrder (asks : List Ask) (cache : Cache) (order : List Nat) : Turns :=
  order.foldl (take asks) { cache }

/-- The result of a call that has taken its turn. -/
def outcome? (t : Turns) (i : Nat) : Option (Option SharedRules) :=
  (t.taken.lookup i).map Resolution.rules

/-- How many loads of a document there were. -/
def loadsOf (t : Turns) (key : String) : Nat :=
  (t.taken.flatMap fun turn => turn.2.calls).count (.load key)

theorem inOrder_snoc (asks : List Ask) (cache : Cache) (order : List Nat) (i : Nat) :
    inOrder asks cache (order ++ [i]) = (inOrder asks cache order).take asks i := by
  unfold inOrder
  rw [List.foldl_append]
  rfl

section Take

variable {asks : List Ask} {t : Turns} {i j : Nat} {a : Ask}

theorem cache_take (ha : asks[i]? = some a) :
    (t.take asks i).cache = (Loader.resolveNamed a.source t.cache a.id).cache := by
  simp [take, ha]

theorem outcome?_take_self (ha : asks[i]? = some a) :
    (t.take asks i).outcome? i = some (Loader.resolveNamed a.source t.cache a.id).rules := by
  simp [take, ha, outcome?]

theorem outcome?_take_of_ne (hj : j ≠ i) : (t.take asks i).outcome? j = t.outcome? j := by
  cases ha : asks[i]? with
  | none => simp [take, ha]
  | some a =>
      have hne : (j == i) = false := by simpa using hj
      simp [take, ha, outcome?, List.lookup_cons, hne]

theorem loadsOf_take (ha : asks[i]? = some a) (key : String) :
    (t.take asks i).loadsOf key =
      (Loader.resolveNamed a.source t.cache a.id).calls.count (.load key) + t.loadsOf key := by
  simp [take, ha, loadsOf, List.count_append]

end Take
end Turns

/-- Of its questions, a source is asked one at most to load the document. -/
theorem Source.count_load_questions (s : Source) (key k : String) :
    (s.questions key).count (.load k) = if k = key then (if s.holds key then 1 else 0) else 0 := by
  unfold Source.questions
  by_cases hholds : s.holds key = true
  · by_cases hk : k = key
    · simp [hholds, hk]
    · simp [hholds, hk, Ne.symm hk]
  · simp [hholds]

namespace Concurrent

/-- The result a call is going to have, once it is settled. -/
def outcome? (s : Concurrent) (i : Nat) : Option (Option SharedRules) :=
  s.calls[i]?.bind fun c => c.phase.outcome?

/-- A slot has rules, or a call is about to put them there. -/
def Promises (s : Concurrent) (key : String) (shared : SharedRules) : Prop :=
  s.cache.get? key = some shared ∨ s.Has fun c => c.key = key ∧ c.phase = .fill shared

/-- A call for an identifier has begun, and how it will end is open. -/
def IsUnderWay (s : Concurrent) (key : String) : Prop :=
  s.Has fun c => c.key = key ∧ c.phase.isBegun = true ∧ c.phase.outcome? = none

section Step

variable {s s' : Concurrent} {i j : Nat} {c : Call} {p : Phase} {key : String} {shared : SharedRules}

theorem outcome?_eq (hc : s.calls[i]? = some c) : s.outcome? i = c.phase.outcome? := by
  rw [outcome?, hc]
  rfl

variable [PatternEngine]

theorem Advance.isBegun (h : Advance s i c p s') : p.isBegun = true := by
  cases h <;> rfl

theorem Advance.outcome?_self (h : Advance s i c p s') (hc : s.calls[i]? = some c) :
    s'.outcome? i = p.outcome? :=
  outcome?_eq (h.getElem?_self hc)

theorem Advance.outcome?_of_ne (h : Advance s i c p s') (hj : j ≠ i) :
    s'.outcome? j = s.outcome? j := by
  rw [outcome?, outcome?, h.getElem?_of_ne hj]

/-- No promise is made or broken by a step that neither begins nor ends the filling of a slot. -/
theorem Advance.promises_iff (h : Advance s i c p s') (hc : s.calls[i]? = some c)
    (hout : ∀ other, c.phase ≠ .fill other) (hout' : ∀ other, p ≠ .fill other)
    (hget : s'.cache.get? key = s.cache.get? key) :
    s'.Promises key shared ↔ s.Promises key shared := by
  unfold Promises
  rw [h.has_after_iff hc, has_iff hc, hget]
  simp [hout, hout']

/-- Filling the slot keeps the promise. -/
theorem Advance.promises_iff_of_filled (h : Advance s i c p s') (hc : s.calls[i]? = some c)
    {made : SharedRules} (hphase : c.phase = .fill made) (hp : p = .unlock (some made))
    (hget : s.cache.get? c.key = none) (hget' : s'.cache.get? c.key = some made) :
    s'.Promises key shared ↔ s.Promises key shared := by
  unfold Promises
  rw [h.has_after_iff hc, has_iff hc]
  by_cases hkey : key = c.key
  · subst hkey
    simp [hphase, hp, hget, hget']
  · have hother : c.key ≠ key := Ne.symm hkey
    simp [h.get?_of_ne hkey, hother]

end Step
end Concurrent

/-! ## The same, one after the other -/

/-- Calls at once have come as far as calls one after the other. -/
structure Mirrors (asks : List Ask) (s : Concurrent) (t : Turns) : Prop where
  serves : s.Serves asks
  outcomes : ∀ i, t.outcome? i = s.outcome? i
  made : t.cache.made = s.cache.made
  held : ∀ key shared, t.cache.get? key = some shared ↔ s.Promises key shared
  keys : ∀ key, key ∈ t.cache.keys → key ∈ s.cache.keys
  opened : ∀ key, key ∈ s.cache.keys → key ∈ t.cache.keys ∨ s.IsUnderWay key
  loads : ∀ key, s.loadsOf key = t.loadsOf key + s.compiling key

namespace Mirrors

open Concurrent

variable {asks : List Ask} {s s' : Concurrent} {t : Turns} {i : Nat} {c : Call} {p : Phase}

theorem get?_eq_none (hm : Mirrors asks s t) (horderly : s.Orderly) (hc : s.calls[i]? = some c)
    (hinside : c.phase.isInside = true) (hphase : c.phase.outcome? = none)
    (hget : s.cache.get? c.key = none) : t.cache.get? c.key = none := by
  rw [Option.eq_none_iff_forall_not_mem]
  intro shared hshared
  rw [Option.mem_def, hm.held, Promises, hget, has_iff hc] at hshared
  rcases hshared with hnone | ⟨_, hfill⟩ | hother
  · cases hnone
  · exact Phase.ne_fill_of_outcome? hphase shared hfill
  · -- the call holds the lock of the slot, so that no other call is filling it
    refine horderly.not_hasOther hc hinside ?_ hother
    rintro d ⟨hkey, hfill⟩
    exact ⟨hkey, by rw [hfill]; rfl⟩

/-! ### A step that settles nothing -/

variable [PatternEngine]

theorem stay (hm : Mirrors asks s t) (hc : s.calls[i]? = some c) (h : Advance s i c p s')
    (hp : p.outcome? = c.phase.outcome?)
    (hpromises : ∀ key shared, s'.Promises key shared ↔ s.Promises key shared)
    (hmade : s'.cache.made = s.cache.made) (hloads : Charges s s' c.key 0) : Mirrors asks s' t := by
  refine ⟨?_, ?_, ?_, ?_, ?_, ?_, ?_⟩
  · exact hm.serves.advance hc h
  · intro j
    rw [hm.outcomes]
    by_cases hj : j = i
    · subst hj
      rw [h.outcome?_self hc, outcome?_eq hc, hp]
    · rw [h.outcome?_of_ne hj]
  · rw [hm.made, hmade]
  · intro key shared
    rw [hm.held, hpromises]
  · intro key hkey
    exact h.mem_keys_iff.2 (.inl (hm.keys key hkey))
  · -- a slot opened by this step has a call under way, the one that opened it
    intro key hkey
    have hopen (hphase : c.phase.outcome? = none) : s'.IsUnderWay c.key :=
      (h.has_after_iff hc).2 (.inl ⟨rfl, h.isBegun, hp.trans hphase⟩)
    rcases h.mem_keys_iff.1 hkey with hkey | ⟨hbegun, rfl⟩
    · rcases hm.opened key hkey with hkey | hway
      · exact .inl hkey
      · refine .inr ?_
        rcases (has_iff hc).1 hway with ⟨rfl, _, hphase⟩ | hother
        · exact hopen hphase
        · exact (h.has_after_iff hc).2 (.inr hother)
    · refine .inr (hopen ?_)
      rw [Phase.eq_openSlot hbegun]
      rfl
  · intro key
    have hcharges := hloads key
    have hbefore := hm.loads key
    rw [ite_self] at hcharges
    omega

/-! ### A step that settles how a call ends -/

/-- The call takes its turn. -/
theorem turn (hm : Mirrors asks s t) (hs' : s'.Informed) (hc : s.calls[i]? = some c)
    (h : Advance s i c p s') {a : Ask} (ha : asks[i]? = some a) {r : Resolution}
    (hr : Loader.resolveNamed a.source t.cache a.id = r) (hp : p.outcome? = some r.rules)
    (hmade : r.cache.made = s'.cache.made)
    (hheld : ∀ key shared, r.cache.get? key = some shared ↔ s'.Promises key shared)
    (hkeys : ∀ key, key ∈ r.cache.keys ↔ key = c.key ∨ key ∈ t.cache.keys) {n : Nat}
    (hloads : Charges s s' c.key n)
    (hcalls : ∀ key, r.calls.count (.load key) = if key = c.key then n else 0) :
    Mirrors asks s' (t.take asks i) := by
  have hcache : (t.take asks i).cache = r.cache := by rw [Turns.cache_take ha, hr]
  refine ⟨?_, ?_, ?_, ?_, ?_, ?_, ?_⟩
  · exact hm.serves.advance hc h
  · intro j
    by_cases hj : j = i
    · subst hj
      rw [Turns.outcome?_take_self ha, hr, h.outcome?_self hc, hp]
    · rw [Turns.outcome?_take_of_ne hj, h.outcome?_of_ne hj, hm.outcomes]
  · rw [hcache, hmade]
  · intro key shared
    rw [hcache, hheld]
  · intro key hkey
    rw [hcache, hkeys] at hkey
    rcases hkey with rfl | hkey
    · have hopened := hs'.opened i _ (h.getElem?_self hc) h.isBegun
      exact hopened
    · exact h.mem_keys_iff.2 (.inl (hm.keys key hkey))
  · -- the call is not under way any more, but now its turn has opened the slot
    intro key hkey
    rw [hcache, hkeys]
    rcases h.mem_keys_iff.1 hkey with hkey | ⟨_, rfl⟩
    · rcases hm.opened key hkey with hkey | hway
      · exact .inl (.inr hkey)
      · rcases (has_iff hc).1 hway with ⟨rfl, _, _⟩ | hother
        · exact .inl (.inl rfl)
        · exact .inr ((h.has_after_iff hc).2 (.inr hother))
    · exact .inl (.inl rfl)
  · -- what the step accounts for is what the turn loads
    intro key
    have hcharges := hloads key
    have hbefore := hm.loads key
    rw [Turns.loadsOf_take ha, hr, hcalls]
    omega

theorem turn_of_kept (hm : Mirrors asks s t) (hs' : s'.Informed) (hc : s.calls[i]? = some c)
    (h : Advance s i c p s') {shared : SharedRules} (hphase : c.phase.outcome? = none)
    (hp : p.outcome? = some (some shared)) (hout' : ∀ other, p ≠ .fill other)
    (hget : s.cache.get? c.key = some shared) (hcache : s'.cache = s.cache)
    (hloads : Charges s s' c.key 0) : Mirrors asks s' (t.take asks i) := by
  rcases hm.serves.exists_ask hc with ⟨a, ha, hsource, hkey⟩
  have hkept : t.cache.get? (a.source.canonicalId a.id) = some shared := by
    rw [hkey, hm.held]
    exact .inl hget
  have hout := Phase.ne_fill_of_outcome? hphase
  rcases Loader.resolveNamed_of_kept hkept with ⟨hrules, hcalls, hcache'⟩
  rw [hkey] at hcache'
  refine hm.turn hs' hc h ha rfl ?_ ?_ ?_ ?_ hloads ?_
  · rw [hp, hrules]
  · rw [hcache', hcache]
    exact hm.made
  · intro key other
    rw [hcache', Cache.get?_openSlot, hm.held, h.promises_iff hc hout hout' (by rw [hcache])]
  · intro key
    rw [hcache', Cache.mem_keys_openSlot]
  · intro key
    rw [hcalls, ite_self]
    rfl

theorem turn_of_failed (hm : Mirrors asks s t) (horderly : s.Orderly) (hs' : s'.Informed)
    (hc : s.calls[i]? = some c) (h : Advance s i c p s') (hphase : c.phase.outcome? = none)
    (hinside : c.phase.isInside = true) (hp : p = .unlock none) (hget : s.cache.get? c.key = none)
    (hrulesOf : c.source.rulesOf? c.key = none) (hcache : s'.cache = s.cache)
    (hloads : Charges s s' c.key (if c.source.holds c.key then 1 else 0)) :
    Mirrors asks s' (t.take asks i) := by
  rcases hm.serves.exists_ask hc with ⟨a, ha, hsource, hkey⟩
  have hnone : t.cache.get? (a.source.canonicalId a.id) = none := by
    rw [hkey]
    exact hm.get?_eq_none horderly hc hinside hphase hget
  have hfailed : a.source.rulesOf? (a.source.canonicalId a.id) = none := by
    rw [hkey, hsource]
    exact hrulesOf
  have hout := Phase.ne_fill_of_outcome? hphase
  rcases Loader.resolveNamed_of_failed hnone hfailed with ⟨hrules, hcalls, hcache'⟩
  rw [hkey] at hcache' hcalls
  refine hm.turn hs' hc h ha rfl ?_ ?_ ?_ ?_ hloads ?_
  · rw [hp, hrules]
    rfl
  · rw [hcache', hcache]
    exact hm.made
  · intro key other
    have hout' : ∀ other, p ≠ .fill other := by simp [hp]
    rw [hcache', Cache.get?_openSlot, hm.held, h.promises_iff hc hout hout' (by rw [hcache])]
  · intro key
    rw [hcache', Cache.mem_keys_openSlot]
  · intro key
    rw [hcalls, hsource, Source.count_load_questions]

theorem turn_of_made (hm : Mirrors asks s t) (horderly : s.Orderly) (hs' : s'.Informed)
    (hc : s.calls[i]? = some c) (h : Advance s i c p s') {rules : RuleSet}
    (hphase : c.phase.outcome? = none) (hinside : c.phase.isInside = true)
    (hp : p = .fill ⟨s.cache.made, rules⟩) (hget : s.cache.get? c.key = none)
    (hrulesOf : c.source.rulesOf? c.key = some rules) (hcache : s'.cache = (s.cache.stamped rules).2)
    (hloads : Charges s s' c.key 1) : Mirrors asks s' (t.take asks i) := by
  rcases hm.serves.exists_ask hc with ⟨a, ha, hsource, hkey⟩
  have hnone := hm.get?_eq_none horderly hc hinside hphase hget
  have hmade : a.source.rulesOf? (a.source.canonicalId a.id) = some rules := by
    rw [hkey, hsource]
    exact hrulesOf
  rcases Loader.resolveNamed_of_made (by rw [hkey]; exact hnone) hmade with ⟨hrules, hcalls, hcache'⟩
  rw [hkey] at hcache' hcalls
  refine hm.turn hs' hc h ha rfl ?_ ?_ ?_ ?_ hloads ?_
  · rw [hp, hrules, hm.made]
    rfl
  · rw [hcache', hcache, Cache.made_keep, hm.made]
    rfl
  · intro key other
    rw [hcache', Promises, h.has_after_iff hc, hcache, Cache.get?_stamped]
    by_cases hk : key = c.key
    · -- no other call can be about to fill this slot
      subst hk
      have hother : ¬ s.HasOther i fun d => d.key = c.key ∧ d.phase = .fill other := by
        refine horderly.not_hasOther hc hinside ?_
        rintro d ⟨hdkey, hfill⟩
        exact ⟨hdkey, by rw [hfill]; rfl⟩
      rw [Cache.get?_keep_self _ _ _ hnone, hget, hm.made]
      simp [hp, hother]
    · have hne : c.key ≠ key := Ne.symm hk
      rw [Cache.get?_keep_of_ne _ _ _ hk, hm.held, Promises, has_iff hc]
      simp [hne]
  · intro key
    rw [hcache', Cache.mem_keys_keep]
  · intro key
    have hholds := (Source.rulesOf?_eq_some_iff.1 hrulesOf).1
    rw [hcalls, hsource, Source.count_load_questions, if_pos hholds]

/-- A step of a call either settles nothing new, or the call takes its turn by it. -/
theorem advance (hm : Mirrors asks s t) (horderly : s.Orderly) (hs : s.Informed)
    (hc : s.calls[i]? = some c) (h : Advance s i c p s') :
    (p.outcome? = c.phase.outcome? ∧ Mirrors asks s' t) ∨
      (c.phase.outcome? = none ∧ p.outcome?.isSome = true ∧ Mirrors asks s' (t.take asks i)) := by
  have hs' := hs.advance horderly hc h
  cases h.effect hs hc with
  | quiet hp hout hout' hget hmade hloads =>
      refine .inl ⟨hp, hm.stay hc h hp ?_ hmade hloads⟩
      exact fun key _ => h.promises_iff hc hout hout' (hget key)
  | filled hphase hp hget hget' hmade hloads =>
      have hsame : p.outcome? = c.phase.outcome? := by
        rw [hp, hphase]
        rfl
      refine .inl ⟨hsame, hm.stay hc h hsame ?_ hmade hloads⟩
      exact fun _ _ => h.promises_iff_of_filled hc hphase hp hget hget'
  | kept hphase hp hout' hget hcache hloads =>
      refine .inr ⟨hphase, by rw [hp]; rfl, ?_⟩
      exact hm.turn_of_kept hs' hc h hphase hp hout' hget hcache hloads
  | failed hphase hinside hp hget hrules hcache hloads =>
      refine .inr ⟨hphase, by rw [hp]; rfl, ?_⟩
      exact hm.turn_of_failed horderly hs' hc h hphase hinside hp hget hrules hcache hloads
  | made hphase hinside hp hget hrules hcache hloads =>
      refine .inr ⟨hphase, by rw [hp]; rfl, ?_⟩
      exact hm.turn_of_made horderly hs' hc h hphase hinside hp hget hrules hcache hloads

end Mirrors
end MailRules

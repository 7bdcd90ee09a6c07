import MailRules.Proofs.Locking

/-!
# Settling — what the steps of a call amount to

From one of its steps on, it is settled how a call will end: it has found rules in the slot, it has
failed, or it has made rules of its own.  This file defines:

* `Phase.outcome?`, how a call in a phase will end, once that is settled;
* `Concurrent.Effect s c p s'`, the five kinds of steps, told by what they do to the cache, to the
  outcome of the call and to the number of loads;

and proves `Concurrent.Advance.effect`, by which every step is of one of these kinds.
-/

namespace MailRules

namespace Phase

/-- The result a call is going to have, once it is settled. -/
def outcome? : Phase → Option (Option SharedRules)
  | fill shared => some (some shared)
  | unlock result => some result
  | finished result => some result
  | _ => none

theorem ne_fill_of_outcome? {p : Phase} (h : p.outcome? = none) (shared : SharedRules) :
    p ≠ .fill shared := by
  rintro rfl
  cases h

def isCompiling : Phase → Bool
  | compile _ => true
  | _ => false

end Phase

namespace Concurrent

/-! ## Some call, some other call -/

/-- Some call has a property. -/
def Has (s : Concurrent) (q : Call → Prop) : Prop :=
  ∃ (j : Nat) (c : Call), s.calls[j]? = some c ∧ q c

def HasOther (s : Concurrent) (i : Nat) (q : Call → Prop) : Prop :=
  ∃ (j : Nat) (c : Call), j ≠ i ∧ s.calls[j]? = some c ∧ q c

section Others

variable {s s' : Concurrent} {i : Nat} {c : Call} {p : Phase} {q : Call → Prop}

theorem has_iff (hc : s.calls[i]? = some c) : s.Has q ↔ q c ∨ s.HasOther i q := by
  constructor
  · rintro ⟨j, d, hd, hq⟩
    by_cases hj : j = i
    · subst hj
      rw [hc] at hd
      cases hd
      exact .inl hq
    · exact .inr ⟨j, d, hj, hd, hq⟩
  · intro h
    rcases h with hq | ⟨j, d, _, hd, hq⟩
    · exact ⟨i, c, hc, hq⟩
    · exact ⟨j, d, hd, hq⟩

/-- While one call is inside, no other call for the same identifier is. -/
theorem Orderly.not_hasOther (hs : s.Orderly) (hc : s.calls[i]? = some c)
    (hinside : c.phase.isInside = true) (hq : ∀ d, q d → d.key = c.key ∧ d.phase.isInside = true) :
    ¬ s.HasOther i q := by
  rintro ⟨j, d, hj, hd, hqd⟩
  rcases hq d hqd with ⟨hkey, hin⟩
  have hd' : s.IsInside c.key j := ⟨d, hd, hkey, hin⟩
  have hc' : s.IsInside c.key i := ⟨c, hc, rfl, hinside⟩
  exact hj (hs.eq_of_isInside hd' hc')

variable [PatternEngine]

theorem Advance.hasOther_iff (h : Advance s i c p s') : s'.HasOther i q ↔ s.HasOther i q := by
  constructor
  · rintro ⟨j, d, hj, hd, hq⟩
    rw [h.getElem?_of_ne hj] at hd
    exact ⟨j, d, hj, hd, hq⟩
  · rintro ⟨j, d, hj, hd, hq⟩
    rw [← h.getElem?_of_ne hj] at hd
    exact ⟨j, d, hj, hd, hq⟩

theorem Advance.has_after_iff (h : Advance s i c p s') (hc : s.calls[i]? = some c) :
    s'.Has q ↔ q { c with phase := p } ∨ s.HasOther i q := by
  rw [has_iff (h.getElem?_self hc), h.hasOther_iff]

end Others

/-! ## Loads -/

/-- How many loads of a document there were. -/
def loadsOf (s : Concurrent) (key : String) : Nat := s.loads.countP fun l => l.2 == key

/-- How many loads of a document have not been followed by their compilation. -/
def compiling (s : Concurrent) (key : String) : Nat :=
  s.calls.countP fun c => c.key == key && c.phase.isCompiling

/-- A step accounts for so many loads of a document.  A load is accounted for when it is settled
what comes of it. -/
def Charges (s s' : Concurrent) (key : String) (n : Nat) : Prop :=
  ∀ k, s'.loadsOf k + s.compiling k = s.loadsOf k + s'.compiling k + if k = key then n else 0

section Step

variable [PatternEngine]

variable {s s' : Concurrent} {i : Nat} {c : Call} {p : Phase}

/-- What a step accounts for is what it loads and what the call had loaded before, less what the
call has loaded and not compiled. -/
theorem Advance.charges (h : Advance s i c p s') (hc : s.calls[i]? = some c) (l n : Nat)
    (hloads : s'.loads = List.replicate l (i, c.key) ++ s.loads)
    (hn : l + (if c.phase.isCompiling then 1 else 0) = n + if p.isCompiling then 1 else 0) :
    Charges s s' c.key n := by
  intro k
  have hcompiling := h.countP_calls hc fun d => d.key == k && d.phase.isCompiling
  have hk : s'.loadsOf k = s.loadsOf k + if c.key == k then l else 0 := by
    rw [loadsOf, hloads, List.countP_append, List.countP_replicate, Nat.add_comm, loadsOf]
  unfold compiling
  -- only the count for the document of the call can change
  by_cases hkey : c.key = k
  · have heq : (c.key == k) = true := by simpa using hkey
    simp only [heq, Bool.true_and, if_true] at hcompiling hk
    rw [if_pos hkey.symm]
    omega
  · have hne : (c.key == k) = false := by simpa using hkey
    simp only [hne, Bool.false_and, Bool.false_eq_true, if_false] at hcompiling hk
    rw [if_neg (Ne.symm hkey)]
    omega

/-! ## Kinds of steps -/

/-- What a step does to the cache, to the outcome of the call and to the number of loads. -/
inductive Effect (s : Concurrent) (c : Call) (p : Phase) (s' : Concurrent) : Prop where
  | quiet (hp : p.outcome? = c.phase.outcome?) (hout : ∀ shared, c.phase ≠ .fill shared)
      (hout' : ∀ shared, p ≠ .fill shared) (hget : ∀ key, s'.cache.get? key = s.cache.get? key)
      (hmade : s'.cache.made = s.cache.made) (hloads : Charges s s' c.key 0)
  | kept {shared : SharedRules} (hc : c.phase.outcome? = none) (hp : p.outcome? = some (some shared))
      (hout' : ∀ other, p ≠ .fill other) (hget : s.cache.get? c.key = some shared)
      (hcache : s'.cache = s.cache) (hloads : Charges s s' c.key 0)
  | failed (hc : c.phase.outcome? = none) (hinside : c.phase.isInside = true) (hp : p = .unlock none)
      (hget : s.cache.get? c.key = none) (hrules : c.source.rulesOf? c.key = none)
      (hcache : s'.cache = s.cache)
      (hloads : Charges s s' c.key (if c.source.holds c.key then 1 else 0))
  | made {rules : RuleSet} (hc : c.phase.outcome? = none) (hinside : c.phase.isInside = true)
      (hp : p = .fill ⟨s.cache.made, rules⟩) (hget : s.cache.get? c.key = none)
      (hrules : c.source.rulesOf? c.key = some rules) (hcache : s'.cache = (s.cache.stamped rules).2)
      (hloads : Charges s s' c.key 1)
  | filled {shared : SharedRules} (hc : c.phase = .fill shared) (hp : p = .unlock (some shared))
      (hget : s.cache.get? c.key = none) (hget' : s'.cache.get? c.key = some shared)
      (hmade : s'.cache.made = s.cache.made) (hloads : Charges s s' c.key 0)

theorem Advance.effect (hs : s.Informed) (hc : s.calls[i]? = some c) (h : Advance s i c p s') :
    Effect s c p s' := by
  have hknows := hs.knows i c hc
  have hstep := h
  cases h with
  | opened hphase =>
      refine .quiet (by rw [hphase]; rfl) (by simp [hphase]) nofun ?_ rfl ?_
      · exact fun key => Cache.get?_openSlot _ _ _
      · exact hstep.charges hc 0 _ rfl (by rw [hphase]; rfl)
  | loaded hphase _ =>
      -- the load is not accounted for yet, since the call is now compiling what it loaded
      refine .quiet (by rw [hphase]; rfl) (by simp [hphase]) nofun (fun _ => rfl) rfl ?_
      exact hstep.charges hc 1 _ rfl (by rw [hphase]; rfl)
  | missed hphase _ | locked hphase _ | missedAgain hphase _ | present hphase _ | unlocked hphase =>
      refine .quiet (by rw [hphase]; rfl) (by simp [hphase]) nofun (fun _ => rfl) rfl ?_
      exact hstep.charges hc 0 _ rfl (by rw [hphase]; rfl)
  | hit hphase hget | hitAgain hphase hget =>
      refine .kept (by rw [hphase]; rfl) rfl nofun hget rfl ?_
      exact hstep.charges hc 0 _ rfl (by rw [hphase]; rfl)
  | absent hphase hholds =>
      simp only [Call.Knows, hphase] at hknows
      have hrules : c.source.rulesOf? c.key = none := by simp [Source.rulesOf?, hholds]
      refine .failed (by rw [hphase]; rfl) (by rw [hphase]; rfl) rfl hknows hrules rfl ?_
      exact hstep.charges hc 0 _ rfl (by rw [hphase, hholds]; rfl)
  | failed hphase hload =>
      simp only [Call.Knows, hphase] at hknows
      have hrules : c.source.rulesOf? c.key = none := by simp [Source.rulesOf?, hload]
      refine .failed (by rw [hphase]; rfl) (by rw [hphase]; rfl) rfl hknows.1 hrules rfl ?_
      exact hstep.charges hc 1 _ rfl (by rw [hphase, hknows.2]; rfl)
  | useless hphase husable =>
      simp only [Call.Knows, hphase] at hknows
      have hrules : c.source.rulesOf? c.key = none := by simp [Source.rulesOf?, hknows.2.2, husable]
      refine .failed (by rw [hphase]; rfl) (by rw [hphase]; rfl) rfl hknows.1 hrules rfl ?_
      exact hstep.charges hc 0 _ rfl (by rw [hphase, hknows.2.1]; rfl)
  | made hphase husable =>
      simp only [Call.Knows, hphase] at hknows
      have hyields := Loader.usable_eq_some_iff.1 husable
      refine .made (by rw [hphase]; rfl) (by rw [hphase]; rfl) rfl hknows.1 ?_ rfl ?_
      · rw [Source.rulesOf?_eq_some_iff]
        exact ⟨hknows.2.1, _, hknows.2.2, hyields⟩
      · exact hstep.charges hc 0 _ rfl (by rw [hphase]; rfl)
  | filled hphase =>
      have hget := hs.get?_of_fill hc hphase
      simp only [Call.Knows, hphase] at hknows
      refine .filled hphase (by rw [hget]) hknows.1 hget rfl ?_
      exact hstep.charges hc 0 _ rfl (by rw [hphase]; rfl)

end Step

end Concurrent
end MailRules

import MailRules.Concurrent
import MailRules.Proofs.Resolution

/-!
# Schedule — the steps that calls take

`Concurrent.step?` is a program; what it can do is better told as a relation.  This file defines:

* `Concurrent.Advance s i c p s'` — call `i`, which is `c`, goes to phase `p` by a step from `s` to
  `s'`;
* `Ask` and `Concurrent.start`, calls that have not begun;

and proves `Concurrent.exists_advance`, by which every step is one of those listed, and
`Concurrent.run_induction`, by which what every step preserves holds after every schedule.
-/

namespace MailRules

namespace Phase

/-- Between taking the lock and giving it back. -/
def isInside : Phase → Bool
  | openSlot => false
  | look => false
  | lock => false
  | finished _ => false
  | _ => true

def isFinished : Phase → Bool
  | finished _ => true
  | _ => false

theorem exists_finished {p : Phase} (h : p.isFinished = true) : ∃ result, p = .finished result := by
  cases p with
  | finished result => exact ⟨result, rfl⟩
  | _ => cases h

end Phase

/-- A wish for the rules of an identifier, directed to a source. -/
structure Ask where
  source : Source
  id : String

namespace Ask

def key (a : Ask) : String := a.source.canonicalId a.id

def call (a : Ask) : Call := { source := a.source, key := a.key }

end Ask

namespace Concurrent

def allFinished (s : Concurrent) : Bool := s.calls.all fun c => c.phase.isFinished

/-- No call has taken a step. -/
def start (cache : Cache) (asks : List Ask) : Concurrent := { cache, calls := asks.map Ask.call }

theorem phase_of_start {cache : Cache} {asks : List Ask} {i : Nat} {c : Call}
    (hc : (start cache asks).calls[i]? = some c) : c.phase = .openSlot := by
  simp only [start, List.getElem?_map, Option.map_eq_some_iff] at hc
  rcases hc with ⟨a, _, rfl⟩
  rfl

/-! ## What calls ask for -/

/-- The calls are those that were asked for, whatever steps they have taken. -/
def Serves (s : Concurrent) (asks : List Ask) : Prop :=
  s.calls.map (fun c => (c.source, c.key)) = asks.map fun a => (a.source, a.key)

section Serves

variable {s : Concurrent} {i : Nat} {c : Call} {asks : List Ask}

theorem Serves.exists_ask (hs : s.Serves asks) (hc : s.calls[i]? = some c) :
    ∃ a, asks[i]? = some a ∧ a.source = c.source ∧ a.source.canonicalId a.id = c.key := by
  have hget : (s.calls.map fun c => (c.source, c.key))[i]? = some (c.source, c.key) := by
    rw [List.getElem?_map, hc]
    rfl
  rw [hs, List.getElem?_map, Option.map_eq_some_iff] at hget
  rcases hget with ⟨a, ha, heq⟩
  rw [Prod.mk.injEq] at heq
  exact ⟨a, ha, heq.1, heq.2⟩

theorem Serves.length_eq (hs : s.Serves asks) : s.calls.length = asks.length := by
  have hlength := congrArg List.length hs
  simpa using hlength

theorem serves_start (cache : Cache) (asks : List Ask) : (start cache asks).Serves asks := by
  simp [Serves, start, Ask.call]

end Serves

/-! ## Steps -/

variable [PatternEngine]

/-- The ways in which a call can go on, one for each phase and what is met there. -/
inductive Advance (s : Concurrent) (i : Nat) (c : Call) : Phase → Concurrent → Prop where
  | opened (hc : c.phase = .openSlot) :
      Advance s i c .look { s.goTo i c .look with cache := s.cache.openSlot c.key }
  | hit {shared : SharedRules} (hc : c.phase = .look) (h : s.cache.get? c.key = some shared) :
      Advance s i c (.finished (some shared)) (s.goTo i c (.finished (some shared)))
  | missed (hc : c.phase = .look) (h : s.cache.get? c.key = none) :
      Advance s i c .lock (s.goTo i c .lock)
  | locked (hc : c.phase = .lock) (h : s.isLocked c.key = false) :
      Advance s i c .lookAgain { s.goTo i c .lookAgain with locks := (c.key, i) :: s.locks }
  | hitAgain {shared : SharedRules} (hc : c.phase = .lookAgain)
      (h : s.cache.get? c.key = some shared) :
      Advance s i c (.unlock (some shared)) (s.goTo i c (.unlock (some shared)))
  | missedAgain (hc : c.phase = .lookAgain) (h : s.cache.get? c.key = none) :
      Advance s i c .ask (s.goTo i c .ask)
  | present (hc : c.phase = .ask) (h : c.source.holds c.key = true) :
      Advance s i c .load (s.goTo i c .load)
  | absent (hc : c.phase = .ask) (h : c.source.holds c.key = false) :
      Advance s i c (.unlock none) (s.goTo i c (.unlock none))
  | loaded {entries : List Entry} (hc : c.phase = .load) (h : c.source.load c.key = .ok entries) :
      Advance s i c (.compile entries)
        { s.goTo i c (.compile entries) with loads := (i, c.key) :: s.loads }
  | failed {e : SourceError} (hc : c.phase = .load) (h : c.source.load c.key = .error e) :
      Advance s i c (.unlock none) { s.goTo i c (.unlock none) with loads := (i, c.key) :: s.loads }
  | useless {entries : List Entry} (hc : c.phase = .compile entries)
      (h : (Loader.usable entries).1 = none) : Advance s i c (.unlock none) (s.goTo i c (.unlock none))
  | made {entries : List Entry} {rules : RuleSet} (hc : c.phase = .compile entries)
      (h : (Loader.usable entries).1 = some rules) :
      Advance s i c (.fill ⟨s.cache.made, rules⟩)
        { s.goTo i c (.fill ⟨s.cache.made, rules⟩) with cache := (s.cache.stamped rules).2 }
  | filled {shared : SharedRules} (hc : c.phase = .fill shared) :
      Advance s i c (.unlock ((s.cache.fill c.key shared).get? c.key))
        { s.goTo i c (.unlock ((s.cache.fill c.key shared).get? c.key)) with
          cache := s.cache.fill c.key shared }
  | unlocked {result : Option SharedRules} (hc : c.phase = .unlock result) :
      Advance s i c (.finished result)
        { s.goTo i c (.finished result) with locks := s.locks.filter fun l => l.2 != i }

theorem exists_advance {s s' : Concurrent} {i : Nat} (h : s.step? i = some s') :
    ∃ c p, s.calls[i]? = some c ∧ Advance s i c p s' := by
  unfold step? at h
  cases hi : s.calls[i]? with
  | none => simp [hi] at h
  | some c =>
      refine ⟨c, ?_⟩
      simp only [hi] at h
      cases hc : c.phase with
      | openSlot =>
          simp only [hc] at h
          cases h
          exact ⟨_, rfl, .opened hc⟩
      | look =>
          simp only [hc] at h
          split at h
          · next hget =>
              cases h
              exact ⟨_, rfl, .hit hc hget⟩
          · next hget =>
              cases h
              exact ⟨_, rfl, .missed hc hget⟩
      | lock =>
          simp only [hc] at h
          split at h
          · cases h
          · next hfree =>
              cases h
              exact ⟨_, rfl, .locked hc (by simpa using hfree)⟩
      | lookAgain =>
          simp only [hc] at h
          split at h
          · next hget =>
              cases h
              exact ⟨_, rfl, .hitAgain hc hget⟩
          · next hget =>
              cases h
              exact ⟨_, rfl, .missedAgain hc hget⟩
      | ask =>
          simp only [hc] at h
          cases hholds : c.source.holds c.key with
          | true =>
              rw [hholds, if_pos rfl] at h
              cases h
              exact ⟨_, rfl, .present hc hholds⟩
          | false =>
              rw [hholds, if_neg Bool.false_ne_true] at h
              cases h
              exact ⟨_, rfl, .absent hc hholds⟩
      | load =>
          simp only [hc] at h
          split at h
          · next hload =>
              cases h
              exact ⟨_, rfl, .loaded hc hload⟩
          · next hload =>
              cases h
              exact ⟨_, rfl, .failed hc hload⟩
      | compile entries =>
          simp only [hc] at h
          split at h
          · next husable =>
              cases h
              exact ⟨_, rfl, .useless hc husable⟩
          · next husable =>
              cases h
              exact ⟨_, rfl, .made hc husable⟩
      | fill shared =>
          simp only [hc] at h
          cases h
          exact ⟨_, rfl, .filled hc⟩
      | unlock result =>
          simp only [hc] at h
          cases h
          exact ⟨_, rfl, .unlocked hc⟩
      | finished result =>
          simp [hc] at h

/-! ## Runs -/

/-- A step of a call, if it can be taken. -/
def advance (s : Concurrent) (i : Nat) : Concurrent := (s.step? i).getD s

theorem advance_of_none {s : Concurrent} {i : Nat} (h : s.step? i = none) : s.advance i = s := by
  simp [advance, h]

theorem advance_of_some {s s' : Concurrent} {i : Nat} (h : s.step? i = some s') :
    s.advance i = s' := by
  simp [advance, h]

theorem run_cons (s : Concurrent) (i : Nat) (rest : List Nat) :
    s.run (i :: rest) = (s.advance i).run rest := rfl

theorem run_append (s : Concurrent) (before after : List Nat) :
    s.run (before ++ after) = (s.run before).run after :=
  List.foldl_append

/-- What holds at first and is preserved by every step holds after every schedule. -/
theorem run_induction {P : Concurrent → Prop}
    (hstep : ∀ {s s' : Concurrent} {i : Nat} {c : Call} {p : Phase}, P s → s.calls[i]? = some c →
      Advance s i c p s' → P s') (schedule : List Nat) :
    ∀ {s : Concurrent}, P s → P (s.run schedule) := by
  induction schedule with
  | nil =>
      intro s hs
      exact hs
  | cons i rest ih =>
      intro s hs
      rw [run_cons]
      apply ih
      cases hs' : s.step? i with
      | none =>
          -- a step that cannot be taken is passed over
          rw [advance_of_none hs']
          exact hs
      | some s' =>
          rcases exists_advance hs' with ⟨c, p, hc, hadvance⟩
          rw [advance_of_some hs']
          exact hstep hs hc hadvance

/-! ## What a step leaves alone -/

section Frame

variable {s s' : Concurrent} {i j : Nat} {c d : Call} {p : Phase}

theorem Advance.calls_eq (h : Advance s i c p s') :
    s'.calls = s.calls.set i { c with phase := p } := by
  cases h <;> rfl

theorem Advance.getElem?_self (h : Advance s i c p s') (hc : s.calls[i]? = some c) :
    s'.calls[i]? = some { c with phase := p } := by
  have hlt : i < s.calls.length := (List.getElem?_eq_some_iff.1 hc).1
  rw [h.calls_eq, List.getElem?_set_self hlt]

theorem Advance.getElem?_of_ne (h : Advance s i c p s') (hj : j ≠ i) :
    s'.calls[j]? = s.calls[j]? := by
  rw [h.calls_eq, List.getElem?_set_ne (Ne.symm hj)]

/-- After a step, a call is the one that took it or one that stayed as it was. -/
theorem Advance.getElem?_cases (h : Advance s i c p s') (hc : s.calls[i]? = some c)
    (hj : s'.calls[j]? = some d) :
    (j = i ∧ d = { c with phase := p }) ∨ (j ≠ i ∧ s.calls[j]? = some d) := by
  by_cases hji : j = i
  · subst hji
    rw [h.getElem?_self hc] at hj
    exact .inl ⟨rfl, (Option.some.inj hj).symm⟩
  · rw [h.getElem?_of_ne hji] at hj
    exact .inr ⟨hji, hj⟩

/-- How many calls have a property changes with the one call that takes the step. -/
theorem Advance.countP_calls (h : Advance s i c p s') (hc : s.calls[i]? = some c)
    (q : Call → Bool) : s'.calls.countP q + (if q c then 1 else 0) =
      s.calls.countP q + if q { c with phase := p } then 1 else 0 := by
  rcases List.getElem?_eq_some_iff.1 hc with ⟨hlt, hget⟩
  -- the call is among those counted before, so that nothing is lost by subtraction
  have hpos : (if q c then 1 else 0) ≤ s.calls.countP q := by
    split
    · next hq => exact List.countP_pos_iff.2 ⟨c, hget ▸ List.getElem_mem hlt, hq⟩
    · exact Nat.zero_le _
  rw [h.calls_eq, List.countP_set hlt, hget]
  omega

theorem Serves.advance {asks : List Ask} (hs : s.Serves asks) (hc : s.calls[i]? = some c)
    (h : Advance s i c p s') : s'.Serves asks := by
  rcases List.getElem?_eq_some_iff.1 hc with ⟨hlt, hget⟩
  unfold Serves at hs ⊢
  rw [← hs, h.calls_eq, List.map_set]
  refine List.ext_getElem? fun j => ?_
  by_cases hj : j = i
  · subst hj
    rw [List.getElem?_set_self (by simpa using hlt)]
    simp [hc]
  · rw [List.getElem?_set_ne (Ne.symm hj)]

end Frame

end Concurrent
end MailRules

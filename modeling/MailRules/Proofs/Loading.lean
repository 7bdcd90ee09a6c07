import MailRules.Proofs.Settling

/-!
# Loading — documents that rules come of are loaded once

A load is useful if rules come of the document.  After a useful load the lock is not given back
until the slot is filled, and then no call loads the document any more.  This file defines:

* `Concurrent.usefulLoads`, how many loads of a document were useful;
* `Concurrent.Frugal`, the invariant: there was one at most, and if there was one, then the slot is
  filled or some call is about to fill it;

and proves `Concurrent.frugal_run` for every schedule.
-/

namespace MailRules

namespace Phase

def isLoading : Phase → Bool
  | load => true
  | _ => false

theorem eq_load {p : Phase} (h : p.isLoading = true) : p = .load := by
  cases p with
  | load => rfl
  | _ => cases h

variable [PatternEngine]

/-- Rules are there, and have not been put into the slot. -/
def hasRules : Phase → Bool
  | compile entries => (Loader.usable entries).1.isSome
  | fill _ => true
  | _ => false

theorem isInside_of_hasRules {p : Phase} (h : p.hasRules = true) : p.isInside = true := by
  cases p with
  | compile entries => rfl
  | fill shared => rfl
  | _ => cases h

end Phase

variable [PatternEngine]

/-- Whether a load gives a document that rules come of. -/
def Source.loadsRules (s : Source) (key : String) : Bool :=
  match s.load key with
  | .ok entries => (Loader.usable entries).1.isSome
  | .error _ => false

namespace Concurrent

/-- How many loads of a document gave rules. -/
def usefulLoads (s : Concurrent) (asks : List Ask) (key : String) : Nat :=
  s.loads.countP fun l => l.2 == key && asks[l.1]?.any fun a => a.source.loadsRules l.2

/-- There are rules in the slot, or a call has some for it. -/
def IsSupplied (s : Concurrent) (key : String) : Prop :=
  (s.cache.get? key).isSome = true ∨ s.Has fun c => c.key = key ∧ c.phase.hasRules = true

structure Frugal (s : Concurrent) (asks : List Ask) : Prop where
  once : ∀ key, s.usefulLoads asks key ≤ 1
  supplied : ∀ key, s.usefulLoads asks key ≠ 0 → s.IsSupplied key

section Step

variable {s s' : Concurrent} {i : Nat} {c : Call} {p : Phase} {asks : List Ask}

theorem Advance.usefulLoads_eq (h : Advance s i c p s') (hasked : s.Serves asks)
    (hc : s.calls[i]? = some c) (key : String) : s'.usefulLoads asks key = s.usefulLoads asks key +
      if c.phase.isLoading && c.key == key && c.source.loadsRules c.key then 1 else 0 := by
  have hload (loads : List (Nat × String)) :
      ((i, c.key) :: loads).countP
          (fun l => l.2 == key && asks[l.1]?.any fun a => a.source.loadsRules l.2) =
        loads.countP (fun l => l.2 == key && asks[l.1]?.any fun a => a.source.loadsRules l.2) +
          if c.key == key && c.source.loadsRules c.key then 1 else 0 := by
    rcases hasked.exists_ask hc with ⟨a, ha, hsource, _⟩
    rw [List.countP_cons]
    simp [ha, hsource]
  cases h with
  | loaded hphase _ | failed hphase _ =>
      rw [hphase]
      exact hload s.loads
  | opened hphase | hit hphase _ | missed hphase _ | locked hphase _ | hitAgain hphase _
  | missedAgain hphase _ | present hphase _ | absent hphase _ | useless hphase _ | made hphase _
  | filled hphase | unlocked hphase =>
      rw [hphase]
      rfl

/-- Rules that a call has do not get lost. -/
theorem Advance.isSupplied (h : Advance s i c p s') (hs : s.Informed) (hc : s.calls[i]? = some c)
    {key : String} (hsupplied : s.IsSupplied key) : s'.IsSupplied key := by
  unfold IsSupplied at hsupplied ⊢
  rw [h.has_after_iff hc]
  rcases hsupplied with hget | hhas
  · rcases Option.isSome_iff_exists.1 hget with ⟨shared, hshared⟩
    rw [hs.get?_advance hc h hshared]
    exact .inl rfl
  · rcases (has_iff hc).1 hhas with ⟨rfl, hrules⟩ | hother
    · cases h with
      | made _ _ => exact .inr (.inl ⟨rfl, rfl⟩)
      | filled hphase =>
          refine .inl ?_
          rw [hs.get?_of_fill hc hphase]
          rfl
      | useless hphase husable =>
          rw [hphase, Phase.hasRules, husable] at hrules
          cases hrules
      | opened hphase | hit hphase _ | missed hphase _ | locked hphase _ | hitAgain hphase _
      | missedAgain hphase _ | present hphase _ | absent hphase _ | loaded hphase _
      | failed hphase _ | unlocked hphase =>
          rw [hphase] at hrules
          cases hrules
    · exact .inr (.inr hother)

theorem Advance.hasRules_of_load (h : Advance s i c p s') (hphase : c.phase = .load)
    (hloads : c.source.loadsRules c.key = true) : p.hasRules = true := by
  unfold Source.loadsRules at hloads
  cases h with
  | loaded _ hload =>
      rw [hload] at hloads
      exact hloads
  | failed _ hload =>
      rw [hload] at hloads
      cases hloads
  | opened hc | hit hc _ | missed hc _ | locked hc _ | hitAgain hc _ | missedAgain hc _ | present hc _
  | absent hc _ | useless hc _ | made hc _ | filled hc | unlocked hc =>
      rw [hphase] at hc
      cases hc

/-- A call loads a document while there are no rules for it. -/
theorem not_isSupplied_of_loading (horderly : s.Orderly) (hs : s.Informed)
    (hc : s.calls[i]? = some c) (hphase : c.phase = .load) : ¬ s.IsSupplied c.key := by
  have hknows := hs.knows i c hc
  simp only [Call.Knows, hphase] at hknows
  rintro (hget | hhas)
  · rw [hknows.1] at hget
    cases hget
  · rcases (has_iff hc).1 hhas with ⟨_, hrules⟩ | hother
    · rw [hphase] at hrules
      cases hrules
    · refine horderly.not_hasOther hc (by rw [hphase]; rfl) ?_ hother
      -- a call that has rules holds the lock, as the loading call does
      rintro d ⟨hkey, hrules⟩
      exact ⟨hkey, Phase.isInside_of_hasRules hrules⟩

theorem Frugal.advance (hfrugal : s.Frugal asks) (hasked : s.Serves asks) (horderly : s.Orderly)
    (hs : s.Informed) (hc : s.calls[i]? = some c) (h : Advance s i c p s') : s'.Frugal asks := by
  have hstep (key : String) : s'.usefulLoads asks key ≤ 1 ∧
      (s'.usefulLoads asks key ≠ 0 → s'.IsSupplied key) := by
    have hcount := h.usefulLoads_eq hasked hc key
    by_cases huseful : (c.phase.isLoading && c.key == key && c.source.loadsRules c.key) = true
    · -- this load is the first useful one, since there were no rules before it
      rw [if_pos huseful] at hcount
      simp only [Bool.and_eq_true, beq_iff_eq] at huseful
      rcases huseful with ⟨⟨hloading, rfl⟩, hloads⟩
      have hphase : c.phase = .load := Phase.eq_load hloading
      have hnone : s.usefulLoads asks c.key = 0 := by
        by_contra hne
        exact not_isSupplied_of_loading horderly hs hc hphase (hfrugal.supplied c.key hne)
      have hrules := h.hasRules_of_load hphase hloads
      refine ⟨by omega, ?_⟩
      intro _
      exact .inr ((h.has_after_iff hc).2 (.inl ⟨rfl, hrules⟩))
    · rw [if_neg huseful, Nat.add_zero] at hcount
      rw [hcount]
      exact ⟨hfrugal.once key, fun hne => h.isSupplied hs hc (hfrugal.supplied key hne)⟩
  exact ⟨fun key => (hstep key).1, fun key => (hstep key).2⟩

end Step

theorem frugal_start (cache : Cache) (asks : List Ask) : (start cache asks).Frugal asks := by
  have hnone (key : String) : (start cache asks).usefulLoads asks key = 0 := rfl
  refine ⟨?_, ?_⟩
  · intro key
    rw [hnone]
    exact Nat.zero_le 1
  · intro key hne
    exact absurd (hnone key) hne

theorem frugal_run (cache : Cache) (asks : List Ask) (schedule : List Nat) :
    ((start cache asks).run schedule).Frugal asks := by
  have hrun := run_induction
    (P := fun s => s.Orderly ∧ s.Informed ∧ s.Serves asks ∧ s.Frugal asks) ?_ schedule
    ⟨orderly_start cache asks, informed_start cache asks, serves_start cache asks,
      frugal_start cache asks⟩
  · exact hrun.2.2.2
  · rintro s s' i c p ⟨horderly, hs, hasked, hfrugal⟩ hc h
    exact ⟨horderly.advance hc h, hs.advance horderly hc h, hasked.advance hc h,
      hfrugal.advance hasked horderly hs hc h⟩

end Concurrent
end MailRules

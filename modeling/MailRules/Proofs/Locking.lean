import MailRules.Proofs.Schedule

/-!
# Locking — what a call may rely on

A call that has found its slot empty while it holds the lock may rely on the slot staying empty,
until it fills the slot itself.  Two invariants say so together:

* `Concurrent.Orderly`: the locks are held by the calls between taking and giving back, and no two
  calls hold the lock of one slot;
* `Concurrent.Informed`: what a call has found out in earlier phases still holds.

`Concurrent.orderly_run` and `Concurrent.informed_run` prove them for every schedule, and
`Concurrent.get?_run_of_eq_some` concludes that a slot once filled is never filled again.
-/

namespace MailRules

namespace Phase

/-- Whether a call has taken a step. -/
def isBegun : Phase → Bool
  | openSlot => false
  | _ => true

theorem eq_openSlot {p : Phase} (h : p.isBegun = false) : p = .openSlot := by
  cases p with
  | openSlot => rfl
  | _ => cases h

end Phase

/-- What a call has found out by its phase. -/
def Call.Knows [PatternEngine] (cache : Cache) (c : Call) : Prop :=
  match c.phase with
  | .openSlot => True
  | .look => True
  | .lock => True
  | .lookAgain => True
  | .ask => cache.get? c.key = none
  | .load => cache.get? c.key = none ∧ c.source.holds c.key = true
  | .compile entries =>
      cache.get? c.key = none ∧ c.source.holds c.key = true ∧ c.source.load c.key = .ok entries
  | .fill shared => cache.get? c.key = none ∧ c.source.rulesOf? c.key = some shared.rules
  | .unlock result => ∀ shared, result = some shared → cache.get? c.key = some shared
  | .finished result => ∀ shared, result = some shared → cache.get? c.key = some shared

theorem Call.Knows.congr [PatternEngine] {cache cache' : Cache} {c : Call} (h : c.Knows cache)
    (hget : cache'.get? c.key = cache.get? c.key) : c.Knows cache' := by
  unfold Call.Knows at h ⊢
  rw [hget]
  exact h

namespace Concurrent

/-! ## Locks -/

/-- A call for an identifier is between taking the lock and giving it back. -/
def IsInside (s : Concurrent) (key : String) (i : Nat) : Prop :=
  ∃ c, s.calls[i]? = some c ∧ c.key = key ∧ c.phase.isInside = true

structure Orderly (s : Concurrent) : Prop where
  held : ∀ key i, (key, i) ∈ s.locks ↔ s.IsInside key i
  alone : ∀ key i j, (key, i) ∈ s.locks → (key, j) ∈ s.locks → i = j

section Step

variable {s s' : Concurrent} {i j : Nat} {c d : Call} {p : Phase} {key : String}

theorem isInside_iff (hc : s.calls[i]? = some c) :
    s.IsInside key i ↔ c.key = key ∧ c.phase.isInside = true := by
  constructor
  · rintro ⟨d, hd, hkey, hinside⟩
    rw [hc] at hd
    cases hd
    exact ⟨hkey, hinside⟩
  · rintro ⟨hkey, hinside⟩
    exact ⟨c, hc, hkey, hinside⟩

theorem isLocked_eq_false_iff : s.isLocked key = false ↔ ∀ j, (key, j) ∉ s.locks := by
  simp only [isLocked, List.any_eq_false, beq_iff_eq]
  constructor
  · intro h j hj
    exact h (key, j) hj rfl
  · rintro h ⟨k, j⟩ hj rfl
    exact h j hj

theorem Orderly.eq_of_isInside (hs : s.Orderly) (hi : s.IsInside key i) (hj : s.IsInside key j) :
    i = j :=
  hs.alone key i j ((hs.held key i).2 hi) ((hs.held key j).2 hj)

variable [PatternEngine]

theorem Advance.isInside_self (h : Advance s i c p s') (hc : s.calls[i]? = some c) :
    s'.IsInside key i ↔ c.key = key ∧ p.isInside = true :=
  isInside_iff (h.getElem?_self hc)

theorem Advance.isInside_of_ne (h : Advance s i c p s') (hj : j ≠ i) :
    s'.IsInside key j ↔ s.IsInside key j := by
  unfold IsInside
  rw [h.getElem?_of_ne hj]

/-- A step leaves the locks and stays where it is, or takes a free lock, or gives one back. -/
theorem Advance.locks_cases (h : Advance s i c p s') :
    (s'.locks = s.locks ∧ p.isInside = c.phase.isInside) ∨
      (s'.locks = (c.key, i) :: s.locks ∧ s.isLocked c.key = false ∧ c.phase.isInside = false ∧
        p.isInside = true) ∨
      (s'.locks = s.locks.filter (fun l => l.2 != i) ∧ c.phase.isInside = true ∧
        p.isInside = false) := by
  cases h with
  | locked hc hfree => exact .inr (.inl ⟨rfl, hfree, by rw [hc]; rfl, rfl⟩)
  | unlocked hc => exact .inr (.inr ⟨rfl, by rw [hc]; rfl, rfl⟩)
  | _ => exact .inl ⟨rfl, by simp_all [Phase.isInside]⟩

theorem Orderly.advance (hs : s.Orderly) (hc : s.calls[i]? = some c) (h : Advance s i c p s') :
    s'.Orderly := by
  rcases h.locks_cases with ⟨hlocks, hsame⟩ | ⟨hlocks, hfree, hout, hin⟩ | ⟨hlocks, hin, hout⟩
  · -- the locks stay as they are
    refine ⟨?_, by rw [hlocks]; exact hs.alone⟩
    intro key j
    rw [hlocks, hs.held]
    by_cases hj : j = i
    · subst hj
      rw [h.isInside_self hc, isInside_iff hc, hsame]
    · rw [h.isInside_of_ne hj]
  · -- the lock was free and is taken
    rw [isLocked_eq_false_iff] at hfree
    refine ⟨?_, ?_⟩
    · intro key j
      rw [hlocks, List.mem_cons, hs.held, Prod.mk.injEq]
      by_cases hj : j = i
      · subst hj
        rw [h.isInside_self hc, isInside_iff hc]
        simp [hin, hout, eq_comm]
      · rw [h.isInside_of_ne hj]
        simp [hj]
    · intro key j k hj hk
      rw [hlocks, List.mem_cons, Prod.mk.injEq] at hj hk
      rcases hj with ⟨rfl, rfl⟩ | hj <;> rcases hk with ⟨hkey, rfl⟩ | hk
      · rfl
      · exact absurd hk (hfree k)
      · exact absurd (hkey ▸ hj) (hfree j)
      · exact hs.alone key j k hj hk
  · -- all that the call held is given back
    refine ⟨?_, ?_⟩
    · intro key j
      rw [hlocks, List.mem_filter, hs.held]
      by_cases hj : j = i
      · subst hj
        rw [h.isInside_self hc]
        simp [hout]
      · rw [h.isInside_of_ne hj]
        simp [hj]
    · intro key j k hj hk
      rw [hlocks, List.mem_filter] at hj hk
      exact hs.alone key j k hj.1 hk.1

/-! ## Slots -/

theorem Advance.mem_keys_iff (h : Advance s i c p s') :
    key ∈ s'.cache.keys ↔ key ∈ s.cache.keys ∨ (c.phase.isBegun = false ∧ key = c.key) := by
  cases h with
  | opened hc =>
      rw [Cache.mem_keys_openSlot]
      simp [hc, Phase.isBegun, or_comm]
  | made hc _ =>
      rw [Cache.keys_stamped]
      simp [hc, Phase.isBegun]
  | filled hc =>
      rw [Cache.keys_fill]
      simp [hc, Phase.isBegun]
  | _ => simp_all [goTo, Phase.isBegun]

/-- Only the step that fills a slot is seen from outside. -/
theorem Advance.get?_eq (h : Advance s i c p s') (hfill : ∀ shared, c.phase ≠ .fill shared) :
    s'.cache.get? key = s.cache.get? key := by
  cases h with
  | opened _ => exact Cache.get?_openSlot _ _ _
  | made _ _ => rfl
  | filled hc => exact absurd hc (hfill _)
  | _ => rfl

theorem Advance.get?_of_ne (h : Advance s i c p s') (hkey : key ≠ c.key) :
    s'.cache.get? key = s.cache.get? key := by
  cases h with
  | opened _ => exact Cache.get?_openSlot _ _ _
  | made _ _ => rfl
  | filled _ => exact Cache.get?_fill_of_ne _ _ _ hkey
  | _ => rfl

structure Informed (s : Concurrent) : Prop where
  opened : ∀ (i : Nat) (c : Call), s.calls[i]? = some c → c.phase.isBegun = true →
    c.key ∈ s.cache.keys
  knows : ∀ (i : Nat) (c : Call), s.calls[i]? = some c → c.Knows s.cache

theorem Informed.get?_of_fill (hs : s.Informed) (hc : s.calls[i]? = some c) {shared : SharedRules}
    (hphase : c.phase = .fill shared) :
    (s.cache.fill c.key shared).get? c.key = some shared := by
  have hopened := hs.opened i c hc (by rw [hphase]; rfl)
  have hknows := hs.knows i c hc
  simp only [Call.Knows, hphase] at hknows
  exact Cache.get?_fill_self _ _ hopened hknows.1

theorem Informed.get?_advance (hs : s.Informed) (hc : s.calls[i]? = some c) (h : Advance s i c p s')
    {shared : SharedRules} (hget : s.cache.get? key = some shared) :
    s'.cache.get? key = some shared := by
  by_cases hkey : key = c.key
  · -- a call that fills this slot would have found it empty
    subst hkey
    rw [h.get?_eq, hget]
    intro other hphase
    have hknows := hs.knows i c hc
    simp only [Call.Knows, hphase, hget] at hknows
    cases hknows.1
  · rw [h.get?_of_ne hkey, hget]

/-- The call that takes a step finds out what its new phase says. -/
theorem Informed.knows_self (hs : s.Informed) (hc : s.calls[i]? = some c) (h : Advance s i c p s') :
    Call.Knows s'.cache { c with phase := p } := by
  have hknows := hs.knows i c hc
  cases h with
  | opened _ => trivial
  | hit _ hget =>
      rintro other ⟨⟩
      exact hget
  | missed _ _ => trivial
  | locked _ _ => trivial
  | hitAgain _ hget =>
      rintro other ⟨⟩
      exact hget
  | missedAgain _ hget => exact hget
  | present hphase hholds =>
      simp only [Call.Knows, hphase] at hknows
      exact ⟨hknows, hholds⟩
  | absent _ _ => nofun
  | loaded hphase hload =>
      simp only [Call.Knows, hphase] at hknows
      exact ⟨hknows.1, hknows.2, hload⟩
  | failed _ _ => nofun
  | useless _ _ => nofun
  | made hphase husable =>
      simp only [Call.Knows, hphase] at hknows
      refine ⟨hknows.1, ?_⟩
      rw [Source.rulesOf?_eq_some_iff]
      exact ⟨hknows.2.1, _, hknows.2.2, Loader.usable_eq_some_iff.1 husable⟩
  | filled _ =>
      intro other hother
      exact hother
  | unlocked hphase =>
      simp only [Call.Knows, hphase] at hknows
      exact hknows

/-- The calls that do not take the step have found out nothing that it makes untrue. -/
theorem Informed.knows_of_ne (hs : s.Informed) (horderly : s.Orderly) (hc : s.calls[i]? = some c)
    (h : Advance s i c p s') (hj : j ≠ i) (hd : s.calls[j]? = some d) : d.Knows s'.cache := by
  have hknows := hs.knows j d hd
  by_cases hkey : d.key = c.key
  · by_cases hfill : ∃ shared, c.phase = .fill shared
    · rcases hfill with ⟨shared, hphase⟩
      -- the filling call holds the lock, so that this one does not, and knows of no rules either
      have hempty := hs.knows i c hc
      simp only [Call.Knows, hphase] at hempty
      have hinside : s.IsInside c.key i := ⟨c, hc, rfl, by rw [hphase]; rfl⟩
      have hout : d.phase.isInside = false := by
        rw [Bool.eq_false_iff]
        intro hin
        exact hj (horderly.eq_of_isInside ⟨d, hd, hkey, hin⟩ hinside)
      cases hdp : d.phase with
      | finished result =>
          simp only [Call.Knows, hdp, hkey, hempty.1] at hknows ⊢
          intro other hother
          cases hknows other hother
      | openSlot => simp [Call.Knows, hdp]
      | look => simp [Call.Knows, hdp]
      | lock => simp [Call.Knows, hdp]
      | _ => simp [hdp, Phase.isInside] at hout
    · exact hknows.congr (h.get?_eq fun shared hphase => hfill ⟨shared, hphase⟩)
  · exact hknows.congr (h.get?_of_ne hkey)

theorem Informed.advance (hs : s.Informed) (horderly : s.Orderly) (hc : s.calls[i]? = some c)
    (h : Advance s i c p s') : s'.Informed := by
  refine ⟨?_, ?_⟩
  · intro j d hd hbegun
    rw [h.mem_keys_iff]
    rcases h.getElem?_cases hc hd with ⟨rfl, rfl⟩ | ⟨hj, hd⟩
    · cases hb : c.phase.isBegun with
      | true => exact .inl (hs.opened _ c hc hb)
      | false => exact .inr ⟨rfl, rfl⟩
    · exact .inl (hs.opened j d hd hbegun)
  · intro j d hd
    rcases h.getElem?_cases hc hd with ⟨rfl, rfl⟩ | ⟨hj, hd⟩
    · exact hs.knows_self hc h
    · exact hs.knows_of_ne horderly hc h hj hd

end Step

/-! ## Runs -/

theorem orderly_start (cache : Cache) (asks : List Ask) : (start cache asks).Orderly := by
  refine ⟨?_, by simp [start]⟩
  intro key i
  simp only [start, List.not_mem_nil, false_iff]
  rintro ⟨c, hc, _, hinside⟩
  rw [phase_of_start hc] at hinside
  cases hinside

variable [PatternEngine]

theorem informed_start (cache : Cache) (asks : List Ask) : (start cache asks).Informed := by
  refine ⟨?_, ?_⟩
  · intro i c hc hbegun
    rw [phase_of_start hc] at hbegun
    cases hbegun
  · intro i c hc
    simp only [Call.Knows, phase_of_start hc]

/-- Both invariants are preserved together. -/
theorem orderly_informed_run {s : Concurrent} (horderly : s.Orderly) (hs : s.Informed)
    (schedule : List Nat) : (s.run schedule).Orderly ∧ (s.run schedule).Informed := by
  refine run_induction (P := fun s => s.Orderly ∧ s.Informed) ?_ schedule ⟨horderly, hs⟩
  intro s s' i c p hs hc h
  exact ⟨hs.1.advance hc h, hs.2.advance hs.1 hc h⟩

theorem orderly_run (cache : Cache) (asks : List Ask) (schedule : List Nat) :
    ((start cache asks).run schedule).Orderly :=
  (orderly_informed_run (orderly_start cache asks) (informed_start cache asks) schedule).1

theorem informed_run (cache : Cache) (asks : List Ask) (schedule : List Nat) :
    ((start cache asks).run schedule).Informed :=
  (orderly_informed_run (orderly_start cache asks) (informed_start cache asks) schedule).2

/-- What a cache holds at one time it holds at all later times. -/
theorem get?_run_of_eq_some {s : Concurrent} (horderly : s.Orderly) (hs : s.Informed) {key : String}
    {shared : SharedRules} (hget : s.cache.get? key = some shared) (schedule : List Nat) :
    (s.run schedule).cache.get? key = some shared := by
  have hrun := run_induction
    (P := fun s => (s.Orderly ∧ s.Informed) ∧ s.cache.get? key = some shared) ?_ schedule
    ⟨⟨horderly, hs⟩, hget⟩
  · exact hrun.2
  · intro s s' i c p hs hc h
    exact ⟨⟨hs.1.1.advance hc h, hs.1.2.advance hs.1.1 hc h⟩, hs.1.2.get?_advance hc h hs.2⟩

end Concurrent
end MailRules

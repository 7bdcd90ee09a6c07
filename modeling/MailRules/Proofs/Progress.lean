import MailRules.Proofs.Locking

/-!
# Progress — who waits for whom

A thread makes one call after the other, and many threads do so at once.  A call waits only for a
lock, and who holds a lock waits for nobody.  This file defines:

* `Phase.remaining`, the number of steps that a call has still to take at most, and
  `Concurrent.stepsLeft`, their sum;
* `Concurrent.Move`, a step of the call of a thread or the beginning of its next one, and
  `Concurrent.play`, which makes moves in their order;

and proves:

* `Concurrent.step?_eq_none_iff`, the cases in which a call cannot take a step;
* `Concurrent.Orderly.exists_step?`, by which some call can take a step as long as one is
  unfinished;
* `Concurrent.allFinished_finish`, by which giving every call its turn often enough finishes all;
* `Concurrent.play_progress`, which says for all threads and all moves who waits for whom, and that
  a call that finds its slot filled at first needs no lock.
-/

namespace MailRules

namespace Phase

/-- How many steps a call takes from here at most. -/
def remaining : Phase → Nat
  | openSlot => 9
  | look => 8
  | lock => 7
  | lookAgain => 6
  | ask => 5
  | load => 4
  | compile _ => 3
  | fill _ => 2
  | unlock _ => 1
  | finished _ => 0

theorem remaining_le (p : Phase) : p.remaining ≤ Concurrent.maxSteps := by
  cases p <;> simp [remaining, Concurrent.maxSteps]

/-- A call that holds a lock neither wants one nor has finished. -/
theorem of_isInside {p : Phase} (h : p.isInside = true) : p.isFinished = false ∧ p ≠ .lock := by
  cases p with
  | lock => cases h
  | finished result => cases h
  | _ => exact ⟨rfl, nofun⟩

theorem of_look_le {p : Phase} (h : look.remaining ≤ p.remaining) : p = .openSlot ∨ p = .look := by
  cases p with
  | openSlot => exact .inl rfl
  | look => exact .inr rfl
  | _ => simp [remaining] at h

end Phase

namespace Concurrent

theorem isLocked_iff {s : Concurrent} {key : String} :
    s.isLocked key = true ↔ ∃ j, (key, j) ∈ s.locks := by
  rw [← Bool.not_eq_false, isLocked_eq_false_iff]
  simp

/-! ## What is left to do -/

def remainingAll : List Call → Nat
  | [] => 0
  | c :: rest => c.phase.remaining + remainingAll rest

/-- How many steps all calls take together at most. -/
def stepsLeft (s : Concurrent) : Nat := remainingAll s.calls

theorem remainingAll_set (c d : Call) : ∀ (calls : List Call) (i : Nat), calls[i]? = some c →
    remainingAll (calls.set i d) + c.phase.remaining = remainingAll calls + d.phase.remaining
  | [], i, hc => by
      simp at hc
  | first :: rest, 0, hc => by
      obtain rfl : first = c := by simpa using hc
      simp only [List.set_cons_zero, remainingAll]
      omega
  | first :: rest, i + 1, hc => by
      have hrest := remainingAll_set c d rest i (by simpa using hc)
      simp only [List.set_cons_succ, remainingAll]
      omega

theorem stepsLeft_le (s : Concurrent) : s.stepsLeft ≤ maxSteps * s.calls.length := by
  unfold stepsLeft
  induction s.calls with
  | nil => exact Nat.le_refl _
  | cons c rest ih =>
      have hfirst := c.phase.remaining_le
      simp only [remainingAll, List.length_cons, Nat.mul_succ]
      omega

/-- So many rounds, in each of which so many calls have their turn. -/
def rounds (calls count : Nat) : List Nat := (List.range count).flatMap fun _ => List.range calls

theorem rounds_succ (calls count : Nat) :
    rounds calls (count + 1) = rounds calls count ++ List.range calls := by
  simp [rounds, List.range_succ]

/-! ## Calls that follow others -/

/-- A call takes the place of a finished one. -/
def renew (s : Concurrent) (i : Nat) (a : Ask) : Concurrent :=
  { s with calls := s.calls.set i a.call }

theorem Orderly.renew {s : Concurrent} {i : Nat} {c : Call} (hs : s.Orderly)
    (hc : s.calls[i]? = some c) (hfinished : c.phase.isFinished = true) (a : Ask) :
    (s.renew i a).Orderly := by
  refine ⟨?_, hs.alone⟩
  intro key j
  have hlocks : (s.renew i a).locks = s.locks := rfl
  rw [hlocks, hs.held]
  by_cases hj : j = i
  · -- neither the finished call nor the new one holds a lock
    subst hj
    rcases Phase.exists_finished hfinished with ⟨result, hphase⟩
    have hnew : (s.renew j a).calls[j]? = some a.call :=
      List.getElem?_set_self (List.getElem?_eq_some_iff.1 hc).1
    rw [isInside_iff hc, isInside_iff hnew]
    simp [hphase, Ask.call, Phase.isInside]
  · have hother : (s.renew i a).calls[j]? = s.calls[j]? := List.getElem?_set_ne (Ne.symm hj)
    unfold IsInside
    rw [hother]

variable [PatternEngine]

/-! ## Waiting -/

section Waiting

variable {s : Concurrent} {i j : Nat} {c : Call} {key : String}

/-- A call cannot take a step when it has finished, and when the lock that it needs next is held. -/
theorem step?_eq_none_iff (hc : s.calls[i]? = some c) : s.step? i = none ↔
    c.phase.isFinished = true ∨ (c.phase = .lock ∧ s.isLocked c.key = true) := by
  unfold step?
  simp only [hc]
  cases hphase : c.phase with
  | lock => simp [Phase.isFinished]
  | look => cases s.cache.get? c.key <;> simp [Phase.isFinished]
  | lookAgain => cases s.cache.get? c.key <;> simp [Phase.isFinished]
  | load => cases c.source.load c.key <;> simp [Phase.isFinished]
  | compile entries =>
      simp only [Phase.isFinished]
      split <;> simp
  | _ => simp [Phase.isFinished]

theorem exists_step? (hc : s.calls[i]? = some c) (hunfinished : c.phase.isFinished = false)
    (hfree : c.phase = .lock → s.isLocked c.key = false) : ∃ s', s.step? i = some s' := by
  rw [← Option.ne_none_iff_exists', ne_eq, step?_eq_none_iff hc]
  rintro (hfinished | ⟨hphase, hlocked⟩)
  · simp [hunfinished] at hfinished
  · simp [hfree hphase] at hlocked

/-- Who holds a lock waits for nobody. -/
theorem Orderly.exists_holder (hs : s.Orderly) (hlock : (key, j) ∈ s.locks) :
    ∃ c, s.calls[j]? = some c ∧ c.key = key ∧ c.phase.isInside = true ∧
      ∃ s', s.step? j = some s' := by
  rcases (hs.held key j).1 hlock with ⟨c, hc, hkey, hinside⟩
  rcases Phase.of_isInside hinside with ⟨hunfinished, hlocking⟩
  exact ⟨c, hc, hkey, hinside, exists_step? hc hunfinished fun hphase => absurd hphase hlocking⟩

theorem Orderly.waits_iff (hs : s.Orderly) (hc : s.calls[i]? = some c)
    (hunfinished : c.phase.isFinished = false) :
    s.step? i = none ↔ c.phase = .lock ∧ ∃ j, j ≠ i ∧ (c.key, j) ∈ s.locks := by
  rw [step?_eq_none_iff hc, hunfinished, isLocked_iff]
  constructor
  · rintro (hfinished | ⟨hphase, j, hj⟩)
    · cases hfinished
    · refine ⟨hphase, j, ?_, hj⟩
      rintro rfl
      -- a call that is about to take the lock does not hold it
      have hinside := ((isInside_iff hc).1 ((hs.held _ _).1 hj)).2
      exact (Phase.of_isInside hinside).2 hphase
  · rintro ⟨hphase, j, _, hj⟩
    exact .inr ⟨hphase, j, hj⟩

/-- An unfinished call can go on, or who holds the lock that it waits for can. -/
theorem Orderly.exists_step? (hs : s.Orderly) (hc : s.calls[i]? = some c)
    (hunfinished : c.phase.isFinished = false) : ∃ j s', s.step? j = some s' := by
  cases hstep : s.step? i with
  | some s' => exact ⟨i, s', hstep⟩
  | none =>
      rcases (hs.waits_iff hc hunfinished).1 hstep with ⟨_, j, _, hj⟩
      rcases hs.exists_holder hj with ⟨_, _, _, _, hcan⟩
      exact ⟨j, hcan⟩

end Waiting

/-! ## Finishing -/

section Finishing

variable {s s' : Concurrent} {i : Nat} {c : Call} {p : Phase}

theorem Advance.remaining_lt (h : Advance s i c p s') : p.remaining < c.phase.remaining := by
  cases h <;> simp [Phase.remaining, *]

theorem Advance.stepsLeft_lt (h : Advance s i c p s') (hc : s.calls[i]? = some c) :
    s'.stepsLeft < s.stepsLeft := by
  have hsum : remainingAll s'.calls + c.phase.remaining = remainingAll s.calls + p.remaining := by
    simpa [h.calls_eq] using remainingAll_set c { c with phase := p } s.calls i hc
  have hless := h.remaining_lt
  unfold stepsLeft
  omega

theorem run_of_none (schedule : List Nat) : ∀ {s : Concurrent}, (∀ i ∈ schedule, s.step? i = none) →
    s.run schedule = s := by
  induction schedule with
  | nil =>
      intro s _
      rfl
  | cons i rest ih =>
      intro s h
      have hfirst : s.advance i = s := advance_of_none (h i (by simp))
      have hrest : s.run rest = s := ih fun j hj => h j (by simp [hj])
      simp [run_cons, hfirst, hrest]

/-- Either nobody on a schedule can take a step, or steps are taken. -/
theorem none_or_stepsLeft_run_lt (schedule : List Nat) : ∀ s : Concurrent,
    (∀ i ∈ schedule, s.step? i = none) ∨ (s.run schedule).stepsLeft < s.stepsLeft := by
  induction schedule with
  | nil =>
      intro s
      exact .inl nofun
  | cons i rest ih =>
      intro s
      cases hstep : s.step? i with
      | none =>
          have hrun : s.run (i :: rest) = s.run rest := by
            simp [run_cons, advance_of_none hstep]
          rcases ih s with hnone | hless
          · exact .inl (List.forall_mem_cons.2 ⟨hstep, hnone⟩)
          · exact .inr (hrun ▸ hless)
      | some s' =>
          -- one step is enough, whatever the others do after it
          have hrun : s.run (i :: rest) = s'.run rest := by
            simp [run_cons, advance_of_some hstep]
          have hrest : (s'.run rest).stepsLeft ≤ s'.stepsLeft := by
            rcases ih s' with hnone | hless
            · exact Nat.le_of_eq (congrArg stepsLeft (run_of_none rest hnone))
            · exact Nat.le_of_lt hless
          rcases exists_advance hstep with ⟨c, p, hc, hadvance⟩
          right
          calc
            (s.run (i :: rest)).stepsLeft = (s'.run rest).stepsLeft := congrArg stepsLeft hrun
            _ ≤ s'.stepsLeft := hrest
            _ < s.stepsLeft := hadvance.stepsLeft_lt hc

theorem Orderly.run (hs : s.Orderly) (schedule : List Nat) : (s.run schedule).Orderly :=
  run_induction (fun horderly hc h => horderly.advance hc h) schedule hs

theorem length_run (s : Concurrent) (schedule : List Nat) :
    (s.run schedule).calls.length = s.calls.length := by
  refine run_induction (P := fun t => t.calls.length = s.calls.length) ?_ schedule rfl
  intro t t' i c p hlength _ h
  simpa [h.calls_eq] using hlength

theorem step?_of_allFinished (hfinished : s.allFinished = true) (i : Nat) : s.step? i = none := by
  cases hc : s.calls[i]? with
  | none => simp [step?, hc]
  | some c =>
      have hlast := List.all_eq_true.1 hfinished c (List.mem_of_getElem? hc)
      exact (step?_eq_none_iff hc).2 (.inl hlast)

theorem Orderly.allFinished_or (hs : s.Orderly) :
    s.allFinished = true ∨
      ∃ j s', j < s.calls.length ∧ s.step? j = some s' ∧ s'.stepsLeft < s.stepsLeft := by
  cases hfinished : s.allFinished with
  | true => exact .inl rfl
  | false =>
      rcases List.all_eq_false.1 hfinished with ⟨c, hmem, hunfinished⟩
      rcases List.getElem?_of_mem hmem with ⟨i, hc⟩
      rcases hs.exists_step? hc (by simpa using hunfinished) with ⟨j, s', hstep⟩
      rcases exists_advance hstep with ⟨d, p, hd, hadvance⟩
      exact .inr ⟨j, s', (List.getElem?_eq_some_iff.1 hd).1, hstep, hadvance.stepsLeft_lt hd⟩

/-- In every round a step is taken, as long as a call is unfinished. -/
theorem Orderly.run_rounds (hs : s.Orderly) (count : Nat) :
    (s.run (rounds s.calls.length count)).allFinished = true ∨
      (s.run (rounds s.calls.length count)).stepsLeft + count ≤ s.stepsLeft := by
  -- every round pays for itself with a step of the call that can take one when the round begins,
  -- or of one that comes before it in the round
  induction count with
  | zero => exact .inr (Nat.le_refl _)
  | succ count ih =>
      have horderly := hs.run (rounds s.calls.length count)
      have hlength := length_run s (rounds s.calls.length count)
      rw [rounds_succ, run_append]
      generalize s.run (rounds s.calls.length count) = t at ih horderly hlength
      rcases horderly.allFinished_or with hfinished | ⟨j, t', hj, hstep, _⟩
      · -- what has finished stays as it is
        have hstays : t.run (List.range s.calls.length) = t :=
          run_of_none _ fun i _ => step?_of_allFinished hfinished i
        exact .inl (hstays.symm ▸ hfinished)
      · rcases ih with hfinished | hsteps
        · simp [step?_of_allFinished hfinished j] at hstep
        · rcases none_or_stepsLeft_run_lt (List.range s.calls.length) t with hnone | hless
          · have hidle := hnone j (List.mem_range.2 (hlength ▸ hj))
            simp [hidle] at hstep
          · right
            omega

/-- Giving every call its turn often enough finishes all calls. -/
theorem allFinished_finish (hs : s.Orderly) : s.finish.allFinished = true := by
  have horderly := hs.run (rounds s.calls.length (maxSteps * s.calls.length))
  have hbound := s.stepsLeft_le
  show (s.run (rounds s.calls.length (maxSteps * s.calls.length))).allFinished = true
  rcases hs.run_rounds (maxSteps * s.calls.length) with hfinished | hsteps
  · exact hfinished
  · rcases horderly.allFinished_or with hfinished | ⟨_, _, _, _, hless⟩
    · exact hfinished
    · -- there is no step left that could be taken
      omega

end Finishing

/-! ## Threads -/

/-- The call at `i` is the one that thread `i` makes now: the thread takes the next step of it, or,
after it has finished, begins its next call. -/
inductive Move where
  | step (i : Nat)
  | again (i : Nat) (a : Ask)

/-- A move that cannot be made is passed over. -/
def move (s : Concurrent) : Move → Concurrent
  | .step i => s.advance i
  | .again i a => if (s.calls[i]?).any (fun c => c.phase.isFinished) then s.renew i a else s

def play (s : Concurrent) (moves : List Move) : Concurrent := moves.foldl move s

section Threads

variable {s : Concurrent} {i : Nat} {c d : Call} {a : Ask} {m : Move}

theorem play_append (s : Concurrent) (before after : List Move) :
    s.play (before ++ after) = (s.play before).play after :=
  List.foldl_append

theorem Orderly.move (hs : s.Orderly) (m : Move) : (s.move m).Orderly := by
  cases m with
  | step i => exact hs.run [i]
  | again i a =>
      simp only [Concurrent.move]
      split
      · next hidle =>
          rcases (Option.any_eq_true _ _).1 hidle with ⟨c, hc, hfinished⟩
          exact hs.renew hc hfinished a
      · exact hs

theorem Orderly.play (hs : s.Orderly) (moves : List Move) : (s.play moves).Orderly := by
  induction moves generalizing s with
  | nil => exact hs
  | cons m rest ih => exact ih (hs.move m)

/-- As long as a thread does not begin its next call, it is in the same call, and goes ahead in
it. -/
theorem exists_call_of_move (hm : ∀ a, m ≠ .again i a) (hd : (s.move m).calls[i]? = some d) :
    ∃ c, s.calls[i]? = some c ∧ c.key = d.key ∧ d.phase.remaining ≤ c.phase.remaining := by
  have hstayed (hsame : (s.move m).calls[i]? = s.calls[i]?) :
      ∃ c, s.calls[i]? = some c ∧ c.key = d.key ∧ d.phase.remaining ≤ c.phase.remaining :=
    ⟨d, hsame ▸ hd, rfl, Nat.le_refl _⟩
  cases m with
  | step j =>
      cases hstep : s.step? j with
      | none => exact hstayed (by simp [Concurrent.move, advance_of_none hstep])
      | some s' =>
          rcases exists_advance hstep with ⟨c, p, hc, hadvance⟩
          rw [Concurrent.move, advance_of_some hstep] at hd
          rcases hadvance.getElem?_cases hc hd with ⟨rfl, rfl⟩ | ⟨_, hsame⟩
          · exact ⟨c, hc, rfl, Nat.le_of_lt hadvance.remaining_lt⟩
          · exact ⟨d, hsame, rfl, Nat.le_refl _⟩
  | again j a =>
      have hj : j ≠ i := by
        rintro rfl
        exact hm a rfl
      refine hstayed ?_
      simp only [Concurrent.move]
      split
      · exact List.getElem?_set_ne hj
      · rfl

theorem exists_call_of_play (moves : List Move) :
    ∀ {s : Concurrent}, (∀ a, Move.again i a ∉ moves) →
      (s.play moves).calls[i]? = some d →
        ∃ c, s.calls[i]? = some c ∧ c.key = d.key ∧ d.phase.remaining ≤ c.phase.remaining := by
  induction moves with
  | nil =>
      intro s _ hd
      exact ⟨d, hd, rfl, Nat.le_refl _⟩
  | cons m rest ih =>
      intro s hmoves hd
      have hrest : ∀ a, Move.again i a ∉ rest := fun a ha => hmoves a (by simp [ha])
      have hfirst : ∀ a, m ≠ .again i a := by
        rintro a rfl
        exact hmoves a (by simp)
      rcases ih hrest hd with ⟨c', hc', hkey', hless'⟩
      rcases exists_call_of_move hfirst hc' with ⟨c, hc, hkey, hless⟩
      exact ⟨c, hc, hkey.trans hkey', Nat.le_trans hless' hless⟩

/-- However threads move, and whatever their calls find at their sources:

* a thread cannot go on with its call exactly when the call is about to take the lock of its own
  slot and another thread holds that lock, and who holds a lock is in a call for that very slot and
  can go on;
* a call that finds its slot filled when it looks at first returns what it finds by that very step,
  and has done no more before than open the slot;
* no thread holds two locks;
* as long as a call is unfinished some thread can take a step, and turns finish all calls. -/
theorem play_progress (cache : Cache) (asks : List Ask) (moves : List Move) :
    let s := (start cache asks).play moves
    (∀ (i : Nat) (c : Call), s.calls[i]? = some c → c.phase.isFinished = false →
        (s.step? i = none ↔ c.phase = .lock ∧ ∃ j, j ≠ i ∧ (c.key, j) ∈ s.locks)) ∧
      (∀ key j, (key, j) ∈ s.locks →
        ∃ c, s.calls[j]? = some c ∧ c.key = key ∧ c.phase.isInside = true ∧
          ∃ s', s.step? j = some s') ∧
      (∀ (i : Nat) (c : Call) (shared : SharedRules), s.calls[i]? = some c → c.phase = .look →
        s.cache.get? c.key = some shared →
        s.step? i = some (s.goTo i c (.finished (some shared))) ∧
          ∀ before rest, before ++ rest = moves → (∀ a, Move.again i a ∉ rest) →
            ∃ d, ((start cache asks).play before).calls[i]? = some d ∧ d.key = c.key ∧
              (d.phase = .openSlot ∨ d.phase = .look)) ∧
      (∀ key key' i, (key, i) ∈ s.locks → (key', i) ∈ s.locks → key = key') ∧
      ((∃ (i : Nat) (c : Call), s.calls[i]? = some c ∧ c.phase.isFinished = false) →
        ∃ j s', s.step? j = some s') ∧
      s.finish.allFinished = true := by
  intro s
  have hs : s.Orderly := (orderly_start cache asks).play moves
  refine ⟨?_, ?_, ?_, ?_, ?_, allFinished_finish hs⟩
  · intro i c hc hunfinished
    exact hs.waits_iff hc hunfinished
  · intro key j hlock
    exact hs.exists_holder hlock
  · intro i c shared hc hphase hget
    refine ⟨by simp [step?, hc, hphase, hget], ?_⟩
    rintro before rest rfl hsame
    have hplayed : (((start cache asks).play before).play rest).calls[i]? = some c := by
      rwa [← play_append]
    rcases exists_call_of_play rest hsame hplayed with ⟨d, hd, hkey, hless⟩
    exact ⟨d, hd, hkey, Phase.of_look_le (hphase ▸ hless)⟩
  · intro key key' i hlock hlock'
    rcases (hs.held key i).1 hlock with ⟨c, hc, hkey, _⟩
    exact hkey.symm.trans ((isInside_iff hc).1 ((hs.held key' i).1 hlock')).1
  · rintro ⟨i, c, hc, hunfinished⟩
    exact hs.exists_step? hc hunfinished

end Threads

end Concurrent

/-- While the first thread loads its document, the second one gets the rules of another. -/
example :
    let source : Source :=
      { holds := fun _ => true
        load := fun _ => .ok [(.leaf "label:a", .leaf "label:b")]
        canonicalId := fun id => id
        defaultId := none }
    let s := (Concurrent.start Cache.empty [⟨source, "slow"⟩, ⟨source, "fast"⟩]).play
      (([0, 0, 0, 0, 0] ++ List.replicate 9 1).map .step)
    (s.calls.map fun c => (c.phase.isInside, c.phase.isFinished)) = [(true, false), (false, true)] := by
  decide +kernel

end MailRules

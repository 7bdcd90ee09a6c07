import Mathlib.Data.List.Perm.Basic
import MailRules.Proofs.Loading
import MailRules.Proofs.Turns

/-!
# Linearization — calls at once are as good as one after the other

Calls for rules by identifier share a cache, and take their steps in the order of a schedule.  This
file defines:

* `Concurrent.settled`, the calls of a schedule in the order in which it is settled how they end;
* `Linearizes cache asks schedule order`, by which the same calls, made one after the other in a
  given order, have the same results, load the same documents as often and leave the same cache, and
  no call comes before one that had finished when it began;
* `Exclusive cache asks schedule`, which says how calls keep out of each other's way;

and proves `Concurrent.run_linearizable`: calls exclude each other after every schedule, and a
schedule after which all have finished is linearized by some order.
-/

namespace MailRules

namespace Concurrent

/-- A call is in a phase of some kind. -/
def IsIn (s : Concurrent) (i : Nat) (q : Phase → Bool) : Prop :=
  ∃ c, s.calls[i]? = some c ∧ q c.phase = true

theorem exists_result {s : Concurrent} (hfinished : s.allFinished = true) {i : Nat} {c : Call}
    (hc : s.calls[i]? = some c) : ∃ result, c.phase = .finished result :=
  Phase.exists_finished (List.all_eq_true.1 hfinished c (List.mem_of_getElem? hc))

/-! ## The order in which calls are settled -/

variable [PatternEngine]

def settles (s : Concurrent) (i : Nat) : Bool :=
  (s.outcome? i).isNone && ((s.advance i).outcome? i).isSome

theorem settles_eq_false {s : Concurrent} {i : Nat} (h : (s.advance i).outcome? i = s.outcome? i) :
    s.settles i = false := by
  rw [settles, h]
  cases s.outcome? i <;> rfl

/-- The calls that are settled by a schedule, the first first. -/
def settled (s : Concurrent) : List Nat → List Nat
  | [] => []
  | i :: rest => (if s.settles i then [i] else []) ++ (s.advance i).settled rest

theorem settled_append (before after : List Nat) : ∀ s : Concurrent,
    s.settled (before ++ after) = s.settled before ++ (s.run before).settled after := by
  induction before with
  | nil =>
      intro s
      rfl
  | cons i rest ih =>
      intro s
      rw [List.cons_append, settled, settled, ih, List.append_assoc, run_cons]

/-- What has happened so far, told as calls one after the other. -/
structure Linear (cache : Cache) (asks : List Ask) (s : Concurrent) (order : List Nat) : Prop where
  orderly : s.Orderly
  informed : s.Informed
  distinct : order.Nodup
  mem_iff : ∀ i, i ∈ order ↔ (s.outcome? i).isSome = true
  mirrors : Mirrors asks s (Turns.inOrder asks cache order)

section Linear

variable {cache : Cache} {asks : List Ask} {s : Concurrent} {order : List Nat}

theorem linear_start (cache : Cache) (asks : List Ask) :
    Linear cache asks (start cache asks) [] := by
  have houtcome (i : Nat) : (start cache asks).outcome? i = none := by
    unfold outcome?
    cases hc : (start cache asks).calls[i]? with
    | none => rfl
    | some c => rw [Option.bind_some, phase_of_start hc]; rfl
  have hcompiling (key : String) : (start cache asks).compiling key = 0 := by
    rw [compiling, List.countP_eq_zero]
    intro c hc
    rcases List.getElem?_of_mem hc with ⟨i, hi⟩
    simp [phase_of_start hi, Phase.isCompiling]
  refine ⟨orderly_start cache asks, informed_start cache asks, List.nodup_nil, ?_, ?_⟩
  · intro i
    rw [houtcome]
    simp
  refine ⟨serves_start cache asks, ?_, rfl, ?_, fun _ h => h, fun _ h => .inl h, ?_⟩
  · intro i
    rw [houtcome]
    rfl
  · intro key shared
    constructor
    · intro h
      exact .inl h
    · rintro (h | ⟨i, c, hc, _, hfill⟩)
      · exact h
      · rw [phase_of_start hc] at hfill
        cases hfill
  · intro key
    rw [hcompiling]
    rfl

theorem Linear.advance (h : Linear cache asks s order) (i : Nat) :
    Linear cache asks (s.advance i) (order ++ if s.settles i then [i] else []) := by
  cases hstep : s.step? i with
  | none =>
      -- a step that cannot be taken settles nothing
      have hsame := advance_of_none hstep
      rw [settles_eq_false (by rw [hsame]), hsame, if_neg Bool.false_ne_true, List.append_nil]
      exact h
  | some s' =>
      have hnext := advance_of_some hstep
      rcases exists_advance hstep with ⟨c, p, hc, hadvance⟩
      have horderly := h.orderly.advance hc hadvance
      have hinformed := h.informed.advance h.orderly hc hadvance
      have hbefore : s.outcome? i = c.phase.outcome? := outcome?_eq hc
      have hafter : s'.outcome? i = p.outcome? := hadvance.outcome?_self hc
      rcases h.mirrors.advance h.orderly h.informed hc hadvance with ⟨hp, hm⟩ | ⟨hnone, hsome, hm⟩
      · -- the call is as far as it was
        have hsame : s'.outcome? i = s.outcome? i := by rw [hafter, hbefore, hp]
        rw [settles_eq_false (by rw [hnext, hsame]), hnext, if_neg Bool.false_ne_true, List.append_nil]
        refine ⟨horderly, hinformed, h.distinct, ?_, hm⟩
        intro j
        rw [h.mem_iff]
        by_cases hj : j = i
        · rw [hj, hsame]
        · rw [hadvance.outcome?_of_ne hj]
      · -- the call is settled, and comes next in the order
        have hsettles : s.settles i = true := by simp [settles, hnext, hbefore, hafter, hnone, hsome]
        have hnew : i ∉ order := by
          rw [h.mem_iff, hbefore, hnone]
          exact Bool.false_ne_true
        rw [hsettles, if_pos rfl, hnext]
        refine ⟨horderly, hinformed, ?_, ?_, ?_⟩
        · rw [List.nodup_append_comm, List.singleton_append, List.nodup_cons]
          exact ⟨hnew, h.distinct⟩
        · intro j
          rw [List.mem_append, List.mem_singleton, h.mem_iff]
          by_cases hj : j = i
          · simp [hj, hafter, hsome]
          · simp [hadvance.outcome?_of_ne hj, hj]
        · rw [Turns.inOrder_snoc]
          exact hm

theorem Linear.run (schedule : List Nat) : ∀ {s : Concurrent} {order : List Nat},
    Linear cache asks s order → Linear cache asks (s.run schedule) (order ++ s.settled schedule) := by
  induction schedule with
  | nil =>
      intro s order h
      rw [settled, List.append_nil]
      exact h
  | cons i rest ih =>
      intro s order h
      have hrest := ih (h.advance i)
      rw [List.append_assoc] at hrest
      exact hrest

theorem linear_run (cache : Cache) (asks : List Ask) (schedule : List Nat) :
    Linear cache asks ((start cache asks).run schedule) ((start cache asks).settled schedule) :=
  (linear_start cache asks).run schedule

theorem Linear.mem_of_isFinished (h : Linear cache asks s order) {i : Nat}
    (hi : s.IsIn i Phase.isFinished) : i ∈ order := by
  rcases hi with ⟨c, hc, hfinished⟩
  rcases Phase.exists_finished hfinished with ⟨result, hresult⟩
  rw [h.mem_iff, outcome?_eq hc, hresult]
  rfl

theorem Linear.not_mem_of_not_isBegun (h : Linear cache asks s order) {i : Nat}
    (hi : s.IsIn i fun p => !p.isBegun) : i ∉ order := by
  rcases hi with ⟨c, hc, hbegun⟩
  have hphase : c.phase = .openSlot := Phase.eq_openSlot (by simpa using hbegun)
  rw [h.mem_iff, outcome?_eq hc, hphase]
  exact Bool.false_ne_true

/-! ## When all have finished -/

theorem Linear.mem_iff_lt (h : Linear cache asks s order) (hfinished : s.allFinished = true)
    (i : Nat) : i ∈ order ↔ i < asks.length := by
  rw [h.mem_iff, ← h.mirrors.serves.length_eq]
  constructor
  · intro hsome
    by_contra hlt
    rw [outcome?, List.getElem?_eq_none (Nat.le_of_not_lt hlt)] at hsome
    cases hsome
  · intro hlt
    have hc := List.getElem?_eq_getElem hlt
    rcases exists_result hfinished hc with ⟨result, hresult⟩
    rw [outcome?_eq hc, hresult]
    rfl

theorem Linear.results_eq (h : Linear cache asks s order) (hfinished : s.allFinished = true)
    (i : Nat) : s.results[i]? = (Turns.inOrder asks cache order).outcome? i := by
  rw [h.mirrors.outcomes, outcome?, results, List.getElem?_map]
  cases hc : s.calls[i]? with
  | none => rfl
  | some c =>
      rcases exists_result hfinished hc with ⟨result, hresult⟩
      simp [result?, hresult, Phase.outcome?]

theorem Linear.loadsOf_eq (h : Linear cache asks s order) (hfinished : s.allFinished = true)
    (key : String) : s.loadsOf key = (Turns.inOrder asks cache order).loadsOf key := by
  have hcompiling : s.compiling key = 0 := by
    rw [compiling, List.countP_eq_zero]
    intro c hc
    rcases List.getElem?_of_mem hc with ⟨i, hi⟩
    rcases exists_result hfinished hi with ⟨result, hresult⟩
    simp [hresult, Phase.isCompiling]
  rw [h.mirrors.loads, hcompiling, Nat.add_zero]

theorem Linear.get?_eq (h : Linear cache asks s order) (hfinished : s.allFinished = true)
    (key : String) : s.cache.get? key = (Turns.inOrder asks cache order).cache.get? key := by
  have hfill (shared : SharedRules) : ¬ s.Has fun c => c.key = key ∧ c.phase = .fill shared := by
    rintro ⟨i, c, hc, _, hfill⟩
    rcases exists_result hfinished hc with ⟨result, hresult⟩
    rw [hresult] at hfill
    cases hfill
  refine Option.ext fun shared => ?_
  rw [h.mirrors.held, Promises, or_iff_left (hfill shared)]

theorem Linear.mem_keys_iff (h : Linear cache asks s order) (hfinished : s.allFinished = true)
    (key : String) : key ∈ s.cache.keys ↔ key ∈ (Turns.inOrder asks cache order).cache.keys := by
  constructor
  · intro hkey
    rcases h.mirrors.opened key hkey with hkey | ⟨i, c, hc, _, _, houtcome⟩
    · exact hkey
    · -- no call is under way any more
      rcases exists_result hfinished hc with ⟨result, hresult⟩
      rw [hresult] at houtcome
      cases houtcome
  · exact h.mirrors.keys key

end Linear
end Concurrent

/-! ## Linearizations -/

open Concurrent

/-- Calls made in the order of a schedule, step by step, and in a given order, one by one. -/
structure Linearizes [PatternEngine] (cache : Cache) (asks : List Ask) (schedule order : List Nat) :
    Prop where
  all : order.Perm (List.range asks.length)
  /-- A call that had finished when another one began comes before it. -/
  inTime : ∀ before after, before ++ after = schedule → ∀ i j,
    ((start cache asks).run before).IsIn i Phase.isFinished →
      ((start cache asks).run before).IsIn j (fun p => !p.isBegun) → [i, j].Sublist order
  results : ∀ i, ((start cache asks).run schedule).results[i]? =
    (Turns.inOrder asks cache order).outcome? i
  loads : ∀ key, ((start cache asks).run schedule).loadsOf key =
    (Turns.inOrder asks cache order).loadsOf key
  slots : ((start cache asks).run schedule).cache.slots.Perm
    (Turns.inOrder asks cache order).cache.slots
  made : ((start cache asks).run schedule).cache.made = (Turns.inOrder asks cache order).cache.made

/-- How calls keep out of each other's way, when they have come as far as a schedule says. -/
structure Exclusive [PatternEngine] (cache : Cache) (asks : List Ask) (schedule : List Nat) :
    Prop where
  /-- Calls load documents while they are inside, so that no two loads of one document overlap. -/
  alone : ∀ key i j, ((start cache asks).run schedule).IsInside key i →
    ((start cache asks).run schedule).IsInside key j → i = j
  once : ∀ key, ((start cache asks).run schedule).usefulLoads asks key ≤ 1
  /-- A slot is filled while it is empty, and nothing is put into its place later. -/
  empty : ∀ (i : Nat) (c : Call) (shared : SharedRules),
    ((start cache asks).run schedule).calls[i]? = some c → c.phase = .fill shared →
      ((start cache asks).run schedule).cache.get? c.key = none
  stays : ∀ before after, before ++ after = schedule → ∀ key shared,
    ((start cache asks).run before).cache.get? key = some shared →
      ((start cache asks).run schedule).cache.get? key = some shared
  same : ∀ (i j : Nat) (c d : Call) (shared shared' : SharedRules),
    ((start cache asks).run schedule).calls[i]? = some c →
      ((start cache asks).run schedule).calls[j]? = some d → c.key = d.key →
        c.phase = .finished (some shared) → d.phase = .finished (some shared') → shared = shared'

namespace Concurrent

section Schedules

variable [PatternEngine]

theorem run_exclusive (cache : Cache) (asks : List Ask) (schedule : List Nat) :
    Exclusive cache asks schedule := by
  have horderly := orderly_run cache asks schedule
  have hinformed := informed_run cache asks schedule
  refine ⟨?_, (frugal_run cache asks schedule).once, ?_, ?_, ?_⟩
  · intro key i j hi hj
    exact horderly.eq_of_isInside hi hj
  · intro i c shared hc hphase
    have hknows := hinformed.knows i c hc
    simp only [Call.Knows, hphase] at hknows
    exact hknows.1
  · rintro before after rfl key shared hget
    rw [run_append]
    exact get?_run_of_eq_some (orderly_run cache asks before) (informed_run cache asks before)
      hget after
  · intro i j c d shared shared' hc hd hkey hphase hphase'
    have hknows := hinformed.knows i c hc
    have hknows' := hinformed.knows j d hd
    simp only [Call.Knows, hphase] at hknows
    simp only [Call.Knows, hphase'] at hknows'
    have hget := hknows shared rfl
    rw [hkey, hknows' shared' rfl] at hget
    exact (Option.some.inj hget).symm

theorem settled_linearizes {cache : Cache} {asks : List Ask} {schedule : List Nat}
    (hfinished : ((start cache asks).run schedule).allFinished = true) :
    Linearizes cache asks schedule ((start cache asks).settled schedule) := by
  have hlinear := linear_run cache asks schedule
  refine ⟨?_, ?_, hlinear.results_eq hfinished, hlinear.loadsOf_eq hfinished, ?_,
    hlinear.mirrors.made.symm⟩
  · refine (List.perm_ext_iff_of_nodup hlinear.distinct List.nodup_range).2 ?_
    intro i
    rw [hlinear.mem_iff_lt hfinished, List.mem_range]
  · rintro before after rfl i j hi hj
    have hbefore := linear_run cache asks before
    have hfirst := hbefore.mem_of_isFinished hi
    have hnot := hbefore.not_mem_of_not_isBegun hj
    have hall : j ∈ (start cache asks).settled (before ++ after) := by
      rcases hj with ⟨c, hc, _⟩
      rw [hlinear.mem_iff_lt hfinished, ← hbefore.mirrors.serves.length_eq]
      exact (List.getElem?_eq_some_iff.1 hc).1
    -- the calls that are settled later come later in the order
    rw [settled_append] at hall ⊢
    have hlater := (List.mem_append.1 hall).resolve_left hnot
    exact (List.singleton_sublist.2 hfirst).append (List.singleton_sublist.2 hlater)
  · exact Cache.slots_perm (hlinear.mem_keys_iff hfinished) (hlinear.get?_eq hfinished)

/-- Calls for rules by identifier exclude each other whatever the schedule, and once all have
finished, they have done what they would have done one after the other in some order. -/
theorem run_linearizable (cache : Cache) (asks : List Ask) (schedule : List Nat) :
    Exclusive cache asks schedule ∧
      (((start cache asks).run schedule).allFinished = true →
        ∃ order, Linearizes cache asks schedule order) :=
  ⟨run_exclusive cache asks schedule, fun hfinished => ⟨_, settled_linearizes hfinished⟩⟩

end Schedules

/-- Two calls for one document; the second one waits for the lock while the first one loads. -/
theorem run_linearizable_two : ∃ order, Linearizes Cache.empty
    (List.replicate 2
      { source :=
          { holds := fun _ => true
            load := fun _ => .ok [(.leaf "label:a", .leaf "label:b")]
            canonicalId := fun id => id
            defaultId := none }
        id := "rules" })
    [0, 1, 0, 1, 0, 1, 0, 0, 0, 0, 0, 0, 1, 1, 1] order :=
  (run_linearizable _ _ _).2 (by decide +kernel)

end Concurrent
end MailRules

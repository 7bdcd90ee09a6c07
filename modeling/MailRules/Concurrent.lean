import MailRules.Loader

/-!
# Concurrent — many calls at once

Calls that ask for rules by identifier share one cache and take their steps in any order.  Each slot
of the cache has a lock.  A call that finds the slot empty waits for the lock, looks again, and
holds the lock until it has filled the slot or failed, so that no two calls load the document of one
slot at the same time; a call that finds the slot filled needs no lock.

* `Concurrent.step?` is one step of one call, which is missing while the call has to wait and after
  it has finished;
* `Concurrent.run` takes steps in the order of a schedule;
* `Concurrent.finish` takes turns until all calls have finished.
-/

namespace MailRules

/-- What a call does next. -/
inductive Phase where
  | openSlot
  | look
  | lock
  | lookAgain
  | ask
  | load
  | compile (entries : List Entry)
  | fill (shared : SharedRules)
  | unlock (result : Option SharedRules)
  | finished (result : Option SharedRules)

/-- A call for the document of a canonical identifier. -/
structure Call where
  source : Source
  key : String
  phase : Phase := .openSlot

structure Concurrent where
  cache : Cache
  /-- The locked identifiers, each with the call that holds the lock. -/
  locks : List (String × Nat) := []
  calls : List Call
  /-- Which calls loaded which documents, the last first. -/
  loads : List (Nat × String) := []

namespace Concurrent

variable [PatternEngine]

def isLocked (s : Concurrent) (key : String) : Bool := s.locks.any fun l => l.1 == key

def goTo (s : Concurrent) (i : Nat) (c : Call) (p : Phase) : Concurrent :=
  { s with calls := s.calls.set i { c with phase := p } }

/-- The next step of one call. -/
def step? (s : Concurrent) (i : Nat) : Option Concurrent :=
  match s.calls[i]? with
  | none => none
  | some c =>
      match c.phase with
      | .openSlot => some { s.goTo i c .look with cache := s.cache.openSlot c.key }
      | .look =>
          match s.cache.get? c.key with
          | some shared => some (s.goTo i c (.finished (some shared)))
          | none => some (s.goTo i c .lock)
      | .lock =>
          if s.isLocked c.key then none
          else some { s.goTo i c .lookAgain with locks := (c.key, i) :: s.locks }
      | .lookAgain =>
          match s.cache.get? c.key with
          | some shared => some (s.goTo i c (.unlock (some shared)))
          | none => some (s.goTo i c .ask)
      | .ask => some (s.goTo i c (if c.source.holds c.key then .load else .unlock none))
      | .load =>
          let s := { s with loads := (i, c.key) :: s.loads }
          match c.source.load c.key with
          | .ok entries => some (s.goTo i c (.compile entries))
          | .error _ => some (s.goTo i c (.unlock none))
      | .compile entries =>
          match (Loader.usable entries).1 with
          | none => some (s.goTo i c (.unlock none))
          | some rules =>
              let (shared, cache) := s.cache.stamped rules
              some { s.goTo i c (.fill shared) with cache }
      | .fill shared =>
          let cache := s.cache.fill c.key shared
          some { s.goTo i c (.unlock (cache.get? c.key)) with cache }
      | .unlock result =>
          some { s.goTo i c (.finished result) with locks := s.locks.filter fun l => l.2 != i }
      | .finished _ => none

/-- Takes steps in the given order; one that cannot be taken is passed over. -/
def run (s : Concurrent) (schedule : List Nat) : Concurrent :=
  schedule.foldl (fun s i => (s.step? i).getD s) s

def result? (c : Call) : Option SharedRules :=
  match c.phase with
  | .finished r => r
  | _ => none

def results (s : Concurrent) : List (Option SharedRules) := s.calls.map result?

/-- How many steps a call takes at most. -/
def maxSteps : Nat := 9

/-- Gives every call its turn until all have finished; in as many rounds one call at least finishes
as it has steps. -/
def finish (s : Concurrent) : Concurrent :=
  s.run ((List.range (maxSteps * s.calls.length)).flatMap fun _ => List.range s.calls.length)

/-- So many calls at once for one identifier. -/
def named (s : Source) (cache : Cache) (id : String) (count : Nat) : Concurrent :=
  finish { cache, calls := List.replicate count { source := s, key := s.canonicalId id } }

end Concurrent

namespace Loader

variable [PatternEngine]

/-- Asks so many times at once: the results, the cache after them, and the number of loads. -/
def resolveTogether (s : Source) (cache : Cache) (source : RuleSource) (count : Nat) :
    List (Option SharedRules) × Cache × Nat :=
  let together (id : String) :=
    let c := Concurrent.named s cache id count
    (c.results, c.cache, c.loads.length)
  match source, s.defaultId with
  | .named id, _ => together id
  | .standard, some id => together id
  | .standard, none => (List.replicate count none, cache, 0)
  | .inline entries, _ =>
      let r := (List.range count).foldl (fun (acc : List (Option SharedRules) × Cache) _ =>
        let r := resolveInline acc.2 entries
        (r.rules :: acc.1, r.cache)) ([], cache)
      (r.1.reverse, r.2, 0)

end Loader
end MailRules

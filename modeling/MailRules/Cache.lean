import MailRules.Rule

/-!
# Cache — rule sets by the identifiers of their documents

A cache has a slot for every identifier that was ever looked up.  A slot is empty until the document
yields rules, and keeps them from then on.  Empty slots cannot be seen from outside.

* `Cache.get?` is the view: what a cache holds for each identifier;
* `Cache.openSlot` and `Cache.fill` are the two changes.
-/

namespace MailRules

/-- A rule set with a number of its own, which tells it from an equal one that was made another
time. -/
structure SharedRules where
  stamp : Nat
  rules : RuleSet
  deriving Repr

structure Cache where
  slots : List (String × Option SharedRules) := []
  distinct : (slots.map Prod.fst).Nodup := by simp
  /-- How many rule sets were made. -/
  made : Nat := 0

namespace Cache

def empty : Cache := {}

instance : Inhabited Cache := ⟨empty⟩

/-! ## Looking -/

def find? (key : String) : List (String × Option SharedRules) → Option (Option SharedRules)
  | [] => none
  | (k, v) :: rest => if k = key then some v else find? key rest

def get? (c : Cache) (key : String) : Option SharedRules := (find? key c.slots).join

def contains (c : Cache) (key : String) : Bool := (c.get? key).isSome

def filled (c : Cache) : List (String × Option SharedRules) := c.slots.filter fun s => s.2.isSome

/-- The identifiers that something is held for, in ascending order. -/
def ids (c : Cache) : List String := (StringSet.ofList (c.filled.map Prod.fst)).toList

def size (c : Cache) : Nat := c.filled.length

def isEmpty (c : Cache) : Bool := c.size == 0

/-! ## Changing -/

/-- Gives a new rule set its number. -/
def stamped (c : Cache) (rules : RuleSet) : SharedRules × Cache :=
  (⟨c.made, rules⟩, { c with made := c.made + 1 })

def openIn (key : String) : List (String × Option SharedRules) → List (String × Option SharedRules)
  | [] => [(key, none)]
  | (k, v) :: rest => if k = key then (k, v) :: rest else (k, v) :: openIn key rest

theorem mem_keys_openIn {key k : String} {slots : List (String × Option SharedRules)} :
    k ∈ (openIn key slots).map Prod.fst ↔ k = key ∨ k ∈ slots.map Prod.fst := by
  induction slots with
  | nil => simp [openIn]
  | cons s rest ih =>
      simp only [openIn]
      split
      · next h => subst h; simp
      · simp only [List.map_cons, List.mem_cons, ih]
        grind

theorem nodup_openIn {key : String} {slots : List (String × Option SharedRules)}
    (h : (slots.map Prod.fst).Nodup) : ((openIn key slots).map Prod.fst).Nodup := by
  induction slots with
  | nil => simp [openIn]
  | cons s rest ih =>
      rw [List.map_cons, List.nodup_cons] at h
      simp only [openIn]
      split
      · exact List.nodup_cons.2 h
      · next hne =>
          refine List.nodup_cons.2 ⟨?_, ih h.2⟩
          intro hm
          rcases mem_keys_openIn.1 hm with heq | hm
          · exact hne heq
          · exact h.1 hm

/-- Makes an empty slot, unless there is one. -/
def openSlot (c : Cache) (key : String) : Cache :=
  { c with slots := openIn key c.slots, distinct := nodup_openIn c.distinct }

def fillIn (key : String) (r : SharedRules) (s : String × Option SharedRules) :
    String × Option SharedRules :=
  if s.1 = key ∧ s.2.isNone then (s.1, some r) else s

theorem map_fst_fillIn {key : String} {r : SharedRules}
    {slots : List (String × Option SharedRules)} :
    (slots.map (fillIn key r)).map Prod.fst = slots.map Prod.fst := by
  rw [List.map_map]
  refine List.map_congr_left fun s _ => ?_
  simp only [Function.comp_apply, fillIn]
  split <;> rfl

/-- Puts rules into an empty slot; a slot that is not empty keeps what it has. -/
def fill (c : Cache) (key : String) (r : SharedRules) : Cache :=
  { c with
    slots := c.slots.map (fillIn key r)
    distinct := by rw [map_fst_fillIn]; exact c.distinct }

end Cache
end MailRules

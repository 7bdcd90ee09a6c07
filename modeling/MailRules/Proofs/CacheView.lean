import Mathlib.Data.List.Nodup
import MailRules.Cache

/-!
# CacheView — a cache seen from outside

`Cache.get?` tells what a cache holds for an identifier.  This file works out each operation on that
view, so that nothing later has to look at slots:

* `Cache.get?_openSlot`, `Cache.get?_stamped` and `Cache.get?_fill`, the three changes;
* `Cache.mem_ids`, `Cache.pairwise_ids`, `Cache.size_eq_length_ids` and `Cache.isEmpty_iff`, the
  ways of looking at a cache as a whole;
* `Cache.slots_perm`, by which caches with a slot for the same identifiers and the same view have
  the same slots, in one order or another.
-/

namespace MailRules
namespace Cache

/-- The identifiers that have a slot, filled or not. -/
def keys (c : Cache) : List String := c.slots.map Prod.fst

/-! ## Slots -/

section Slots

variable {key k : String} {slots : List (String × Option SharedRules)}

theorem find?_isSome_iff : (find? k slots).isSome = true ↔ k ∈ slots.map Prod.fst := by
  induction slots with
  | nil => simp [find?]
  | cons s slots ih =>
      rcases s with ⟨k', v⟩
      by_cases h : k' = k
      · simp [find?, h]
      · simp [find?, h, ih, Ne.symm h]

theorem find?_eq_none (h : k ∉ slots.map Prod.fst) : find? k slots = none := by
  rw [← find?_isSome_iff] at h
  simpa using h

theorem find?_openIn_self : find? key (openIn key slots) = some ((find? key slots).join) := by
  induction slots with
  | nil => simp [openIn, find?]
  | cons s slots ih =>
      rcases s with ⟨k', v⟩
      by_cases h : k' = key
      · simp [openIn, find?, h]
      · simp [openIn, find?, h, ih]

theorem find?_openIn_of_ne (h : k ≠ key) : find? k (openIn key slots) = find? k slots := by
  induction slots with
  | nil => simp [openIn, find?, Ne.symm h]
  | cons s slots ih =>
      rcases s with ⟨k', v⟩
      by_cases h' : k' = key
      · simp [openIn, h']
      · simp [openIn, find?, h', ih]

theorem find?_map_fillIn (r : SharedRules) : find? k (slots.map (fillIn key r)) =
    (find? k slots).map fun v => if k = key ∧ v.isNone then some r else v := by
  induction slots with
  | nil => rfl
  | cons s slots ih =>
      rcases s with ⟨k', v⟩
      -- filling a slot does not move it, so that the search goes the same way
      have hkey : (fillIn key r (k', v)).1 = k' := by
        simp only [fillIn]
        split <;> rfl
      simp only [List.map_cons, find?, hkey, ih]
      by_cases h : k' = k
      · subst h
        rw [if_pos rfl, if_pos rfl, Option.map_some]
        simp only [fillIn]
        split <;> rfl
      · simp [h]

/-- A slot is found under its identifier, since no other slot has the same one. -/
theorem mem_slots_iff (hnodup : (slots.map Prod.fst).Nodup) {v : Option SharedRules} :
    (k, v) ∈ slots ↔ find? k slots = some v := by
  induction slots with
  | nil => simp [find?]
  | cons s slots ih =>
      rcases s with ⟨k', v'⟩
      rw [List.map_cons, List.nodup_cons] at hnodup
      rw [List.mem_cons, ih hnodup.2]
      by_cases h : k' = k
      · subst h
        -- no later slot has this identifier, and a pair with it is this one
        have habsent : find? k' slots = none := find?_eq_none hnodup.1
        simp [find?, habsent, eq_comm]
      · simp [find?, h, Ne.symm h]

end Slots

/-! ## Changes -/

variable (c : Cache) (key k : String) (r : SharedRules)

@[simp] theorem get?_openSlot : (c.openSlot key).get? k = c.get? k := by
  by_cases h : k = key
  · subst h
    simp [get?, openSlot, find?_openIn_self]
  · simp [get?, openSlot, find?_openIn_of_ne h]

theorem mem_keys_openSlot : k ∈ (c.openSlot key).keys ↔ k = key ∨ k ∈ c.keys :=
  mem_keys_openIn

@[simp] theorem get?_stamped (rules : RuleSet) : (c.stamped rules).2.get? k = c.get? k := rfl

@[simp] theorem keys_stamped (rules : RuleSet) : (c.stamped rules).2.keys = c.keys := rfl

@[simp] theorem keys_fill : (c.fill key r).keys = c.keys := map_fst_fillIn

theorem get?_fill_of_ne {k : String} (h : k ≠ key) : (c.fill key r).get? k = c.get? k := by
  simp [get?, fill, find?_map_fillIn, h]

theorem get?_fill_self {key : String} (hkey : key ∈ c.keys) (hempty : c.get? key = none) :
    (c.fill key r).get? key = some r := by
  -- there is a slot, and it can only be an empty one
  obtain ⟨v, hv⟩ := Option.isSome_iff_exists.1 (find?_isSome_iff.2 hkey)
  have hnone : v = none := by
    simpa [get?, hv] using hempty
  simp [get?, fill, find?_map_fillIn, hv, hnone]

/-! ## Looking at a cache as a whole -/

theorem mem_filled_iff {key : String} :
    key ∈ c.filled.map Prod.fst ↔ (c.get? key).isSome = true := by
  simp only [filled, List.mem_map, List.mem_filter]
  constructor
  · rintro ⟨⟨k, v⟩, ⟨hmem, hv⟩, rfl⟩
    rw [mem_slots_iff c.distinct] at hmem
    simpa [get?, hmem] using hv
  · intro h
    obtain ⟨r, hr⟩ := Option.isSome_iff_exists.1 h
    refine ⟨(key, some r), ⟨?_, rfl⟩, rfl⟩
    rw [mem_slots_iff c.distinct]
    simpa [get?, Option.join_eq_some_iff] using hr

theorem mem_ids {key : String} : key ∈ c.ids ↔ (c.get? key).isSome = true :=
  StringSet.mem_ofList.trans c.mem_filled_iff

theorem pairwise_ids : c.ids.Pairwise (· < ·) :=
  (StringSet.ofList (c.filled.map Prod.fst)).ascending

theorem size_eq_length_ids : c.size = c.ids.length := by
  have hfilled : (c.filled.map Prod.fst).Nodup :=
    c.distinct.sublist (List.Sublist.map _ List.filter_sublist)
  have hids : c.ids.Nodup := c.pairwise_ids.imp fun h => String.ne_of_lt h
  -- sorting neither adds nor drops an identifier, as none occurs twice
  have hperm : (c.filled.map Prod.fst).Perm c.ids :=
    (List.perm_ext_iff_of_nodup hfilled hids).2 fun key => c.mem_filled_iff.trans c.mem_ids.symm
  rw [← hperm.length_eq, List.length_map, size]

theorem isEmpty_iff : c.isEmpty = true ↔ ∀ key, c.get? key = none := by
  have hids : c.isEmpty = true ↔ c.ids = [] := by
    simp [isEmpty, size_eq_length_ids]
  rw [hids, List.eq_nil_iff_forall_not_mem]
  simp [mem_ids]

/-! ## The same slots -/

/-- Slots are known by their identifiers, so that their order carries nothing. -/
theorem slots_perm {c d : Cache} (hkeys : ∀ key, key ∈ c.keys ↔ key ∈ d.keys)
    (hget : ∀ key, c.get? key = d.get? key) : c.slots.Perm d.slots := by
  have hc : c.slots.Nodup := List.Nodup.of_map _ c.distinct
  have hd : d.slots.Nodup := List.Nodup.of_map _ d.distinct
  -- an empty slot and a missing one look the same from outside, but the identifiers tell them apart
  have hfind (key : String) : find? key c.slots = find? key d.slots := by
    have hsome : (find? key c.slots).isSome = (find? key d.slots).isSome := by
      rw [Bool.eq_iff_iff, find?_isSome_iff, find?_isSome_iff]
      exact hkeys key
    have hjoin : (find? key c.slots).join = (find? key d.slots).join := hget key
    cases h : find? key c.slots <;> cases h' : find? key d.slots <;> simp_all
  refine (List.perm_ext_iff_of_nodup hc hd).2 ?_
  rintro ⟨key, v⟩
  rw [mem_slots_iff c.distinct, mem_slots_iff d.distinct, hfind key]

end Cache
end MailRules

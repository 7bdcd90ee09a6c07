/-!
# StringSet — sets of texts in order

A set is kept as its members in ascending order of code points, each once, so that two sets with the
same members are the same value.
-/

namespace MailRules

structure StringSet where
  toList : List String
  ascending : toList.Pairwise (· < ·) := by simp
  deriving DecidableEq, Repr

namespace StringSet

def empty : StringSet := ⟨[], .nil⟩

instance : Inhabited StringSet := ⟨empty⟩

instance : Membership String StringSet := ⟨fun s l => l ∈ s.toList⟩

instance (l : String) (s : StringSet) : Decidable (l ∈ s) :=
  inferInstanceAs (Decidable (l ∈ s.toList))

/-! ## Insertion -/

def insertInto (l : String) : List String → List String
  | [] => [l]
  | x :: xs =>
      if l < x then l :: x :: xs
      else if l = x then x :: xs
      else x :: insertInto l xs

theorem mem_insertInto {l m : String} {xs : List String} :
    m ∈ insertInto l xs ↔ m = l ∨ m ∈ xs := by
  induction xs with
  | nil => simp [insertInto]
  | cons x xs ih =>
      simp only [insertInto]
      split
      · simp
      · split
        · next h => subst h; simp
        · simp only [List.mem_cons, ih]
          grind

theorem pairwise_insertInto {l : String} {xs : List String} (h : xs.Pairwise (· < ·)) :
    (insertInto l xs).Pairwise (· < ·) := by
  induction xs with
  | nil => simp [insertInto]
  | cons x xs ih =>
      rw [List.pairwise_cons] at h
      simp only [insertInto]
      split
      · next hl =>
          refine List.pairwise_cons.2 ⟨?_, List.pairwise_cons.2 h⟩
          intro y hy
          rcases List.mem_cons.1 hy with rfl | hy
          · exact hl
          · exact String.lt_trans hl (h.1 y hy)
      · split
        · exact List.pairwise_cons.2 h
        · next hl hne =>
            refine List.pairwise_cons.2 ⟨?_, ih h.2⟩
            intro y hy
            rcases mem_insertInto.1 hy with rfl | hy
            · exact Std.lt_of_le_of_ne (String.not_lt.1 hl) (Ne.symm hne)
            · exact h.1 y hy

def insert (s : StringSet) (l : String) : StringSet :=
  ⟨insertInto l s.toList, pairwise_insertInto s.ascending⟩

theorem mem_insert {s : StringSet} {l m : String} : m ∈ s.insert l ↔ m = l ∨ m ∈ s :=
  mem_insertInto

/-! ## Removal -/

def erase (s : StringSet) (l : String) : StringSet :=
  ⟨s.toList.filter (· != l), s.ascending.filter _⟩

theorem mem_erase {s : StringSet} {l m : String} : m ∈ s.erase l ↔ m ∈ s ∧ m ≠ l := by
  show m ∈ s.toList.filter (· != l) ↔ _
  simp [List.mem_filter]
  exact fun _ => Iff.rfl

theorem not_mem_empty {m : String} : m ∉ empty := by
  show m ∉ ([] : List String)
  simp

/-! ## From a list -/

def ofList (ls : List String) : StringSet := ls.foldl insert empty

theorem mem_foldl_insert {ls : List String} : ∀ {s : StringSet} {m : String},
    m ∈ ls.foldl insert s ↔ m ∈ ls ∨ m ∈ s := by
  induction ls with
  | nil =>
      intro s m
      simp
  | cons l ls ih =>
      intro s m
      rw [List.foldl_cons, ih, mem_insert, List.mem_cons]
      grind

theorem mem_ofList {ls : List String} {m : String} : m ∈ ofList ls ↔ m ∈ ls := by
  unfold ofList
  rw [mem_foldl_insert]
  exact or_iff_left not_mem_empty

end StringSet
end MailRules

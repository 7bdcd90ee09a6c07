import MailRules.Files.Tree
import MailRules.Proofs.Paths

/-!
# Walking — where paths lead

Following a path through directories and links ends at a place that could have been reached through
directories alone.  This file defines `FileTree.Stands`, what is reached in that way, and proves:

* `FileTree.stands_of_walk`, by which every walk ends at such a place, however many links it
  followed;
* `FileTree.Stands.walk_text`, by which the path of such a place leads there;
* `FileTree.walk_of_realPath?`, by which a path and its real path lead to the same place.

Names and paths that are too long are left out by the walk itself, so that no size is bounded here.
-/

namespace MailRules
namespace FileTree

open MailRules.Path (Step IsName Proper)

/-! ## Places reached through directories alone -/

/-- What stands at a place, if all places on the way to it hold directories and it holds no link. -/
inductive Stands (t : FileTree) : List String → FileNode → Prop where
  | root : Stands t [] .directory
  | entry {place : List String} {n : String} {node : FileNode} (hplace : Stands t place .directory)
      (hname : IsName n) (hshort : ¬ maxNameBytes < n.utf8ByteSize)
      (hnode : t.node? (place ++ [n]) = some node) (hlink : ∀ target, node ≠ .link target) :
      Stands t (place ++ [n]) node

namespace Stands

variable {t : FileTree} {place : List String} {node : FileNode}

theorem isName (h : t.Stands place node) : ∀ n ∈ place, IsName n := by
  induction h with
  | root => simp
  | entry _ hname _ _ _ ih =>
      intro n hn
      rcases List.mem_append.1 hn with hn | hn
      · exact ih n hn
      · obtain rfl := List.mem_singleton.1 hn
        exact hname

theorem node?_eq (h : t.Stands place node) : t.node? place = some node := by
  cases h with
  | root => rfl
  | entry _ _ _ hnode _ => exact hnode

theorem ne_link (h : t.Stands place node) (target : String) : node ≠ .link target := by
  cases h with
  | root => simp
  | entry _ _ _ _ hlink => exact hlink target

theorem dropLast (h : t.Stands place .directory) : t.Stands place.dropLast .directory := by
  cases h with
  | root => exact .root
  | entry hplace _ _ _ _ => simpa using hplace

/-- The target of a link is seen from the root or from the directory that the link is in. -/
theorem linkBase (h : t.Stands place .directory) (target : String) :
    t.Stands (FileTree.linkBase place target) .directory := by
  unfold FileTree.linkBase
  split
  · exact .root
  · exact h

/-- The names on the way to a place lead there, and further steps go on from it. -/
theorem walkFrom_names (h : t.Stands place node)
    (onLink : List String → List Step → Except FileError (List String × FileNode)) :
    ∀ rest : List Step, walkFrom onLink t [] .directory (place.map .name ++ rest) =
      walkFrom onLink t place node rest := by
  induction h with
  | root =>
      intro rest
      rfl
  | @entry place n node hplace hname hshort hnode hlink ih =>
      intro rest
      have hbefore := ih (.name n :: rest)
      have hlast : walkFrom onLink t place .directory (.name n :: rest) =
          walkFrom onLink t (place ++ [n]) node rest := by
        simp only [walkFrom, if_neg hshort, hnode]
      rw [List.map_append, List.append_assoc]
      exact hbefore.trans hlast

theorem walkFrom_text (h : t.Stands place node)
    (onLink : List String → List Step → Except FileError (List String × FileNode)) :
    walkFrom onLink t [] .directory (Path.steps (Path.text place)) = .ok (place, node) := by
  have hnames := h.walkFrom_names onLink []
  by_cases hne : place = []
  · -- the path of the root has nothing between its slashes
    subst hne
    rw [Path.steps_text_nil]
    simpa [walkFrom] using hnames
  · rw [Path.steps_text hne h.isName]
    simpa [walkFrom] using hnames

theorem walkLinks_text (h : t.Stands place node) (links : Nat) :
    walkLinks t links [] (Path.steps (Path.text place)) = .ok (place, node) := by
  cases links with
  | zero => exact h.walkFrom_text _
  | succ links => exact h.walkFrom_text _

theorem walk_text (h : t.Stands place node) (htext : refusal? (Path.text place) = none) :
    t.walk (Path.text place) = .ok (place, node) := by
  simp only [walk, htext]
  exact h.walkLinks_text maxLinks

end Stands

/-! ## Walks -/

variable {t : FileTree}

section

variable {onLink : List String → List Step → Except FileError (List String × FileNode)}

@[simp] theorem walkFrom_file (place : List String) (bytes : ByteArray) (s : Step)
    (rest : List Step) :
    walkFrom onLink t place (.file bytes) (s :: rest) = .error .notADirectory := by
  simp only [walkFrom]

/-- Steps from a place that is reached through directories alone end at such a place, if that holds
of what is done at a link. -/
theorem stands_of_walkFrom
    (honLink : ∀ base steps, t.Stands base .directory → Proper steps →
      ∀ place node, onLink base steps = .ok (place, node) → t.Stands place node) :
    ∀ steps, Proper steps → ∀ (start : List String) (first : FileNode), t.Stands start first →
      ∀ place node, walkFrom onLink t start first steps = .ok (place, node) → t.Stands place node := by
  intro steps
  induction steps with
  | nil =>
      intro _ start first hstart place node h
      simp only [walkFrom, Except.ok.injEq, Prod.mk.injEq] at h
      rcases h with ⟨rfl, rfl⟩
      exact hstart
  | cons s rest ih =>
      intro hproper start first hstart place node h
      have hrest := ih hproper.tail
      cases first with
      | file bytes => simp at h
      | link target => exact absurd rfl (hstart.ne_link target)
      | directory =>
          cases s with
          | stay => exact hrest start .directory hstart place node h
          | up => exact hrest start.dropLast .directory hstart.dropLast place node h
          | name n =>
              simp only [walkFrom] at h
              split at h
              · cases h
              · next hshort =>
                  -- a step into a name can be taken if something is there
                  split at h
                  · cases h
                  · next target _ =>
                      have hsteps := (Path.proper_steps target).append hproper.tail
                      exact honLink _ _ (hstart.linkBase target) hsteps place node h
                  · next first' hlink hfirst =>
                      have hname : IsName n := hproper n List.mem_cons_self
                      exact hrest (start ++ [n]) first' (.entry hstart hname hshort hfirst hlink)
                        place node h

/-- The induction is on the number of links that may still be followed. -/
theorem stands_of_walkLinks (links : Nat) : ∀ base steps, t.Stands base .directory → Proper steps →
    ∀ place node, walkLinks t links base steps = .ok (place, node) → t.Stands place node := by
  induction links with
  | zero =>
      intro base steps hbase hproper place node h
      refine stands_of_walkFrom ?_ steps hproper base .directory hbase place node h
      intro _ _ _ _ _ _ hlink
      cases hlink
  | succ links ih =>
      intro base steps hbase hproper place node h
      exact stands_of_walkFrom ih steps hproper base .directory hbase place node h

end

theorem stands_of_walk {path : String} {place : List String} {node : FileNode}
    (h : t.walk path = .ok (place, node)) : t.Stands place node := by
  unfold walk at h
  split at h
  · cases h
  · exact stands_of_walkLinks maxLinks [] _ .root (Path.proper_steps path) place node h

/-! ## Real paths -/

theorem realPath?_eq_some_iff {path real : String} : t.realPath? path = some real ↔
    ∃ place node, t.walk path = .ok (place, node) ∧ real = Path.text place ∧ refusal? real = none := by
  unfold realPath?
  cases hwalk : t.walk path with
  | error e => simp
  | ok reached =>
      rcases reached with ⟨place, node⟩
      cases href : refusal? (Path.text place) with
      | some e =>
          simp only [href, Option.isSome_some, if_true, reduceCtorEq, false_iff]
          rintro ⟨place', node', hsame, rfl, hnone⟩
          cases hsame
          rw [href] at hnone
          cases hnone
      | none =>
          simp only [href, Option.isSome_none, Bool.false_eq_true, if_false, Option.some.injEq]
          constructor
          · rintro rfl
            exact ⟨place, node, rfl, rfl, href⟩
          · rintro ⟨place', node', hsame, rfl, _⟩
            cases hsame
            rfl

/-- A path and its real path lead to the same place. -/
theorem walk_of_realPath? {path real : String} (h : t.realPath? path = some real) :
    t.walk real = t.walk path := by
  rcases realPath?_eq_some_iff.1 h with ⟨place, node, hwalk, rfl, href⟩
  rw [hwalk]
  exact (stands_of_walk hwalk).walk_text href

/-- A real path is its own real path. -/
theorem realPath?_of_realPath? {path real : String} (h : t.realPath? path = some real) :
    t.realPath? real = some real := by
  rcases realPath?_eq_some_iff.1 h with ⟨place, node, hwalk, hreal, href⟩
  refine realPath?_eq_some_iff.2 ⟨place, node, ?_, hreal, href⟩
  rw [walk_of_realPath? h]
  exact hwalk

/-! ## Looking at the end of a walk -/

section

variable {a b : String}

theorem isFile_congr (h : t.walk a = t.walk b) : t.isFile a = t.isFile b := by
  simp only [isFile, h]

theorem readText_congr (h : t.walk a = t.walk b) : t.readText a = t.readText b := by
  simp only [readText, h]

end

end FileTree
end MailRules

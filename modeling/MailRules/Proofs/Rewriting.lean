import MailRules.Proofs.FileIds

/-!
# Rewriting — files that change while their rules are kept

Files may be overwritten, deleted and put back while directories and links stay as they are.  Rules
that are kept stay where they are kept, but an identifier is looked up anew each time, under the
name that it has then.  This file defines:

* `FileTree.Rewritten`, what such changes come to;
* `Known.Apart`, by which no rule set is kept under two names;

and proves:

* `FileTree.Rewritten.walk`, by which every walk ends where it ended before, unless the file there
  is gone;
* `Source.fileId_of_rewritten_iff`, which tells when an identifier keeps its name;
* `Session.kept_through_rewriting`, by which rules that were found for an identifier are found again
  just if it keeps its name.
-/

namespace MailRules

/-! ## Files that were rewritten -/

namespace FileTree

open MailRules.Path (Step IsName Proper)

/-- The same directories and links, and files only where there were files: some may hold other
bytes, and some may be gone. -/
def Rewritten (t t' : FileTree) : Prop :=
  ∀ place, t'.node? place = t.node? place ∨
    (∃ bytes, t.node? place = some (.file bytes)) ∧
      (t'.node? place = none ∨ ∃ bytes, t'.node? place = some (.file bytes))

namespace Rewritten

variable {t t' : FileTree} {place : List String}

theorem refl (t : FileTree) : t.Rewritten t := fun _ => .inl rfl

theorem node?_eq (h : t.Rewritten t') (hother : ∀ bytes, t.node? place ≠ some (.file bytes)) :
    t'.node? place = t.node? place := by
  rcases h place with hsame | ⟨⟨bytes, hfile⟩, _⟩
  · exact hsame
  · exact absurd hfile (hother bytes)

theorem node?_of_file (h : t.Rewritten t') {bytes : ByteArray}
    (hfile : t.node? place = some (.file bytes)) :
    t'.node? place = none ∨ ∃ bytes', t'.node? place = some (.file bytes') := by
  rcases h place with hsame | ⟨_, hlater⟩
  · exact .inr ⟨bytes, hsame.trans hfile⟩
  · exact hlater

theorem node?_directory (h : t.Rewritten t') (hstands : t.Stands place .directory) :
    t'.node? place = some .directory := by
  have hnode := hstands.node?_eq
  rw [h.node?_eq (by simp [hnode]), hnode]

end Rewritten

/-! ### Overwriting and deleting -/

theorem lookup_filter (keep : List String → Bool) (nodes : List (List String × FileNode))
    (place : List String) : List.lookup place (nodes.filter fun n => keep n.1) =
      if keep place then List.lookup place nodes else none := by
  induction nodes with
  | nil => simp
  | cons n nodes ih =>
      rcases n with ⟨here, node⟩
      by_cases hplace : place = here
      · subst hplace
        cases hkeep : keep place <;> simp [hkeep, ih]
      · have hother : (place == here) = false := beq_eq_false_iff_ne.2 hplace
        cases hkeep : keep here <;> simp [hkeep, ih, List.lookup_cons, hother]

namespace Rewritten

variable {t t' : FileTree} {place : List String} {bytes : ByteArray}

/-- Overwriting a file that was there at first, or putting it back. -/
theorem put (h : t.Rewritten t') (hfile : t.node? place = some (.file bytes)) (bytes' : ByteArray) :
    t.Rewritten (t'.put place (.file bytes')) := by
  intro here
  by_cases hhere : here = place
  · subst hhere
    have hroot : here ≠ [] := by
      rintro rfl
      simp [node?] at hfile
    have hput : (t'.put here (.file bytes')).node? here = some (.file bytes') := by
      simp [node?, FileTree.put, hroot]
    exact .inr ⟨⟨bytes, hfile⟩, .inr ⟨bytes', hput⟩⟩
  · have hother : (here == place) = false := beq_eq_false_iff_ne.2 hhere
    have hlookup := lookup_filter (fun p => p != place) t'.nodes here
    have hsame : (t'.put place (.file bytes')).node? here = t'.node? here := by
      simp only [node?, FileTree.put, List.lookup_cons, hother, hlookup]
      simp [hhere]
    rw [hsame]
    exact h here

/-- Deleting a file, below which there can be nothing. -/
theorem removeAt (h : t.Rewritten t') (hfile : t.node? place = some (.file bytes))
    (hbelow : ∀ here, place <+: here → here ≠ place → t.node? here = none) :
    t.Rewritten (t'.removeAt place) := by
  intro here
  have hlookup := lookup_filter (fun p => !place.isPrefixOf p) t'.nodes here
  by_cases hroot : here = []
  · left
    simp [node?, hroot]
  · cases hprefix : place.isPrefixOf here with
    | true =>
        have hgone : (t'.removeAt place).node? here = none := by
          simp [node?, FileTree.removeAt, hroot, hlookup, hprefix]
        by_cases hhere : here = place
        · subst hhere
          exact .inr ⟨⟨bytes, hfile⟩, .inl hgone⟩
        · have hnothing := hbelow here (List.isPrefixOf_iff_prefix.1 hprefix) hhere
          exact .inl (hgone.trans hnothing.symm)
    | false =>
        have hsame : (t'.removeAt place).node? here = t'.node? here := by
          simp [node?, FileTree.removeAt, hroot, hlookup, hprefix]
        rw [hsame]
        exact h here

end Rewritten

/-! ### Walks -/

/-- What a walk comes to among rewritten files, given what it came to before: it ends at the same
place, unless the file there is gone. -/
def Later (t' : FileTree) :
    Except FileError (List String × FileNode) → Except FileError (List String × FileNode) → Prop
  | .ok (place, _), r =>
      r = match t'.node? place with
        | some node => .ok (place, node)
        | none => .error .notFound
  | .error _, r => ∃ e, r = .error e

theorem later_error (t' : FileTree) (e e' : FileError) : Later t' (.error e) (.error e') :=
  ⟨e', rfl⟩

namespace Rewritten

variable {t t' : FileTree}

section

variable {onLink onLink' : List String → List Step → Except FileError (List String × FileNode)}

/-- The step to a name: what is there is the same in both trees, or is a file that may be gone. -/
theorem walkFrom_name (h : t.Rewritten t') {n : String} {rest : List Step}
    (hproper : Proper (.name n :: rest))
    (honLink : ∀ base steps, t.Stands base .directory → Proper steps →
      Later t' (onLink base steps) (onLink' base steps))
    (hrest : ∀ (place : List String) (node node' : FileNode), t.Stands place node →
      t'.node? place = some node' →
        Later t' (t.walkFrom onLink place node rest) (t'.walkFrom onLink' place node' rest))
    {place : List String} (hstands : t.Stands place .directory) :
    Later t' (t.walkFrom onLink place .directory (.name n :: rest))
      (t'.walkFrom onLink' place .directory (.name n :: rest)) := by
  have hname : IsName n := hproper n List.mem_cons_self
  simp only [FileTree.walkFrom]
  by_cases hlong : maxNameBytes < n.utf8ByteSize
  · simp only [if_pos hlong]
    exact later_error t' _ _
  · simp only [if_neg hlong]
    cases hnext : t.node? (place ++ [n]) with
    | none =>
        rw [h.node?_eq (by simp [hnext]), hnext]
        exact later_error t' _ _
    | some next =>
        cases next with
        | directory =>
            have hsame : t'.node? (place ++ [n]) = some .directory := by
              rw [h.node?_eq (by simp [hnext]), hnext]
            rw [hsame]
            exact hrest _ _ _ (.entry hstands hname hlong hnext (by simp)) hsame
        | link target =>
            rw [h.node?_eq (by simp [hnext]), hnext]
            have hsteps := (Path.proper_steps target).append hproper.tail
            exact honLink _ _ (hstands.linkBase target) hsteps
        | file bytes =>
            rcases h.node?_of_file hnext with hgone | ⟨bytes', hfile⟩
            · -- a walk that ended here ends no more, and one that went on failed already
              rw [hgone]
              cases rest with
              | nil => simp [FileTree.walkFrom, Later, hgone]
              | cons s rest =>
                  simp only [FileTree.walkFrom_file]
                  exact later_error t' _ _
            · rw [hfile]
              exact hrest _ _ _ (.entry hstands hname hlong hnext (by simp)) hfile

/-- A walk takes the same steps in both trees, up to a file that is gone in the second. -/
theorem walkFrom (h : t.Rewritten t')
    (honLink : ∀ base steps, t.Stands base .directory → Proper steps →
      Later t' (onLink base steps) (onLink' base steps)) :
    ∀ steps, Proper steps →
      ∀ (place : List String) (node node' : FileNode), t.Stands place node →
        t'.node? place = some node' →
          Later t' (t.walkFrom onLink place node steps) (t'.walkFrom onLink' place node' steps) := by
  intro steps
  induction steps with
  | nil =>
      intro _ place node node' _ hnode'
      simp [FileTree.walkFrom, Later, hnode']
  | cons s rest ih =>
      intro hproper place node node' hstands hnode'
      have hrest := ih hproper.tail
      have hnode := hstands.node?_eq
      cases node with
      | link target => exact absurd rfl (hstands.ne_link target)
      | file bytes =>
          rcases h.node?_of_file hnode with hgone | ⟨bytes', hfile⟩
          · rw [hgone] at hnode'
            cases hnode'
          · -- from a file no step can be taken
            rw [hfile] at hnode'
            cases hnode'
            simp only [FileTree.walkFrom_file]
            exact later_error t' _ _
      | directory =>
          obtain rfl : .directory = node' := by
            rw [h.node?_eq (by simp [hnode]), hnode] at hnode'
            exact Option.some.inj hnode'
          cases s with
          | stay => exact hrest place .directory .directory hstands hnode'
          | up => exact hrest _ _ _ hstands.dropLast (h.node?_directory hstands.dropLast)
          | name n => exact h.walkFrom_name hproper honLink hrest hstands

end

theorem walkLinks (h : t.Rewritten t') (links : Nat) : ∀ base steps, t.Stands base .directory →
    Proper steps → Later t' (t.walkLinks links base steps) (t'.walkLinks links base steps) := by
  induction links with
  | zero =>
      intro base steps hbase hproper
      refine h.walkFrom ?_ steps hproper base _ _ hbase (h.node?_directory hbase)
      -- at a link both walks give up
      intro _ _ _ _
      exact later_error t' _ _
  | succ links ih =>
      intro base steps hbase hproper
      exact h.walkFrom ih steps hproper base _ _ hbase (h.node?_directory hbase)

/-- Every walk among rewritten files ends where it ended before, unless the file there is gone. -/
theorem walk (h : t.Rewritten t') (path : String) : Later t' (t.walk path) (t'.walk path) := by
  unfold FileTree.walk
  split
  · exact later_error t' _ _
  · exact h.walkLinks maxLinks [] _ .root (Path.proper_steps path)

theorem realPath?_of_none (h : t.Rewritten t') {path : String} (hnone : t.realPath? path = none) :
    t'.realPath? path = none := by
  have hlater := h.walk path
  unfold realPath? at hnone ⊢
  cases hwalk : t.walk path with
  | error e =>
      rw [hwalk] at hlater
      rcases hlater with ⟨e', he'⟩
      simp [he']
  | ok reached =>
      rcases reached with ⟨place, node⟩
      simp only [hwalk, Later] at hnone hlater
      rw [hlater]
      -- the place is the same, and has no real path now as before
      cases t'.node? place with
      | none => rfl
      | some node' => exact hnone

theorem realPath?_of_some (h : t.Rewritten t') {path real : String}
    (hreal : t.realPath? path = some real) :
    t'.realPath? path = some real ∨ t'.realPath? path = none := by
  rcases realPath?_eq_some_iff.1 hreal with ⟨place, node, hwalk, htext, href⟩
  have hlater := h.walk path
  simp only [hwalk, Later] at hlater
  cases hnode : t'.node? place with
  | some node' =>
      left
      rw [hnode] at hlater
      exact realPath?_eq_some_iff.2 ⟨place, node', hlater, htext, href⟩
  | none =>
      right
      rw [hnode] at hlater
      simp [realPath?, hlater]

end Rewritten
end FileTree

/-! ## Names of documents -/

namespace Source

/-- Among rewritten files an identifier keeps its name if it led to no document, or still leads to
one, or if its real path was its folded path, under which it is known without a document. -/
theorem fileId_of_rewritten_iff {files files' : FileTree} (h : files.Rewritten files')
    (root : Option String) (id : String) :
    fileId files' root id = fileId files root id ↔
      files.realPath? (fileOf root id) = none ∨ (files'.realPath? (fileOf root id)).isSome = true ∨
        files.realPath? (fileOf root id) = some (Path.clean (fileOf root id)) := by
  cases hreal : files.realPath? (fileOf root id) with
  | none =>
      have hnone := h.realPath?_of_none hreal
      simp [fileId, hreal, hnone]
  | some real =>
      rcases h.realPath?_of_some hreal with hsame | hgone
      · simp [fileId, hreal, hsame]
      · simp [fileId, hreal, hgone, eq_comm]

end Source

/-! ## Rules that are kept -/

namespace Known

/-- No rule set is known under two identifiers. -/
def Apart (k : Known) : Prop :=
  ∀ key key' shared shared', k.rules key = some shared → k.rules key' = some shared' →
    shared.stamp = shared'.stamp → key = key'

variable [PatternEngine]

theorem Resolves.apart {s : Source} {key : String} {k k' : Known} {found : Option SharedRules}
    {calls : List SourceCall} (h : Resolves s key k found calls k') (hsound : k.Sound)
    (hapart : k.Apart) : k'.Apart := by
  cases h with
  | kept _ => exact hapart
  | failed _ _ => exact hapart
  | made hnone _ =>
      -- the new number was given to no earlier rule set
      have hnew : ∀ key₁ shared₁, k.rules key₁ = some shared₁ → shared₁.stamp ≠ k.made :=
        fun key₁ shared₁ h₁ => Nat.ne_of_lt (hsound key₁ shared₁ h₁).2
      intro key₁ key₂ shared₁ shared₂ h₁ h₂ hstamp
      simp only [Function.update_apply] at h₁ h₂
      split at h₁ <;> split at h₂
      · next hkey₁ hkey₂ => rw [hkey₁, hkey₂]
      · cases h₁
        exact absurd hstamp.symm (hnew key₂ shared₂ h₂)
      · cases h₂
        exact absurd hstamp (hnew key₁ shared₁ h₁)
      · exact hapart key₁ key₂ shared₁ shared₂ h₁ h₂ hstamp

theorem Step.apart {sources : Nat → Source} {k k' : Known} {q : Request} {a : Answer}
    (h : Step sources k q a k') (hsound : k.Sound) (hapart : k.Apart) : k'.Apart := by
  cases h with
  | named h => exact h.apart hsound hapart
  | standard _ h => exact h.apart hsound hapart
  | _ => exact hapart

theorem Run.apart {sources : Nat → Source} {k k' : Known} {log : List (Request × Answer)}
    (h : Run sources k log k') : k.Sound → k.Apart → k'.Apart := by
  induction h with
  | nil =>
      intro _ hapart
      exact hapart
  | cons hstep _ ih =>
      intro hsound hapart
      exact ih (hstep.sound_and_grows hsound).1 (hstep.apart hsound hapart)

end Known

namespace Session

variable [PatternEngine]

theorem apart_run (sources : Nat → Source) (requests : List Request) :
    ((start sources).run requests).cache.known.Apart := by
  have hfirst : Known.nothing.Apart := by
    intro _ _ _ _ h
    cases h
  exact (log_run requests (start sources)).apart Known.sound_nothing hfirst

theorem get?_run_append {sources : Nat → Source} {history : List Request} {key : String}
    {shared : SharedRules} (h : ((start sources).run history).cache.get? key = some shared)
    (requests : List Request) :
    ((start sources).run (history ++ requests)).cache.get? key = some shared := by
  have hrun : (start sources).run (history ++ requests) = ((start sources).run history).run requests :=
    List.foldl_append ..
  have hsound := ((log_run history (start sources)).sound_and_grows Known.sound_nothing).1
  have hgrows := ((log_run requests ((start sources).run history)).sound_and_grows hsound).2
  rw [hrun]
  exact hgrows key shared h

/-- What was found for an identifier is kept under the name that it has at the time. -/
theorem get?_run_resolve {sources : Nat → Source} {history : List Request} {loader : Nat}
    {s : Source} (hs : ((start sources).run history).sources loader = s) (id : String) :
    ((start sources).run (history ++ [.resolve loader (.named id)])).cache.get? (s.canonicalId id) =
      (Loader.resolve s ((start sources).run history).cache (.named id)).rules := by
  have hrun : (start sources).run (history ++ [.resolve loader (.named id)]) =
      ((start sources).run history).handle (.resolve loader (.named id)) :=
    List.foldl_append ..
  rw [hrun, get?_handle_resolve, hs]
  exact if_pos rfl

/-- Rules were found for an identifier, files were rewritten since, and there were any requests:
then the same rules are found for the identifier again, and are said to be kept, just if it led to
no document at first, or still leads to one, or has its folded path for a real path.  They are kept
in any case. -/
theorem kept_through_rewriting (sources : Nat → Source) (history requests : List Request)
    (loader : Nat) (files files' : FileTree) (root defaultId : Option String) (id : String)
    (shared : SharedRules)
    (hfiles : ((start sources).run history).sources loader = Source.files files root defaultId)
    (hfound : (Loader.resolve (Source.files files root defaultId) ((start sources).run history).cache
      (.named id)).rules = some shared)
    (hrewritten : files.Rewritten files')
    (hlater :
      ((start sources).run (history ++ .resolve loader (.named id) :: requests)).sources loader =
        Source.files files' root defaultId) :
    let now := Source.files files' root defaultId
    let cache := ((start sources).run (history ++ .resolve loader (.named id) :: requests)).cache
    let path := Source.fileOf root id
    ((Loader.resolve now cache (.named id)).rules = some shared ∧ Loader.isCached now cache id = true ↔
        files.realPath? path = none ∨ (files'.realPath? path).isSome = true ∨
          files.realPath? path = some (Path.clean path)) ∧
      cache.get? ((Source.files files root defaultId).canonicalId id) = some shared := by
  intro now cache path
  have hname := Source.fileId_of_rewritten_iff hrewritten root id
  have hfirst := get?_run_resolve hfiles id
  rw [hfound] at hfirst
  have hkept : cache.get? (Source.fileId files root id) = some shared := by
    have hrun := get?_run_append hfirst requests
    rwa [List.append_assoc] at hrun
  refine ⟨?_, hkept⟩
  constructor
  · rintro ⟨hagain, _⟩
    -- once found again the rules are kept under both names, which are therefore the same
    have hsecond := get?_run_resolve hlater id
    have hstill := get?_run_append hkept [.resolve loader (.named id)]
    have hapart := apart_run sources
      (history ++ .resolve loader (.named id) :: requests ++ [.resolve loader (.named id)])
    rw [hagain] at hsecond
    exact hname.1 (hapart _ _ shared shared hsecond hstill rfl)
  · intro hsame
    have hkept' : cache.get? (now.canonicalId id) = some shared := by
      have hid : now.canonicalId id = Source.fileId files root id := hname.2 hsame
      rw [hid]
      exact hkept
    refine ⟨(Loader.resolveNamed_of_kept hkept').1, ?_⟩
    simp [Loader.isCached, Cache.contains, hkept']

end Session

/-! ## A file behind a link -/

namespace FileTree

/-- A file and a link to it in one directory. -/
def linked : FileTree :=
  ⟨[(["r"], .directory), (["r", "a.yaml"], .file "inbox: star".toUTF8),
    (["r", "l.yaml"], .link "a.yaml")]⟩

theorem node?_linked : linked.node? ["r", "a.yaml"] = some (.file "inbox: star".toUTF8) := rfl

theorem rewritten_remove_linked : linked.Rewritten (linked.remove "/r/a.yaml") := by
  refine (Rewritten.refl linked).removeAt node?_linked ?_
  rintro here ⟨rest, rfl⟩ hne
  cases rest with
  | nil => exact absurd rfl hne
  | cons n rest => simp [linked, node?, List.lookup_cons]

end FileTree

namespace Session

open FileTree (linked)

/-- The file is deleted and put back with nothing in it, by the name of the link.  The rules that
were found by this name stay, and they are those of the file. -/
theorem kept_through_rewriting_put_back :
    let deleted := linked.remove "/r/a.yaml"
    let files' := deleted.write "/r/l.yaml" "".toUTF8
    let source (files : FileTree) : Source := Source.files files (some "/r") none
    let requests : List Request :=
      [.resolve 0 (.named "l.yaml"), .change 0 (source deleted), .resolve 0 (.named "l.yaml"),
        .change 0 (source files'), .resolve 0 (.named "a.yaml")]
    let cache := ((start fun _ => source linked).run requests).cache
    linked.Rewritten files' ∧
      ∃ shared, (Loader.resolve (source linked) Cache.empty (.named "l.yaml")).rules = some shared ∧
        (Loader.resolve (source files') cache (.named "l.yaml")).rules = some shared ∧
        Loader.isCached (source files') cache "l.yaml" = true := by
  intro deleted files' source requests cache
  have hrewritten : linked.Rewritten files' :=
    FileTree.rewritten_remove_linked.put FileTree.node?_linked _
  have hsome : (Loader.resolve (source linked) Cache.empty (.named "l.yaml")).rules.isSome = true := by
    decide +kernel
  have hthere : (files'.realPath? (Source.fileOf (some "/r") "l.yaml")).isSome = true := by
    decide +kernel
  obtain ⟨shared, hfound⟩ := Option.isSome_iff_exists.1 hsome
  have hkept := kept_through_rewriting (fun _ => source linked) [] requests.tail 0 linked files'
    (some "/r") none "l.yaml" shared rfl hfound hrewritten rfl
  exact ⟨hrewritten, shared, hfound, hkept.1.2 (.inr (.inl hthere))⟩

/-- The file is deleted, and the rules that were found by the name of the link are not found by it
again. -/
theorem lost_behind_link :
    let files' := linked.remove "/r/a.yaml"
    let source (files : FileTree) : Source := Source.files files (some "/r") none
    let first := Loader.resolve (source linked) Cache.empty (.named "l.yaml")
    linked.Rewritten files' ∧ first.rules.isSome = true ∧
      (Loader.resolve (source files') first.cache (.named "l.yaml")).rules.isSome = false ∧
      Loader.isCached (source files') first.cache "l.yaml" = false := by
  intro files' source first
  refine ⟨FileTree.rewritten_remove_linked, ?_⟩
  decide +kernel

end Session
end MailRules

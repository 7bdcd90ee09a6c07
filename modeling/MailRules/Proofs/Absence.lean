import MailRules.Proofs.Walking
import MailRules.Source

/-!
# Absence — documents that are not there, and documents that cannot be read

A path is followed step by step from directory to directory, until nothing is left of it or the next
step cannot be taken.  Only one of the reasons why a step cannot be taken makes a document absent:
that its directory does not have the next name.  Where a file stands in the way, or a name is too
long, or links go on for ever, there is no document either, and it is reported as unreadable.  This
file defines:

* `FileTree.Goes`, the ways through directories and links, by the number of links followed;
* `FileTree.Stops`, what is found where a way stops, and `FileTree.Ends`, what is found for a path;

and proves:

* `FileTree.walk_eq_iff`, by which walking finds just that;
* `Source.load_tells_absence`, which tells what is reported for an identifier, and where the report
  of an unreadable document is about nothing at all.
-/

namespace MailRules
namespace FileTree

open MailRules.Path (Step)

/-! ## Ways -/

/-- From a directory with some steps to take one comes to a directory with some of them left, or
with those of a link that was followed. -/
inductive Goes (t : FileTree) : Nat → List String → List Step → List String → List Step → Prop where
  | here (place : List String) (steps : List Step) : Goes t 0 place steps place steps
  | stay {k : Nat} {place there : List String} {rest left : List Step}
      (h : Goes t k place rest there left) : Goes t k place (.stay :: rest) there left
  | up {k : Nat} {place there : List String} {rest left : List Step}
      (h : Goes t k place.dropLast rest there left) : Goes t k place (.up :: rest) there left
  | enter {k : Nat} {place there : List String} {n : String} {rest left : List Step}
      (hshort : ¬ maxNameBytes < n.utf8ByteSize) (hnode : t.node? (place ++ [n]) = some .directory)
      (h : Goes t k (place ++ [n]) rest there left) : Goes t k place (.name n :: rest) there left
  | follow {k : Nat} {place there : List String} {n target : String} {rest left : List Step}
      (hshort : ¬ maxNameBytes < n.utf8ByteSize)
      (hnode : t.node? (place ++ [n]) = some (.link target))
      (h : Goes t k (linkBase place target) (Path.steps target ++ rest) there left) :
      Goes t (k + 1) place (.name n :: rest) there left

/-- What is found in a directory from which no further directory is come to, if so many links may
still be followed. -/
inductive Stops (t : FileTree) :
    Nat → List String → List Step → Except FileError (List String × FileNode) → Prop where
  | directory (links : Nat) (place : List String) : Stops t links place [] (.ok (place, .directory))
  | file {links : Nat} {place : List String} {n : String} {bytes : ByteArray}
      (hshort : ¬ maxNameBytes < n.utf8ByteSize)
      (hnode : t.node? (place ++ [n]) = some (.file bytes)) :
      Stops t links place [.name n] (.ok (place ++ [n], .file bytes))
  | missing {links : Nat} {place : List String} {n : String} {rest : List Step}
      (hshort : ¬ maxNameBytes < n.utf8ByteSize) (hnode : t.node? (place ++ [n]) = none) :
      Stops t links place (.name n :: rest) (.error .notFound)
  | throughFile {links : Nat} {place : List String} {n : String} {s : Step} {rest : List Step}
      {bytes : ByteArray} (hshort : ¬ maxNameBytes < n.utf8ByteSize)
      (hnode : t.node? (place ++ [n]) = some (.file bytes)) :
      Stops t links place (.name n :: s :: rest) (.error .notADirectory)
  | longName {links : Nat} {place : List String} {n : String} {rest : List Step}
      (hlong : maxNameBytes < n.utf8ByteSize) :
      Stops t links place (.name n :: rest) (.error .nameTooLong)
  | manyLinks {place : List String} {n target : String} {rest : List Step}
      (hshort : ¬ maxNameBytes < n.utf8ByteSize)
      (hnode : t.node? (place ++ [n]) = some (.link target)) :
      Stops t 0 place (.name n :: rest) (.error .tooManyLinks)

/-- What is found for a path: nothing if its text is no path, and else what is found where the way
stops. -/
inductive Ends (t : FileTree) (path : String) : Except FileError (List String × FileNode) → Prop where
  | refused {e : FileError} (h : refusal? path = some e) : Ends t path (.error e)
  | stopped {k : Nat} {there : List String} {left : List Step}
      {found : Except FileError (List String × FileNode)} (h : refusal? path = none)
      (hlinks : k ≤ maxLinks) (hgoes : Goes t k [] (Path.steps path) there left)
      (hstops : Stops t (maxLinks - k) there left found) : Ends t path found

variable {t : FileTree}

/-! ## Walking and ways -/

section

variable (links : Nat) (place : List String) {n : String} (rest : List Step)

@[simp] theorem walkLinks_nil : walkLinks t links place [] = .ok (place, .directory) := by
  cases links <;> rfl

@[simp] theorem walkLinks_stay :
    walkLinks t links place (.stay :: rest) = walkLinks t links place rest := by
  cases links <;> rfl

@[simp] theorem walkLinks_up :
    walkLinks t links place (.up :: rest) = walkLinks t links place.dropLast rest := by
  cases links <;> rfl

theorem walkLinks_long (h : maxNameBytes < n.utf8ByteSize) :
    walkLinks t links place (.name n :: rest) = .error .nameTooLong := by
  cases links <;> simp only [walkLinks, walkFrom, if_pos h]

variable (hshort : ¬ maxNameBytes < n.utf8ByteSize)
include hshort

theorem walkLinks_missing (h : t.node? (place ++ [n]) = none) :
    walkLinks t links place (.name n :: rest) = .error .notFound := by
  cases links <;> simp only [walkLinks, walkFrom, if_neg hshort, h]

theorem walkLinks_enter (h : t.node? (place ++ [n]) = some .directory) :
    walkLinks t links place (.name n :: rest) = walkLinks t links (place ++ [n]) rest := by
  cases links <;> simp only [walkLinks, walkFrom, if_neg hshort, h]

theorem walkLinks_file {bytes : ByteArray} (h : t.node? (place ++ [n]) = some (.file bytes)) :
    walkLinks t links place [.name n] = .ok (place ++ [n], .file bytes) := by
  cases links <;> simp only [walkLinks, walkFrom, if_neg hshort, h]

theorem walkLinks_throughFile {bytes : ByteArray} (s : Step)
    (h : t.node? (place ++ [n]) = some (.file bytes)) :
    walkLinks t links place (.name n :: s :: rest) = .error .notADirectory := by
  cases links <;> simp only [walkLinks, walkFrom, if_neg hshort, h]

theorem walkLinks_follow {target : String} (h : t.node? (place ++ [n]) = some (.link target)) :
    walkLinks t (links + 1) place (.name n :: rest) =
      walkLinks t links (linkBase place target) (Path.steps target ++ rest) := by
  simp only [walkLinks, walkFrom, if_neg hshort, h]

theorem walkLinks_manyLinks {target : String} (h : t.node? (place ++ [n]) = some (.link target)) :
    walkLinks t 0 place (.name n :: rest) = .error .tooManyLinks := by
  simp only [walkLinks, walkFrom, if_neg hshort, h]

end

/-- A walk finds what it finds from any place on its way, less the links followed until then. -/
theorem Goes.walkLinks_eq {k : Nat} {place there : List String} {steps left : List Step}
    (h : t.Goes k place steps there left) :
    ∀ links, walkLinks t (links + k) place steps = walkLinks t links there left := by
  induction h with
  | here _ _ =>
      intro links
      rfl
  | stay _ ih =>
      intro links
      simpa using ih links
  | up _ ih =>
      intro links
      simpa using ih links
  | enter hshort hnode _ ih =>
      intro links
      rw [walkLinks_enter _ _ _ hshort hnode]
      exact ih links
  | @follow k _ _ _ _ _ _ hshort hnode _ ih =>
      intro links
      rw [← Nat.add_assoc, walkLinks_follow _ _ _ hshort hnode]
      exact ih links

theorem Stops.walkLinks_eq {links : Nat} {place : List String} {left : List Step}
    {found : Except FileError (List String × FileNode)} (h : t.Stops links place left found) :
    walkLinks t links place left = found := by
  cases h with
  | directory _ _ => exact walkLinks_nil links place
  | file hshort hnode => exact walkLinks_file links place hshort hnode
  | missing hshort hnode => exact walkLinks_missing links place _ hshort hnode
  | throughFile hshort hnode => exact walkLinks_throughFile links place _ hshort _ hnode
  | longName hlong => exact walkLinks_long links place _ hlong
  | manyLinks hshort hnode => exact walkLinks_manyLinks place _ hshort hnode

/-- A walk comes to a place where it stops. -/
def ComesToStop (t : FileTree) (links : Nat) (place : List String) (steps : List Step) : Prop :=
  ∃ k there left, k ≤ links ∧ t.Goes k place steps there left ∧
    t.Stops (links - k) there left (walkLinks t links place steps)

namespace ComesToStop

theorem of_stops {links : Nat} {place : List String} {steps : List Step}
    {found : Except FileError (List String × FileNode)} (h : t.Stops links place steps found) :
    t.ComesToStop links place steps := by
  have hfound := h.walkLinks_eq
  exact ⟨0, place, steps, Nat.zero_le links, .here place steps, by rw [hfound]; exact h⟩

/-- A walk that goes on as another one does comes to a stop with it. -/
theorem of_step {links : Nat} {place next : List String} {steps rest : List Step}
    (hstep : ∀ {k there left}, t.Goes k next rest there left → t.Goes k place steps there left)
    (hwalk : walkLinks t links place steps = walkLinks t links next rest)
    (h : t.ComesToStop links next rest) : t.ComesToStop links place steps := by
  rcases h with ⟨k, there, left, hk, hgoes, hstops⟩
  exact ⟨k, there, left, hk, hstep hgoes, by rw [hwalk]; exact hstops⟩

theorem of_follow {links : Nat} {place : List String} {n target : String} {rest : List Step}
    (hshort : ¬ maxNameBytes < n.utf8ByteSize) (hnode : t.node? (place ++ [n]) = some (.link target))
    (h : t.ComesToStop links (linkBase place target) (Path.steps target ++ rest)) :
    t.ComesToStop (links + 1) place (.name n :: rest) := by
  rcases h with ⟨k, there, left, hk, hgoes, hstops⟩
  refine ⟨k + 1, there, left, Nat.succ_le_succ hk, .follow hshort hnode hgoes, ?_⟩
  rw [walkLinks_follow _ _ _ hshort hnode, Nat.add_sub_add_right]
  exact hstops

end ComesToStop

/-- The induction is on the steps up to the next link. -/
theorem comesToStop_of_fewer {links : Nat} (hfewer : ∀ fewer, links = fewer + 1 →
    ∀ place steps, t.ComesToStop fewer place steps) :
    ∀ (steps : List Step) (place : List String), t.ComesToStop links place steps := by
  intro steps
  induction steps with
  | nil =>
      intro place
      exact .of_stops (.directory links place)
  | cons s rest ih =>
      intro place
      cases s with
      | stay => exact .of_step .stay (walkLinks_stay links place rest) (ih place)
      | up => exact .of_step .up (walkLinks_up links place rest) (ih place.dropLast)
      | name n =>
          by_cases hlong : maxNameBytes < n.utf8ByteSize
          · exact .of_stops (.longName hlong)
          · cases hnode : t.node? (place ++ [n]) with
            | none => exact .of_stops (.missing hlong hnode)
            | some node =>
                cases node with
                | directory =>
                    have hwalk := walkLinks_enter links place rest hlong hnode
                    exact .of_step (.enter hlong hnode) hwalk (ih (place ++ [n]))
                | file bytes =>
                    cases rest with
                    | nil => exact .of_stops (.file hlong hnode)
                    | cons s rest => exact .of_stops (.throughFile hlong hnode)
                | link target =>
                    cases links with
                    | zero => exact .of_stops (.manyLinks hlong hnode)
                    | succ fewer => exact .of_follow hlong hnode (hfewer fewer rfl _ _)

/-- Here it is on the links that may be followed. -/
theorem comesToStop (links : Nat) : ∀ (place : List String) (steps : List Step),
    t.ComesToStop links place steps := by
  induction links with
  | zero =>
      intro place steps
      refine comesToStop_of_fewer ?_ steps place
      intro fewer h
      cases h
  | succ links ih =>
      intro place steps
      refine comesToStop_of_fewer ?_ steps place
      intro fewer hfewer
      obtain rfl := Nat.succ.inj hfewer
      exact ih

/-- Walking finds what stands at the end of the way, or why it stops before that. -/
theorem walk_eq_iff {path : String} {found : Except FileError (List String × FileNode)} :
    t.walk path = found ↔ t.Ends path found := by
  unfold walk
  cases href : refusal? path with
  | some e =>
      constructor
      · rintro rfl
        exact .refused href
      · intro h
        cases h with
        | refused h' => rw [href] at h'; cases h'; rfl
        | stopped h' _ _ _ => rw [href] at h'; cases h'
  | none =>
      constructor
      · rintro rfl
        rcases comesToStop (t := t) maxLinks [] (Path.steps path) with
          ⟨k, there, left, hk, hgoes, hstops⟩
        exact .stopped href hk hgoes hstops
      · intro h
        cases h with
        | refused h' => rw [href] at h'; cases h'
        | @stopped k there left _ _ hk hgoes hstops =>
            -- the walk goes on from there with the links that are left
            have hrest := hgoes.walkLinks_eq (maxLinks - k)
            rw [Nat.sub_add_cancel hk] at hrest
            exact hrest.trans hstops.walkLinks_eq

/-! ## What is found -/

theorem Ends.unique {path : String} {found found' : Except FileError (List String × FileNode)}
    (h : t.Ends path found) (h' : t.Ends path found') : found = found' :=
  (walk_eq_iff.2 h).symm.trans (walk_eq_iff.2 h')

theorem refusal?_ne {path : String} {e : FileError} (h : refusal? path = some e) :
    e ≠ .isADirectory ∧ e ≠ .notText := by
  unfold refusal? at h
  split at h
  · cases h; simp
  · split at h
    · cases h; simp
    · split at h <;> cases h
      simp

theorem Stops.cause_ne {links : Nat} {place : List String} {left : List Step} {e : FileError}
    (h : t.Stops links place left (.error e)) : e ≠ .isADirectory ∧ e ≠ .notText := by
  cases h <;> simp

/-- Where a way stops before its end, it is not for what stands at the end. -/
theorem Ends.cause_ne {path : String} {e : FileError} (h : t.Ends path (.error e)) :
    e ≠ .isADirectory ∧ e ≠ .notText := by
  cases h with
  | refused h => exact refusal?_ne h
  | stopped _ _ _ hstops => exact hstops.cause_ne

/-- Reading finds a text, or why there is none: the way stops before its end, or what stands there
is a directory or holds no text. -/
theorem readText_eq_error_iff {path : String} {cause : FileError} : t.readText path = .error cause ↔
    t.Ends path (.error cause) ∨
      (cause = .isADirectory ∧ ∃ place, t.Ends path (.ok (place, .directory))) ∨
      (cause = .notText ∧ ∃ place bytes,
        t.Ends path (.ok (place, .file bytes)) ∧ String.fromUTF8? bytes = none) := by
  simp only [← walk_eq_iff]
  unfold readText
  cases hwalk : t.walk path with
  | error e => simp
  | ok reached =>
      rcases reached with ⟨place, node⟩
      cases node with
      | directory => simp [eq_comm]
      | link target => exact absurd rfl ((stands_of_walk hwalk).ne_link target)
      | file bytes =>
          cases htext : String.fromUTF8? bytes with
          | none =>
              simp only [htext]
              constructor
              · intro h
                cases h
                exact .inr (.inr ⟨rfl, place, bytes, rfl, htext⟩)
              · rintro (h | ⟨_, _, h⟩ | ⟨rfl, _⟩)
                · cases h
                · cases h
                · rfl
          | some text => simp [htext]

theorem isFile_eq_true_iff {path : String} :
    t.isFile path = true ↔ ∃ place bytes, t.Ends path (.ok (place, .file bytes)) := by
  simp only [← walk_eq_iff]
  unfold isFile
  cases hwalk : t.walk path with
  | error e => simp
  | ok reached =>
      rcases reached with ⟨place, node⟩
      cases node <;> simp

theorem isFile_of_readText {path text : String} (h : t.readText path = .ok text) :
    t.isFile path = true := by
  unfold readText at h
  split at h
  · cases h
  · cases h
  · cases h
  · next place bytes hwalk => simp [isFile, hwalk]

end FileTree

/-! ## What is reported -/

theorem Document.malformed_of_read {id text : String} {e : SourceError}
    (h : read id text = .error e) : ∃ cause, e = .malformed id (formatOf id) cause := by
  unfold read at h
  split at h
  · cases h
  · cases hentries : entries? (formatOf id) text with
    | ok es => simp [hentries] at h
    | error cause =>
        simp only [hentries] at h
        cases h
        exact ⟨cause, rfl⟩

namespace Source

variable {files : FileTree} {root : Option String} {id : String}

theorem fileLoad_of_error {e : FileError} (h : files.readText (fileOf root id) = .error e) :
    fileLoad files root id = .error (if e = .notFound then .absent id else .unreadable id e) := by
  unfold fileLoad
  rw [h]
  cases e <;> rfl

theorem fileLoad_of_ok {text : String} (h : files.readText (fileOf root id) = .ok text) :
    fileLoad files root id = Document.read id text := by
  unfold fileLoad
  rw [h]

/-- A document that was read is not absent and not unreadable, whatever is wrong with it. -/
theorem fileLoad_error_of_ok {text : String} {e : SourceError}
    (h : files.readText (fileOf root id) = .ok text) (herror : fileLoad files root id = .error e) :
    ∃ format cause, e = .malformed id format cause := by
  rw [fileLoad_of_ok h] at herror
  rcases Document.malformed_of_read herror with ⟨cause, hcause⟩
  exact ⟨_, cause, hcause⟩

theorem fileLoad_eq_absent_iff : fileLoad files root id = .error (.absent id) ↔
    files.Ends (fileOf root id) (.error .notFound) := by
  have hread : files.readText (fileOf root id) = .error .notFound ↔
      files.Ends (fileOf root id) (.error .notFound) := by
    simp [FileTree.readText_eq_error_iff]
  rw [← hread]
  cases htext : files.readText (fileOf root id) with
  | ok text =>
      refine ⟨fun h => ?_, nofun⟩
      rcases fileLoad_error_of_ok htext h with ⟨_, _, hmalformed⟩
      cases hmalformed
  | error e =>
      rw [fileLoad_of_error htext]
      by_cases he : e = .notFound <;> simp [he]

theorem fileLoad_eq_unreadable_iff {cause : FileError} :
    fileLoad files root id = .error (.unreadable id cause) ↔
      cause ≠ .notFound ∧ files.readText (fileOf root id) = .error cause := by
  cases htext : files.readText (fileOf root id) with
  | ok text =>
      refine ⟨fun h => ?_, nofun⟩
      rcases fileLoad_error_of_ok htext h with ⟨_, _, hmalformed⟩
      cases hmalformed
  | error e =>
      rw [fileLoad_of_error htext]
      by_cases he : e = .notFound
      · subst he
        simp [eq_comm]
      · simp only [he, if_false, Except.error.injEq, SourceError.unreadable.injEq, true_and]
        constructor
        · rintro rfl
          exact ⟨he, rfl⟩
        · exact And.right

/-- Nothing is there just if the document is reported as absent, or as unreadable for a reason that
is not about what is there. -/
theorem ends_nowhere_iff : (¬ ∃ place node, files.Ends (fileOf root id) (.ok (place, node))) ↔
    fileLoad files root id = .error (.absent id) ∨ ∃ cause, cause ≠ .isADirectory ∧ cause ≠ .notText ∧
      fileLoad files root id = .error (.unreadable id cause) := by
  have hstops (cause : FileError) : files.Ends (fileOf root id) (.error cause) →
      files.readText (fileOf root id) = .error cause :=
    fun h => FileTree.readText_eq_error_iff.2 (.inl h)
  constructor
  · intro hnowhere
    cases hwalk : files.walk (fileOf root id) with
    | ok reached => exact absurd ⟨reached.1, reached.2, FileTree.walk_eq_iff.1 hwalk⟩ hnowhere
    | error e =>
        have hends := FileTree.walk_eq_iff.1 hwalk
        by_cases he : e = .notFound
        · subst he
          exact .inl (fileLoad_eq_absent_iff.2 hends)
        · have hcause := hends.cause_ne
          exact .inr ⟨e, hcause.1, hcause.2, fileLoad_eq_unreadable_iff.2 ⟨he, hstops e hends⟩⟩
  · rintro hload ⟨place, node, hends⟩
    -- in both cases the way stops before its end
    have herror : ∃ e, files.Ends (fileOf root id) (.error e) := by
      rcases hload with habsent | ⟨cause, hdirectory, htext, hload⟩
      · exact ⟨_, fileLoad_eq_absent_iff.1 habsent⟩
      · rcases FileTree.readText_eq_error_iff.1 (fileLoad_eq_unreadable_iff.1 hload).2 with h | h | h
        · exact ⟨cause, h⟩
        · exact absurd h.1 hdirectory
        · exact absurd h.1 htext
    rcases herror with ⟨e, he⟩
    cases he.unique hends

theorem isFile_of_fileLoad (h : (∃ es, fileLoad files root id = .ok es) ∨
    ∃ format cause, fileLoad files root id = .error (.malformed id format cause)) :
    files.isFile (fileOf root id) = true := by
  cases htext : files.readText (fileOf root id) with
  | ok text => exact FileTree.isFile_of_readText htext
  | error e =>
      -- without a text there is neither of the two
      rw [fileLoad_of_error htext] at h
      by_cases he : e = .notFound <;> simp [he] at h

theorem isAbsent_of_isFile {e : SourceError} (hfile : files.isFile (fileOf root id) = true)
    (herror : fileLoad files root id = .error e) : e.isAbsent = false := by
  cases htext : files.readText (fileOf root id) with
  | ok text =>
      rcases fileLoad_error_of_ok htext herror with ⟨_, _, rfl⟩
      rfl
  | error cause =>
      have hfound : cause ≠ .notFound := by
        rintro rfl
        rcases FileTree.isFile_eq_true_iff.1 hfile with ⟨place, bytes, hends⟩
        have hmissing : files.Ends (fileOf root id) (.error .notFound) := by
          simpa [FileTree.readText_eq_error_iff] using htext
        cases hmissing.unique hends
      rw [fileLoad_eq_unreadable_iff.2 ⟨hfound, htext⟩] at herror
      cases herror
      rfl

/-- A document is reported as absent just if a name is missing on the way to it, and as unreadable
if a directory or a file without a text stands there, but also if nothing does and the way stops for
another reason: at a file, at a name that is too long, after too many links, or because its text is
no path.  What is loaded or malformed is a file, and a file is never absent. -/
theorem load_tells_absence (files : FileTree) (root defaultId : Option String) (id : String) :
    let s := Source.files files root defaultId
    let path := fileOf root id
    (s.load id = .error (.absent id) ↔ files.Ends path (.error .notFound)) ∧
      (∀ cause, s.load id = .error (.unreadable id cause) ↔
        cause ≠ .notFound ∧
          (files.Ends path (.error cause) ∨
            (cause = .isADirectory ∧ ∃ place, files.Ends path (.ok (place, .directory))) ∨
            (cause = .notText ∧ ∃ place bytes,
              files.Ends path (.ok (place, .file bytes)) ∧ String.fromUTF8? bytes = none))) ∧
      ((¬ ∃ place node, files.Ends path (.ok (place, node))) ↔
        s.load id = .error (.absent id) ∨
          ∃ cause, cause ≠ .isADirectory ∧ cause ≠ .notText ∧
            s.load id = .error (.unreadable id cause)) ∧
      ((∃ es, s.load id = .ok es) ∨ (∃ format cause, s.load id = .error (.malformed id format cause)) →
        s.holds id = true) ∧
      (s.holds id = true → ∀ e, s.load id = .error e → e.isAbsent = false) := by
  intro s path
  refine ⟨fileLoad_eq_absent_iff, ?_, ends_nowhere_iff, ?_, ?_⟩
  · intro cause
    rw [← FileTree.readText_eq_error_iff]
    exact fileLoad_eq_unreadable_iff
  · intro hload
    exact isFile_of_fileLoad hload
  · intro hholds e herror
    exact isAbsent_of_isFile hholds herror

/-- A file stands where a directory would have to be.  There is no document behind it, and it is
reported as one that is there and cannot be read. -/
theorem unreadable_behind_file :
    let files : FileTree := ⟨[(["r"], .directory), (["r", "a.yaml"], .file "inbox: star".toUTF8)]⟩
    (¬ ∃ place node, files.Ends (fileOf (some "/r") "a.yaml/b") (.ok (place, node))) ∧
      (Source.files files (some "/r") none).load "a.yaml/b" =
        .error (.unreadable "a.yaml/b" .notADirectory) := by
  intro files
  have hpath : FileTree.refusal? (fileOf (some "/r") "a.yaml/b") = none := by decide +kernel
  have hsteps : Path.steps (fileOf (some "/r") "a.yaml/b") =
      [.stay, .name "r", .name "a.yaml", .name "b"] := by decide +kernel
  -- from the root to the directory, and no further than to the file in it
  have hgoes : files.Goes 0 [] (Path.steps (fileOf (some "/r") "a.yaml/b")) ["r"]
      [.name "a.yaml", .name "b"] := by
    rw [hsteps]
    exact .stay (.enter (by decide) rfl (.here _ _))
  have hends : files.Ends (fileOf (some "/r") "a.yaml/b") (.error .notADirectory) :=
    .stopped hpath (Nat.zero_le _) hgoes (.throughFile (by decide) rfl)
  refine ⟨?_, ?_⟩
  · rintro ⟨place, node, hfound⟩
    cases hends.unique hfound
  · exact fileLoad_eq_unreadable_iff.2
      ⟨by decide, FileTree.readText_eq_error_iff.2 (.inl hends)⟩

end Source
end MailRules

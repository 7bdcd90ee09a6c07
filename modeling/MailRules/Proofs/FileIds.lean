import MailRules.Proofs.Filtering
import MailRules.Proofs.Walking

/-!
# FileIds — how documents in files are known

A document in a file is known by the real path of the file.  An identifier that leads to no file is
known by its path folded as if there were no links, and such a path may lead through links to a file
after all: then the document has two names, and rules asked for by the identifier are those of a
file that the identifier itself does not lead to.  This file proves:

* `Source.canonicalId_fixed_iff`, which tells when taking the name of a name changes nothing, and
  that the second name is the last one;
* `Loader.rules_of_file`, which tells what rules are found for an identifier from what it leads to.
-/

namespace MailRules

/-! ## Names of documents -/

namespace Source

variable {files : FileTree} {root : Option String} {id : String}

/-- The path of a place does not depend on the root. -/
theorem fileOf_text (root : Option String) (place : List String) :
    fileOf root (Path.text place) = Path.text place := by
  cases root with
  | none => rfl
  | some directory => exact Path.join_text directory place

theorem fileOf_of_realPath? {path real : String} (h : files.realPath? path = some real) :
    fileOf root real = real := by
  rcases FileTree.realPath?_eq_some_iff.1 h with ⟨place, _, _, rfl, _⟩
  exact fileOf_text root place

theorem fileOf_clean : fileOf root (Path.clean (fileOf root id)) = Path.clean (fileOf root id) := by
  by_cases hne : fileOf root id = ""
  · have hempty : fileOf root "" = "" := by
      cases root with
      | none => rfl
      | some directory =>
          rcases Path.eq_empty_of_join hne with ⟨rfl, _⟩
          rfl
    have hclean : Path.clean "" = "" := rfl
    simp [hne, hclean, hempty]
  · rcases Path.exists_clean_eq_text hne with ⟨place, hplace, _⟩
    rw [hplace]
    exact fileOf_text root place

theorem fileId_of_realPath? {real : String} (h : files.realPath? (fileOf root id) = some real) :
    fileId files root id = real := by
  simp [fileId, h]

theorem fileId_of_none (h : files.realPath? (fileOf root id) = none) :
    fileId files root id = Path.clean (fileOf root id) := by
  simp [fileId, h]

theorem fileId_real {path real : String} (h : files.realPath? path = some real) :
    fileId files root real = real := by
  refine fileId_of_realPath? ?_
  rw [fileOf_of_realPath? h]
  exact FileTree.realPath?_of_realPath? h

/-- A name is taken from the document that its path leads to, and is kept if it leads to none. -/
theorem fileId_clean : fileId files root (Path.clean (fileOf root id)) =
    (files.realPath? (Path.clean (fileOf root id))).getD (Path.clean (fileOf root id)) := by
  simp only [fileId, fileOf_clean, Path.clean_clean]

/-- The name of an identifier is its own name if the identifier leads to a document, or if its
folded path leads to none or is the real path of one.  Whatever the files are, the name of the name
is its own name. -/
theorem canonicalId_fixed_iff (files : FileTree) (root defaultId : Option String) (id : String) :
    let s := Source.files files root defaultId
    let path := fileOf root id
    (s.canonicalId (s.canonicalId id) = s.canonicalId id ↔
        (files.realPath? path).isSome = true ∨
          ∀ real, files.realPath? (Path.clean path) = some real → real = Path.clean path) ∧
      s.canonicalId (s.canonicalId (s.canonicalId id)) = s.canonicalId (s.canonicalId id) := by
  intro s path
  show (fileId files root (fileId files root id) = fileId files root id ↔ _) ∧
    fileId files root (fileId files root (fileId files root id)) =
      fileId files root (fileId files root id)
  cases hreal : files.realPath? path with
  | some real =>
      have hname : fileId files root id = real := fileId_of_realPath? hreal
      have hfixed : fileId files root real = real := fileId_real hreal
      simp [hname, hfixed]
  | none =>
      have hname : fileId files root id = Path.clean path := fileId_of_none hreal
      have hsecond : fileId files root (Path.clean path) =
          (files.realPath? (Path.clean path)).getD (Path.clean path) := fileId_clean
      rw [hname]
      cases hagain : files.realPath? (Path.clean path) with
      | none =>
          rw [hagain] at hsecond
          simp [hsecond]
      | some real =>
          rw [hagain] at hsecond
          have hfixed : fileId files root real = real := fileId_real hagain
          simp [hsecond, hfixed]

/-- A directory that is not there is folded away, and the link that comes after it leads to a
file. -/
theorem canonicalId_behind_link :
    let s := Source.files
      ⟨[(["r"], .directory), (["r", "dir"], .directory), (["r", "dir", "x.yaml"], .file ⟨#[]⟩),
        (["r", "link"], .link "dir")]⟩ (some "/r") none
    s.canonicalId "gone/../link/x.yaml" = "/r/link/x.yaml" ∧
      s.canonicalId "/r/link/x.yaml" = "/r/dir/x.yaml" ∧
      s.canonicalId (s.canonicalId "gone/../link/x.yaml") ≠ s.canonicalId "gone/../link/x.yaml" := by
  decide +kernel

/-! ## Documents in files -/

theorem fileLoad_eq_ok_iff {entries : List Entry} : fileLoad files root id = .ok entries ↔
    ∃ text, files.readText (fileOf root id) = .ok text ∧ Document.read id text = .ok entries := by
  unfold fileLoad
  cases hread : files.readText (fileOf root id) with
  | ok text => simp
  | error e => cases e <;> simp

/-- An identifier that leads nowhere has no document. -/
theorem no_document_of_walk {e : FileError} (h : files.walk (fileOf root id) = .error e)
    (defaultId : Option String) :
    (Source.files files root defaultId).holds id = false ∧
      ∃ e', (Source.files files root defaultId).load id = .error e' := by
  refine ⟨?_, ?_⟩
  · show files.isFile (fileOf root id) = false
    simp [FileTree.isFile, h]
  · show ∃ e', fileLoad files root id = .error e'
    have hread : files.readText (fileOf root id) = .error e := by simp [FileTree.readText, h]
    simp only [fileLoad, hread]
    split <;> simp_all

end Source

/-- Of an identifier only the language that it tells shows in what is read. -/
theorem Document.read_eq_ok_iff_of_formatOf {a b : String} (h : formatOf a = formatOf b)
    (text : String) (entries : List Entry) :
    read a text = .ok entries ↔ read b text = .ok entries := by
  simp only [read, h]
  split
  · rfl
  · cases entries? (formatOf b) text <;> simp

/-! ## Rules of files -/

namespace Loader

variable [PatternEngine]

theorem rules_resolve_empty (s : Source) (id : String) (rules : RuleSet) :
    (resolve s Cache.empty (.named id)).rules.map SharedRules.rules = some rules ↔
      Known.Yields s (s.canonicalId id) rules := by
  have hfound : (resolve s Cache.empty (.named id)).rules.map SharedRules.rules =
      s.rulesOf? (s.canonicalId id) := rules_resolveNamed id
  rw [hfound]
  exact Source.rulesOf?_eq_some_iff

/-- With nothing kept so far, asking for the rules of an identifier that leads somewhere finds those
of the file that is there, read in the language told by the real path.  If the identifier tells the
same language, rules are found just if there is a document, it can be loaded and rules come of it.
Asking for an identifier without a real path is asking for its folded path, although there is no
document if the identifier leads nowhere. -/
theorem rules_of_file (files : FileTree) (root defaultId : Option String) (id : String) :
    let s := Source.files files root defaultId
    let path := Source.fileOf root id
    let found := (resolve s Cache.empty (.named id)).rules.map SharedRules.rules
    (∀ real, files.realPath? path = some real →
        (∀ rules, found = some rules ↔ s.holds id = true ∧ ∃ text entries,
          files.readText path = .ok text ∧ Document.read real text = .ok entries ∧
            (Compiled.ofEntries entries).rules = rules ∧ rules ≠ []) ∧
        (Document.formatOf real = Document.formatOf id →
          ∀ rules, found = some rules ↔ Known.Yields s id rules)) ∧
      (files.realPath? path = none →
        ∀ rules, found = some rules ↔ Known.Yields s (Path.clean path) rules) ∧
      (∀ e, files.walk path = .error e → s.holds id = false ∧ ∃ e', s.load id = .error e') := by
  intro s path found
  have hfound (rules : RuleSet) : found = some rules ↔ Known.Yields s (s.canonicalId id) rules :=
    rules_resolve_empty s id rules
  refine ⟨?_, ?_, ?_⟩
  · intro real hreal
    have hname : s.canonicalId id = real := Source.fileId_of_realPath? hreal
    have hsame : files.walk (Source.fileOf root real) = files.walk path := by
      rw [Source.fileOf_of_realPath? hreal]
      exact FileTree.walk_of_realPath? hreal
    have hholds : s.holds real = s.holds id := FileTree.isFile_congr hsame
    have hload (entries : List Entry) : s.load real = .ok entries ↔
        ∃ text, files.readText path = .ok text ∧ Document.read real text = .ok entries := by
      rw [← FileTree.readText_congr hsame]
      exact Source.fileLoad_eq_ok_iff
    refine ⟨?_, ?_⟩
    · intro rules
      rw [hfound, hname, Known.Yields, hholds]
      simp only [hload]
      grind
    · intro hformat rules
      have hload' (entries : List Entry) : s.load real = .ok entries ↔ s.load id = .ok entries := by
        rw [hload]
        simp only [Document.read_eq_ok_iff_of_formatOf hformat]
        exact Source.fileLoad_eq_ok_iff.symm
      rw [hfound, hname, Known.Yields, Known.Yields, hholds]
      simp only [hload']
  · intro hnone rules
    rw [hfound]
    have hname : s.canonicalId id = Path.clean path := Source.fileId_of_none hnone
    rw [hname]
  · intro e hwalk
    exact Source.no_document_of_walk hwalk defaultId

end Loader

/-- A link whose name ends otherwise than that of the file: the document cannot be loaded by the
name of the link, and there are rules for it all the same. -/
theorem Loader.rules_behind_link :
    let s := Source.files
      ⟨[(["r"], .directory), (["r", "y.yaml"], .file "inbox: star".toUTF8),
        (["r", "y.json"], .link "y.yaml")]⟩ (some "/r") none
    s.holds "y.json" = true ∧ (s.load "y.json").isOk = false ∧
      (Loader.resolve s Cache.empty (.named "y.json")).rules.map (fun r => r.rules.map Rule.text) =
        some ["inbox => star"] := by
  decide +kernel

/-- The directory in the way is not there, so that there is no document, and there are rules for it
all the same. -/
example :
    let s := Source.files
      ⟨[(["r"], .directory), (["r", "y.yaml"], .file "inbox: star".toUTF8)]⟩ (some "/r") none
    s.holds "gone/../y.yaml" = false ∧ (s.load "gone/../y.yaml").isOk = false ∧
      (Loader.resolve s Cache.empty (.named "gone/../y.yaml")).rules.isSome = true := by
  decide +kernel

end MailRules

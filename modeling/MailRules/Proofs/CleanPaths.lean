import MailRules.Proofs.FileIds

/-!
# CleanPaths — paths folded in parts

To fold a path is to take its steps one after the other, so that a path may be folded in parts, and
parts that lead back to where they start may as well be left out.  This file defines:

* `Path.place`, the place below the root that a path leads to if there are no links;
* `Path.IsClean`, the absolute paths that go to names only;
* `Path.IsDetour`, the texts that lead back to where they start;

and proves:

* `Path.place_append_slash`, by which the second part of a path goes on where the first part ends;
* `Path.clean_between`, by which a detour between two parts of a path is folded away;
* `Path.clean_up_of_root`, by which a step up from the root stays there;
* `Path.isClean_clean` and `Path.clean_of_isClean`, by which folding leads to the clean paths and
  keeps them;
* `Source.unresolved_canonicalId`, which says all this of the names of documents that cannot be
  found.
-/

namespace MailRules
namespace Path

/-! ## Paths in parts -/

theorem steps_append_slash (path more : String) :
    steps (path ++ "/" ++ more) = steps path ++ steps more := by
  have hchars : (path ++ "/" ++ more).toList = path.toList ++ '/' :: more.toList := by simp
  simp only [steps, hchars, segments_append, List.map_append]

theorem fold_append (steps more : List Step) : ∀ place : List String,
    fold place (steps ++ more) = fold (fold place steps) more := by
  induction steps with
  | nil =>
      intro place
      rfl
  | cons s steps ih =>
      intro place
      cases s with
      | stay => exact ih place
      | up => exact ih place.dropLast
      | name n => exact ih (place ++ [n])

/-- The place that a path leads to if nothing is known about the files. -/
def place (path : String) : List String := fold [] (steps path)

theorem isName_of_mem_place (path : String) : ∀ n ∈ place path, IsName n :=
  isName_of_mem_fold (steps path) (proper_steps path) [] (by simp)

/-- The second part of a path is taken from where the first part leads. -/
theorem place_append_slash (path more : String) :
    place (path ++ "/" ++ more) = fold (place path) (steps more) := by
  simp only [place, steps_append_slash, fold_append]

theorem clean_eq_text {path : String} (hne : path ≠ "") : clean path = text (place path) := by
  rw [clean, if_neg hne, place]

theorem clean_parts (path more : String) :
    clean (path ++ "/" ++ more) = text (fold (place path) (steps more)) := by
  have hne : path ++ "/" ++ more ≠ "" := by simp
  rw [clean_eq_text hne, place_append_slash]

theorem place_clean (path : String) : place (clean path) = place path := by
  by_cases hne : path = ""
  · subst hne
    rfl
  · rw [clean_eq_text hne]
    exact fold_steps_text (isName_of_mem_place path)

/-- A path may be folded before more is added to it. -/
theorem clean_append_slash (path more : String) :
    clean (clean path ++ "/" ++ more) = clean (path ++ "/" ++ more) := by
  rw [clean_parts, clean_parts, place_clean]

/-! ## Detours -/

/-- A text that leads back to where it starts. -/
def IsDetour (detour : String) : Prop := ∀ place, fold place (steps detour) = place

theorem isDetour_empty : IsDetour "" := fun _ => rfl

theorem isDetour_stay : IsDetour "." := by
  have hsteps : steps "." = [.stay] := by decide
  intro place
  rw [hsteps]
  rfl

theorem isDetour_back {n : String} (h : IsName n) : IsDetour (n ++ "/" ++ "..") := by
  have hup : steps ".." = [.up] := by decide
  have hname : steps n = [.name n] := by
    simp [steps, segments_of_not_mem h.not_mem, stepOf_toList h]
  intro place
  rw [steps_append_slash, hname, hup]
  simp [fold]

/-- The text of a detour between two slashes, in one piece. -/
theorem clean_between {detour : String} (h : IsDetour detour) (before after : String) :
    clean (before ++ ("/" ++ detour ++ "/") ++ after) = clean (before ++ "/" ++ after) := by
  have hparts :
      before ++ ("/" ++ detour ++ "/") ++ after = before ++ "/" ++ detour ++ "/" ++ after := by
    simp only [String.append_assoc]
  have hthere : place (before ++ "/" ++ detour) = place before := by
    rw [place_append_slash, h]
  calc
    clean (before ++ ("/" ++ detour ++ "/") ++ after)
        = text (fold (place (before ++ "/" ++ detour)) (steps after)) := by rw [hparts, clean_parts]
    _ = text (fold (place before) (steps after)) := by rw [hthere]
    _ = clean (before ++ "/" ++ after) := (clean_parts before after).symm

theorem clean_stay_between (before after : String) :
    clean (before ++ "/./" ++ after) = clean (before ++ "/" ++ after) :=
  clean_between isDetour_stay before after

theorem clean_slash_between (before after : String) :
    clean (before ++ "//" ++ after) = clean (before ++ "/" ++ after) :=
  clean_between isDetour_empty before after

theorem clean_back_between {n : String} (h : IsName n) (before after : String) :
    clean (before ++ "/" ++ n ++ "/../" ++ after) = clean (before ++ "/" ++ after) := by
  have hback : before ++ "/" ++ n ++ "/../" ++ after =
      before ++ ("/" ++ (n ++ "/" ++ "..") ++ "/") ++ after := by
    simp only [String.append_assoc]
    rfl
  rw [hback]
  exact clean_between (isDetour_back h) before after

/-! ## Above the root -/

/-- A path that folds to the root leads there. -/
theorem place_of_clean_eq_root {path : String} (h : clean path = "/") : place path = [] := by
  rw [← place_clean path, h]
  decide

theorem place_up_of_root {path : String} (h : clean path = "/") :
    place (path ++ "/" ++ "..") = [] := by
  have hup : steps ".." = [.up] := by decide
  have hroot : place path = [] := place_of_clean_eq_root h
  rw [place_append_slash, hroot, hup]
  rfl

/-- Above the root is the root. -/
theorem clean_up_of_root {path : String} (h : clean path = "/") : clean (path ++ "/..") = "/" := by
  have hup : path ++ "/.." = path ++ "/" ++ ".." := by
    rw [String.append_assoc]
    rfl
  have hne : path ++ "/" ++ ".." ≠ "" := by simp
  rw [hup, clean_eq_text hne, place_up_of_root h]
  decide

theorem clean_through_up_of_root {path : String} (h : clean path = "/") (more : String) :
    clean (path ++ "/../" ++ more) = clean (path ++ "/" ++ more) := by
  have hup : path ++ "/../" ++ more = path ++ "/" ++ ".." ++ "/" ++ more := by
    simp only [String.append_assoc]
    rfl
  have hthere : place (path ++ "/" ++ "..") = place path :=
    (place_up_of_root h).trans (place_of_clean_eq_root h).symm
  rw [hup, clean_parts, clean_parts, hthere]

/-! ## Clean paths -/

/-- An absolute path of names: the root, or a slash in front of every name and none behind the
last. -/
structure IsClean (path : String) : Prop where
  absolute : isAbsolute path = true
  names : path ≠ "/" → ∀ s ∈ (segments path.toList).tail, IsName (String.ofList s)
  last_ne_slash : path ≠ "/" → path.toList.getLast? ≠ some '/'

/-- Put together with slashes the parts of a text are the text again. -/
theorem intercalate_segments (cs : List Char) : List.intercalate ['/'] (segments cs) = cs := by
  induction cs with
  | nil => rfl
  | cons c cs ih =>
      rcases List.exists_cons_of_ne_nil (segments_ne_nil cs) with ⟨first, rest, hcs⟩
      rw [hcs] at ih
      by_cases hc : c = '/'
      · subst hc
        rw [segments_slash, hcs, List.intercalate_cons_cons, ih]
        rfl
      · rw [segments_cons_of_ne hc hcs]
        cases rest with
        | nil =>
            obtain rfl : first = cs := by simpa using ih
            simp
        | cons s rest =>
            rw [List.intercalate_cons_cons] at ih ⊢
            simp [← ih]

theorem segments_eq_of_isAbsolute {path : String} (h : isAbsolute path = true) :
    ∃ cs, path.toList = '/' :: cs ∧ segments path.toList = [] :: segments cs := by
  have hhead : path.toList.head? = some '/' := by simpa [isAbsolute] using h
  rcases List.head?_eq_some_iff.1 hhead with ⟨cs, hcs⟩
  exact ⟨cs, hcs, by rw [hcs, segments_slash]⟩

/-- A clean path is the path of a place. -/
theorem exists_eq_text_of_isClean {path : String} (h : IsClean path) :
    ∃ place, path = text place ∧ ∀ n ∈ place, IsName n := by
  by_cases hroot : path = "/"
  · exact ⟨[], by rw [hroot]; decide, by simp⟩
  · rcases segments_eq_of_isAbsolute h.absolute with ⟨cs, hchars, hsegments⟩
    refine ⟨(segments cs).map String.ofList, ?_, ?_⟩
    · rw [← String.toList_inj, hchars]
      simp [text, intercalate_segments]
    · have hnames := h.names hroot
      rw [hsegments] at hnames
      simpa using hnames

theorem clean_of_isClean {path : String} (h : IsClean path) : clean path = path := by
  rcases exists_eq_text_of_isClean h with ⟨place, rfl, hnames⟩
  exact clean_text hnames

theorem isClean_text {place : List String} (h : ∀ n ∈ place, IsName n) : IsClean (text place) := by
  have hnames : text place ≠ "/" → ∀ s ∈ (segments (text place).toList).tail,
      IsName (String.ofList s) := by
    intro hroot
    have hne : place ≠ [] := by
      rintro rfl
      exact hroot (by decide)
    rcases List.exists_cons_of_ne_nil hne with ⟨n, rest, rfl⟩
    have hlist : (text (n :: rest)).toList = '/' :: (String.intercalate "/" (n :: rest)).toList := by
      simp [text]
    rw [hlist, segments_slash, List.tail_cons, segments_names n rest h]
    intro s hs
    rcases List.mem_map.1 hs with ⟨n', hn', rfl⟩
    rw [String.ofList_toList]
    exact h n' hn'
  refine ⟨isAbsolute_text place, hnames, ?_⟩
  intro hroot hlast
  -- behind a slash at the end there is an empty part, which is no name
  rcases List.getLast?_eq_some_iff.1 hlast with ⟨cs, hcs⟩
  rcases List.exists_cons_of_ne_nil (segments_ne_nil cs) with ⟨first, rest, hfirst⟩
  have hempty : [] ∈ (segments (text place).toList).tail := by
    rw [hcs, segments_append, hfirst]
    simp [segments]
  exact (hnames hroot [] hempty).ne_empty rfl

theorem isClean_clean {path : String} (hne : path ≠ "") : IsClean (clean path) := by
  rw [clean_eq_text hne]
  exact isClean_text (isName_of_mem_place path)

end Path

/-! ## Names of documents that cannot be found -/

namespace Source

theorem fileOf_of_isAbsolute {path : String} (h : Path.isAbsolute path = true)
    (root : Option String) : fileOf root path = path := by
  cases root with
  | none => rfl
  | some directory => exact if_pos h

/-- A document that cannot be found is known by the folded path, be it looked for by an absolute
path or below a root.  Folding leaves a clean path, and a clean path as it is.  It may be done
before more is added to the path; above the root it stays at the root; and nothing is changed by one
more slash at a slash, by a step that stays, or by a name and the step back. -/
theorem unresolved_canonicalId (files : FileTree) (root defaultId : Option String) (id : String)
    (habsolute : Path.isAbsolute (fileOf root id) = true) :
    let s := Source.files files root defaultId
    let path := fileOf root id
    (files.realPath? path = none → s.canonicalId id = Path.clean path) ∧
      (∀ other, Path.isAbsolute other = true → files.realPath? other = none →
        s.canonicalId other = Path.clean other) ∧
      Path.IsClean (Path.clean path) ∧
      Path.clean (Path.clean path) = Path.clean path ∧
      (∀ other, Path.IsClean other → Path.clean other = other) ∧
      (∀ more, Path.clean (Path.clean path ++ "/" ++ more) = Path.clean (path ++ "/" ++ more)) ∧
      (Path.clean path = "/" → Path.clean (path ++ "/..") = "/" ∧
        ∀ more, Path.clean (path ++ "/../" ++ more) = Path.clean (path ++ "/" ++ more)) ∧
      ∀ before after, path = before ++ "/" ++ after →
        Path.clean (before ++ "/./" ++ after) = Path.clean path ∧
          Path.clean (before ++ "//" ++ after) = Path.clean path ∧
          ∀ n, Path.IsName n →
            Path.clean (before ++ "/" ++ n ++ "/../" ++ after) = Path.clean path := by
  intro s path
  have hne : path ≠ "" := by
    intro hempty
    have hstart : Path.isAbsolute path = true := habsolute
    rw [hempty] at hstart
    exact absurd hstart (by decide)
  have hother (other : String) (hstart : Path.isAbsolute other = true)
      (hnone : files.realPath? other = none) : s.canonicalId other = Path.clean other := by
    have hfile : fileOf root other = other := fileOf_of_isAbsolute hstart root
    have hname : fileId files root other = Path.clean (fileOf root other) :=
      fileId_of_none (by rw [hfile]; exact hnone)
    rwa [hfile] at hname
  refine ⟨fileId_of_none, hother, Path.isClean_clean hne, Path.clean_clean path,
    fun other => Path.clean_of_isClean, Path.clean_append_slash path, ?_, ?_⟩
  · intro hroot
    exact ⟨Path.clean_up_of_root hroot, Path.clean_through_up_of_root hroot⟩
  · intro before after hpath
    rw [hpath]
    exact ⟨Path.clean_stay_between before after, Path.clean_slash_between before after,
      fun n hn => Path.clean_back_between hn before after⟩

/-- A relative path below a root, with a step that stays and a step back. -/
theorem unresolved_canonicalId_below :
    let s := Source.files FileTree.empty (some "/r") none
    let path := fileOf (some "/r") "a/./b/../c.yaml"
    Path.isAbsolute path = true ∧ s.canonicalId "a/./b/../c.yaml" = "/r/a/c.yaml" ∧
      Path.clean ("/r/a/c.yaml" ++ "/" ++ "../d.yaml") = Path.clean (path ++ "/" ++ "../d.yaml") := by
  intro s path
  have habsolute : Path.isAbsolute path = true := by decide +kernel
  have hfolded : Path.clean path = "/r/a/c.yaml" := by decide +kernel
  rcases unresolved_canonicalId FileTree.empty (some "/r") none "a/./b/../c.yaml" habsolute with
    ⟨hname, _, _, _, _, hmore, _⟩
  rw [← hfolded]
  exact ⟨habsolute, hname (by decide +kernel), hmore "../d.yaml"⟩

end Source
end MailRules

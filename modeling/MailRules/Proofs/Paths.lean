import MailRules.Files.Path

/-!
# Paths — writing a place and reading it back

A path is written from the names on the way to a place and read as steps.  This file defines
`Path.IsName`, the texts that stand for themselves between slashes, and `Path.Proper`, the steps
that go to such texts only, and proves:

* `Path.proper_steps`, by which every path is read as proper steps;
* `Path.steps_text`, by which the path of a place is read as the names on the way;
* `Path.clean_text`, by which folding the path of a place changes nothing;
* `Path.exists_clean_eq_text`, by which every path that is not empty folds to the path of some
  place, so that by `Path.clean_clean` nothing is left to fold.
-/

namespace MailRules
namespace Path

/-! ## Segments -/

theorem segments_ne_nil (cs : List Char) : segments cs ≠ [] := by
  cases cs with
  | nil => simp [segments]
  | cons c cs =>
      simp only [segments]
      split
      · simp
      · split <;> simp

theorem segments_slash (cs : List Char) : segments ('/' :: cs) = [] :: segments cs := by
  cases hcs : segments cs with
  | nil => exact absurd hcs (segments_ne_nil cs)
  | cons s rest => simp [segments, hcs]

theorem segments_cons_of_ne {c : Char} (hc : c ≠ '/') {cs s : List Char} {rest : List (List Char)}
    (h : segments cs = s :: rest) : segments (c :: cs) = (c :: s) :: rest := by
  simp [segments, h, hc]

theorem not_mem_of_mem_segments (cs : List Char) : ∀ s ∈ segments cs, '/' ∉ s := by
  induction cs with
  | nil => simp [segments]
  | cons c cs ih =>
      intro s hs
      by_cases hc : c = '/'
      · subst hc
        rw [segments_slash] at hs
        rcases List.mem_cons.1 hs with rfl | hs
        · simp
        · exact ih s hs
      · -- the character goes to the first segment
        obtain ⟨first, rest, hcs⟩ := List.exists_cons_of_ne_nil (segments_ne_nil cs)
        rw [segments_cons_of_ne hc hcs] at hs
        rw [hcs] at ih
        rcases List.mem_cons.1 hs with rfl | hs
        · have hfirst := ih first List.mem_cons_self
          simp [Ne.symm hc, hfirst]
        · exact ih s (List.mem_cons_of_mem _ hs)

theorem segments_of_not_mem {s : List Char} (h : '/' ∉ s) : segments s = [s] := by
  induction s with
  | nil => rfl
  | cons c s ih =>
      rw [List.mem_cons, not_or] at h
      exact segments_cons_of_ne (Ne.symm h.1) (ih h.2)

theorem segments_append (cs ds : List Char) :
    segments (cs ++ '/' :: ds) = segments cs ++ segments ds := by
  induction cs with
  | nil => exact segments_slash ds
  | cons c cs ih =>
      by_cases hc : c = '/'
      · subst hc
        simp only [List.cons_append, segments_slash, ih]
      · obtain ⟨first, rest, hcs⟩ := List.exists_cons_of_ne_nil (segments_ne_nil cs)
        have hall : segments (cs ++ '/' :: ds) = first :: (rest ++ segments ds) := by
          rw [ih, hcs, List.cons_append]
        calc
          segments (c :: cs ++ '/' :: ds) = (c :: first) :: (rest ++ segments ds) :=
            segments_cons_of_ne hc hall
          _ = segments (c :: cs) ++ segments ds := by
            rw [segments_cons_of_ne hc hcs, List.cons_append]

theorem segments_append_slash {s : List Char} (h : '/' ∉ s) (cs : List Char) :
    segments (s ++ '/' :: cs) = s :: segments cs := by
  rw [segments_append, segments_of_not_mem h, List.singleton_append]

/-! ## Names -/

/-- A text that stands for itself between slashes. -/
structure IsName (n : String) : Prop where
  not_mem : '/' ∉ n.toList
  ne_empty : n ≠ ""
  ne_stay : n ≠ "."
  ne_up : n ≠ ".."

theorem stepOf_toList {n : String} (h : IsName n) : stepOf n.toList = .name n := by
  have hempty : n.toList ≠ [] := fun he => h.ne_empty (String.toList_injective he)
  have hstay : n.toList ≠ ['.'] := fun he => h.ne_stay (String.toList_injective he)
  have hup : n.toList ≠ ['.', '.'] := fun he => h.ne_up (String.toList_injective he)
  simp [stepOf, hempty, hstay, hup]

theorem isName_of_stepOf {s : List Char} {n : String} (hs : '/' ∉ s) (h : stepOf s = .name n) :
    IsName n := by
  unfold stepOf at h
  split at h
  · cases h
  · next hstay =>
      split at h
      · cases h
      · next hup =>
          rw [not_or] at hstay
          obtain rfl : String.ofList s = n := Step.name.inj h
          refine ⟨by simpa using hs, ?_, ?_, ?_⟩
          · exact fun he => hstay.1 (by simpa using congrArg String.toList he)
          · exact fun he => hstay.2 (by simpa using congrArg String.toList he)
          · exact fun he => hup (by simpa using congrArg String.toList he)

/-- Steps that go to such texts only. -/
def Proper (steps : List Step) : Prop := ∀ n, .name n ∈ steps → IsName n

/-- Whatever a path is, the steps it is read as are proper ones. -/
theorem proper_steps (path : String) : Proper (steps path) := by
  intro n hn
  rcases List.mem_map.1 hn with ⟨s, hs, hstep⟩
  exact isName_of_stepOf (not_mem_of_mem_segments path.toList s hs) hstep

theorem Proper.tail {s : Step} {rest : List Step} (h : Proper (s :: rest)) : Proper rest :=
  fun n hn => h n (List.mem_cons_of_mem _ hn)

theorem Proper.append {steps more : List Step} (h : Proper steps) (hmore : Proper more) :
    Proper (steps ++ more) := by
  intro n hn
  rcases List.mem_append.1 hn with hn | hn
  · exact h n hn
  · exact hmore n hn

/-! ## Paths of places -/

theorem isAbsolute_text (place : List String) : isAbsolute (text place) = true := by
  simp [isAbsolute, text]

theorem text_ne_empty (place : List String) : text place ≠ "" := by
  intro h
  have hlist := congrArg String.toList h
  simp [text] at hlist

/-- The names between slashes are parted at the slashes again. -/
theorem segments_names (n : String) (place : List String) (h : ∀ n' ∈ n :: place, IsName n') :
    segments (String.intercalate "/" (n :: place)).toList = (n :: place).map String.toList := by
  induction place generalizing n with
  | nil =>
      have hn := h n List.mem_cons_self
      simp [segments_of_not_mem hn.not_mem]
  | cons n' place ih =>
      have hn := h n List.mem_cons_self
      have hrest := ih n' fun n'' hn'' => h n'' (List.mem_cons_of_mem _ hn'')
      have htext : (String.intercalate "/" (n :: n' :: place)).toList =
          n.toList ++ '/' :: (String.intercalate "/" (n' :: place)).toList := by
        rw [String.intercalate_cons_cons]
        simp
      rw [htext, segments_append_slash hn.not_mem, hrest]
      rfl

theorem segments_intercalate (n : String) (place : List String)
    (h : ∀ n' ∈ n :: place, IsName n') :
    (segments (String.intercalate "/" (n :: place)).toList).map stepOf = (n :: place).map .name := by
  rw [segments_names n place h, List.map_map]
  exact List.map_congr_left fun n' hn' => stepOf_toList (h n' hn')

/-- The path of a place begins at the root and goes to one name after the other. -/
theorem steps_text {place : List String} (hne : place ≠ []) (h : ∀ n ∈ place, IsName n) :
    steps (text place) = .stay :: place.map .name := by
  obtain ⟨n, rest, rfl⟩ := List.exists_cons_of_ne_nil hne
  have hlist : (text (n :: rest)).toList = '/' :: (String.intercalate "/" (n :: rest)).toList := by
    simp [text]
  calc
    steps (text (n :: rest))
        = (segments ('/' :: (String.intercalate "/" (n :: rest)).toList)).map stepOf := by
          rw [steps, hlist]
    _ = .stay :: (segments (String.intercalate "/" (n :: rest)).toList).map stepOf := by
          rw [segments_slash]
          rfl
    _ = .stay :: (n :: rest).map .name := by
          rw [segments_intercalate n rest h]

theorem steps_text_nil : steps (text []) = [.stay, .stay] := by
  decide +kernel

/-- A path that starts at the root is where it is seen from. -/
theorem join_text (directory : String) (place : List String) :
    join directory (text place) = text place := by
  simp [join, isAbsolute_text]

/-- Nothing but empty texts make an empty path. -/
theorem eq_empty_of_join {directory path : String} (h : join directory path = "") :
    directory = "" ∧ path = "" := by
  unfold join at h
  split at h
  · next habsolute =>
      subst h
      exact absurd habsolute (by decide)
  · split at h
    · exact String.append_eq_empty_iff.1 h
    · simp at h

/-! ## Folding -/

theorem fold_names (names : List String) : ∀ place : List String,
    fold place (names.map .name) = place ++ names := by
  induction names with
  | nil =>
      intro place
      simp [fold]
  | cons n names ih =>
      intro place
      have hrest := ih (place ++ [n])
      simpa [fold] using hrest

theorem isName_of_mem_fold (steps : List Step) (hsteps : Proper steps) :
    ∀ place : List String, (∀ n ∈ place, IsName n) → ∀ n ∈ fold place steps, IsName n := by
  induction steps with
  | nil =>
      intro place hplace
      exact hplace
  | cons s steps ih =>
      intro place hplace
      cases s with
      | stay => exact ih hsteps.tail place hplace
      | up => exact ih hsteps.tail place.dropLast fun n hn => hplace n (List.dropLast_subset _ hn)
      | name m =>
          refine ih hsteps.tail (place ++ [m]) ?_
          intro n hn
          rcases List.mem_append.1 hn with hn | hn
          · exact hplace n hn
          · obtain rfl : n = m := by simpa using hn
            exact hsteps n List.mem_cons_self

theorem fold_steps_text {place : List String} (h : ∀ n ∈ place, IsName n) :
    fold [] (steps (text place)) = place := by
  by_cases hne : place = []
  · subst hne
    rw [steps_text_nil]
    rfl
  · rw [steps_text hne h]
    exact fold_names place []

theorem clean_text {place : List String} (h : ∀ n ∈ place, IsName n) :
    clean (text place) = text place := by
  rw [clean, if_neg (text_ne_empty place), fold_steps_text h]

/-- Folding leaves the path of a place, made of the names that the path goes to. -/
theorem exists_clean_eq_text {path : String} (hne : path ≠ "") :
    ∃ place, clean path = text place ∧ ∀ n ∈ place, IsName n := by
  refine ⟨fold [] (steps path), by rw [clean, if_neg hne], ?_⟩
  exact isName_of_mem_fold (steps path) (proper_steps path) [] (by simp)

theorem clean_clean (path : String) : clean (clean path) = clean path := by
  by_cases hne : path = ""
  · subst hne
    rfl
  · rcases exists_clean_eq_text hne with ⟨place, hplace, hnames⟩
    rw [hplace, clean_text hnames]

end Path
end MailRules

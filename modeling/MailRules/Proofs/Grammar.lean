import MailRules.Descriptor

/-!
# Grammar — the written form of a token

A hyphen is both the mark of inversion and a letter of keywords, so that reading has to tell the two
apart and writing has to come out as something that reads the same.  This file defines:

* `Descriptor.KeywordLetter`, the letters of keywords, and `Descriptor.IsToken`, the grammar of
  tokens;
* `Descriptor.ofRun`, what a token stands for, and `Descriptor.IsLegible`, the descriptors that some
  token stands for;

and proves `Descriptor.parse?_eq_some_iff`, by which reading and writing are inverse to each other
between the tokens and the legible descriptors.  `parse_exact` puts this in terms of the grammar.
-/

namespace MailRules
namespace Descriptor

/-! ## The grammar -/

def KeywordLetter (c : Char) : Prop :=
  ('A' ≤ c ∧ c ≤ 'Z') ∨ ('a' ≤ c ∧ c ≤ 'z') ∨ c = '_' ∨ c = '-'

/-- What follows the keyword: nothing, or a colon and any text. -/
def afterKeyword : Option String → String
  | none => ""
  | some parameter => ":" ++ parameter

/-- A token is a run of keyword letters and what follows it.  A colon is no keyword letter, so that
the run is as long as it can be. -/
structure IsToken (run : String) (parameter : Option String) (token : String) : Prop where
  nonempty : run ≠ ""
  letters : ∀ c ∈ run.toList, KeywordLetter c
  written : token = run ++ afterKeyword parameter

/-- A keyword that begins with a hyphen would be taken for an inverted one, unless it is already
inverted or has no other letter. -/
structure IsLegible (d : Descriptor) : Prop where
  nonempty : d.keyword ≠ ""
  letters : ∀ c ∈ d.keyword.toList, KeywordLetter c
  upright : d.inverted = true ∨ d.keyword = "-" ∨ d.keyword.toList.head? ≠ some '-'

theorem isKeywordChar_iff {c : Char} : isKeywordChar c = true ↔ KeywordLetter c := by
  have hupper : c.isUpper = decide (c.val ≥ 'A'.val ∧ c.val ≤ 'Z'.val) := rfl
  have hlower : c.isLower = (decide (c.val ≥ 'a'.val) && decide (c.val ≤ 'z'.val)) := rfl
  have halpha : c.isAlpha = (c.isUpper || c.isLower) := rfl
  simp only [isKeywordChar, KeywordLetter, halpha, hupper, hlower, Bool.or_eq_true, Bool.and_eq_true,
    decide_eq_true_eq, beq_iff_eq, Char.le_def, ge_iff_le, or_assoc]

/-! ## Splitting -/

@[simp] theorem toList_afterKeyword_none : (afterKeyword none).toList = [] := rfl

@[simp] theorem toList_afterKeyword_some (p : String) :
    (afterKeyword (some p)).toList = ':' :: p.toList := by
  simp [afterKeyword]

/-- Nothing that follows a keyword begins with a letter of it. -/
theorem takeWhile_afterKeyword (parameter : Option String) :
    (afterKeyword parameter).toList.takeWhile isKeywordChar = [] := by
  have hcolon : isKeywordChar ':' = false := by decide
  cases parameter with
  | none => rfl
  | some p => simp [hcolon]

theorem split?_of_isToken {run token : String} {parameter : Option String}
    (h : IsToken run parameter token) : split? token.toList = some (run, parameter) := by
  have hletters : ∀ c ∈ run.toList, isKeywordChar c = true := by
    intro c hc
    exact isKeywordChar_iff.2 (h.letters c hc)
  have hchars : token.toList = run.toList ++ (afterKeyword parameter).toList := by
    simp [h.written]
  have hrun : token.toList.takeWhile isKeywordChar = run.toList := by
    rw [hchars, List.takeWhile_append_of_pos hletters, takeWhile_afterKeyword, List.append_nil]
  have hrest : token.toList.dropWhile isKeywordChar = (afterKeyword parameter).toList := by
    have hsplit := List.takeWhile_append_dropWhile (p := isKeywordChar) (l := token.toList)
    rw [hrun] at hsplit
    exact List.append_cancel_left (hsplit.trans hchars)
  have hne : run.toList ≠ [] := by
    simpa using h.nonempty
  rcases List.exists_cons_of_ne_nil hne with ⟨c, cs, hcs⟩
  have hback : String.ofList (c :: cs) = run := by
    rw [← hcs, String.ofList_toList]
  cases parameter with
  | none => simp only [split?, hrun, hrest, hcs, toList_afterKeyword_none, hback]
  | some p =>
      simp only [split?, hrun, hrest, hcs, toList_afterKeyword_some, hback, String.ofList_toList]

theorem isToken_of_split? {cs : List Char} {run : String} {parameter : Option String}
    (h : split? cs = some (run, parameter)) : IsToken run parameter (String.ofList cs) := by
  have hsplit := List.takeWhile_append_dropWhile (p := isKeywordChar) (l := cs)
  have hletters : ∀ c ∈ cs.takeWhile isKeywordChar, KeywordLetter c := by
    intro c hc
    exact isKeywordChar_iff.1 (List.all_eq_true.1 List.all_takeWhile c hc)
  cases hrun : cs.takeWhile isKeywordChar with
  | nil => simp [split?, hrun] at h
  | cons letter letters =>
      rw [hrun] at hsplit hletters
      cases hrest : cs.dropWhile isKeywordChar with
      | nil =>
          have hparts : String.ofList (letter :: letters) = run ∧ none = parameter := by
            simpa [split?, hrun, hrest] using h
          rcases hparts with ⟨rfl, rfl⟩
          rw [hrest, List.append_nil] at hsplit
          refine ⟨by simp, by simpa using hletters, ?_⟩
          simp [afterKeyword, hsplit]
      | cons mark rest =>
          by_cases hmark : mark = ':'
          · subst hmark
            have hparts :
                String.ofList (letter :: letters) = run ∧ some (String.ofList rest) = parameter := by
              simpa [split?, hrun, hrest] using h
            rcases hparts with ⟨rfl, rfl⟩
            rw [hrest] at hsplit
            refine ⟨by simp, by simpa using hletters, ?_⟩
            rw [← String.toList_inj]
            simp [afterKeyword, ← hsplit]
          · simp [split?, hrun, hrest, hmark] at h

/-- Splitting accepts the tokens of the grammar and nothing else. -/
theorem split?_eq_some_iff {cs : List Char} {run : String} {parameter : Option String} :
    split? cs = some (run, parameter) ↔ IsToken run parameter (String.ofList cs) := by
  constructor
  · exact isToken_of_split?
  · intro h
    have hsplit := split?_of_isToken h
    rwa [String.toList_ofList] at hsplit

theorem ofChars?_eq_some_iff {cs : List Char} {d : Descriptor} :
    ofChars? cs = some d ↔
      (d.inverted = true ∧ ∃ rest, cs = '-' :: rest ∧ split? rest = some (d.keyword, d.parameter)) ∨
        (d.inverted = false ∧ split? cs = some (d.keyword, d.parameter) ∧
          ∀ rest, cs = '-' :: rest → split? rest = none) := by
  rcases d with ⟨inverted, keyword, parameter⟩
  by_cases hmark : ∃ rest, cs = '-' :: rest
  · rcases hmark with ⟨rest, rfl⟩
    cases hrest : split? rest with
    | none => cases inverted <;> simp [ofChars?, hrest]
    | some p => cases inverted <;> simp [ofChars?, hrest, Prod.ext_iff]
  · have hplain : ofChars? cs = (split? cs).map fun p => ⟨false, p.1, p.2⟩ := by
      unfold ofChars?
      split
      · next rest => exact absurd ⟨rest, rfl⟩ hmark
      · rfl
    cases inverted <;> simp_all

/-- What follows a keyword is no token itself. -/
theorem split?_afterKeyword (parameter : Option String) :
    split? (afterKeyword parameter).toList = none := by
  simp only [split?, takeWhile_afterKeyword]

/-! ## Writing -/

/-- The run that inversion and keyword are written as. -/
def run (d : Descriptor) : String := (if d.inverted then "-" else "") ++ d.keyword

theorem text_eq_run (d : Descriptor) : d.text = d.run ++ afterKeyword d.parameter := by
  simp only [text, write, run]
  cases d.parameter <;> rfl

theorem isToken_text {d : Descriptor} (h : IsLegible d) : IsToken d.run d.parameter d.text := by
  refine ⟨?_, ?_, text_eq_run d⟩
  · simpa [run] using fun _ => h.nonempty
  · intro c hc
    have hc' : c ∈ (if d.inverted then "-" else "").toList ∨ c ∈ d.keyword.toList := by
      simpa [run] using hc
    rcases hc' with hc' | hc'
    · have hhyphen : c = '-' := by
        cases hinverted : d.inverted <;> simp [hinverted] at hc'
        exact hc'
      exact .inr (.inr (.inr hhyphen))
    · exact h.letters c hc'

/-! ## Reading -/

/-- What a run of keyword letters stands for: a hyphen in front of further letters is the mark of
inversion. -/
def ofRun (run : String) (parameter : Option String) : Descriptor :=
  match run.toList with
  | '-' :: c :: letters => ⟨true, String.ofList (c :: letters), parameter⟩
  | _ => ⟨false, run, parameter⟩

theorem ofRun_of_two {run : String} {c : Char} {letters : List Char}
    (h : run.toList = '-' :: c :: letters) (parameter : Option String) :
    ofRun run parameter = ⟨true, String.ofList (c :: letters), parameter⟩ := by
  simp [ofRun, h]

theorem ofRun_of_upright {run : String} (h : ¬ ∃ c letters, run.toList = '-' :: c :: letters)
    (parameter : Option String) : ofRun run parameter = ⟨false, run, parameter⟩ := by
  unfold ofRun
  split
  · next c letters hrun => exact absurd ⟨c, letters, hrun⟩ h
  · rfl

/-- What is left of a token without its mark of inversion is a token. -/
theorem IsToken.behindMark {run token : String} {parameter : Option String} {c : Char}
    {letters : List Char} (h : IsToken run parameter token)
    (hrun : run.toList = '-' :: c :: letters) :
    IsToken (String.ofList (c :: letters)) parameter
      (String.ofList (c :: letters) ++ afterKeyword parameter) := by
  refine ⟨by simp, ?_, rfl⟩
  intro letter hletter
  refine h.letters letter ?_
  rw [hrun]
  exact List.mem_cons_of_mem _ (by simpa using hletter)

theorem parse?_of_isToken {run token : String} {parameter : Option String}
    (h : IsToken run parameter token) : parse? token = some (ofRun run parameter) := by
  have hchars : token.toList = run.toList ++ (afterKeyword parameter).toList := by
    simp [h.written]
  refine ofChars?_eq_some_iff.2 ?_
  by_cases htwo : ∃ c letters, run.toList = '-' :: c :: letters
  · rcases htwo with ⟨c, letters, hrun⟩
    rw [ofRun_of_two hrun]
    refine .inl ⟨rfl, _, ?_, split?_of_isToken (h.behindMark hrun)⟩
    simp [hchars, hrun]
  · rw [ofRun_of_upright htwo]
    refine .inr ⟨rfl, split?_of_isToken h, ?_⟩
    -- without a hyphen that stands alone nothing but what follows the keyword is left
    intro rest hmark
    have hne : run.toList ≠ [] := by
      simpa using h.nonempty
    rcases List.exists_cons_of_ne_nil hne with ⟨c, letters, hrun⟩
    rw [hchars, hrun, List.cons_append, List.cons.injEq] at hmark
    rcases hmark with ⟨rfl, rfl⟩
    cases letters with
    | nil => exact split?_afterKeyword parameter
    | cons letter letters => exact absurd ⟨letter, letters, hrun⟩ htwo

theorem isToken_of_parse? {token : String} {d : Descriptor} (h : parse? token = some d) :
    ∃ run parameter, IsToken run parameter token := by
  have hread : token = String.ofList token.toList := String.ofList_toList.symm
  rcases ofChars?_eq_some_iff.1 h with ⟨hinverted, rest, hrest, hsplit⟩ | ⟨_, hsplit, _⟩
  · have hshorter := split?_eq_some_iff.1 hsplit
    have hlegible : IsLegible d := ⟨hshorter.nonempty, hshorter.letters, .inl hinverted⟩
    have hwritten : rest = (d.keyword ++ afterKeyword d.parameter).toList := by
      rw [← hshorter.written, String.toList_ofList]
    have htext : d.text = token := by
      rw [hread, hrest, hwritten, text_eq_run, run, hinverted, ← String.toList_inj]
      simp
    exact ⟨d.run, d.parameter, htext ▸ isToken_text hlegible⟩
  · have htoken := split?_eq_some_iff.1 hsplit
    rw [← hread] at htoken
    exact ⟨d.keyword, d.parameter, htoken⟩

/-! ## Reading what is written -/

theorem run_ofRun (run : String) (parameter : Option String) : (ofRun run parameter).run = run := by
  rw [← String.toList_inj]
  unfold ofRun
  split
  · next c letters hrun => simp [Descriptor.run, hrun]
  · simp [Descriptor.run]

theorem parameter_ofRun (run : String) (parameter : Option String) :
    (ofRun run parameter).parameter = parameter := by
  unfold ofRun
  split <;> rfl

theorem text_ofRun (run : String) (parameter : Option String) :
    (ofRun run parameter).text = run ++ afterKeyword parameter := by
  rw [text_eq_run, run_ofRun, parameter_ofRun]

theorem isLegible_ofRun {run token : String} {parameter : Option String}
    (h : IsToken run parameter token) : IsLegible (ofRun run parameter) := by
  by_cases htwo : ∃ c letters, run.toList = '-' :: c :: letters
  · rcases htwo with ⟨c, letters, hrun⟩
    have hbehind := h.behindMark hrun
    rw [ofRun_of_two hrun]
    exact ⟨hbehind.nonempty, hbehind.letters, .inl rfl⟩
  · rw [ofRun_of_upright htwo]
    refine ⟨h.nonempty, h.letters, .inr ?_⟩
    by_cases hhyphen : run.toList.head? = some '-'
    · -- the run has no second letter, so it is the hyphen alone
      rcases List.head?_eq_some_iff.1 hhyphen with ⟨letters, hrun⟩
      cases letters with
      | nil =>
          left
          rw [← String.toList_inj, hrun]
          rfl
      | cons letter letters => exact absurd ⟨letter, letters, hrun⟩ htwo
    · exact .inr hhyphen

theorem ofRun_run {d : Descriptor} (h : IsLegible d) : ofRun d.run d.parameter = d := by
  rcases d with ⟨inverted, keyword, parameter⟩
  cases inverted with
  | true =>
      have hne : keyword.toList ≠ [] := by
        simpa using h.nonempty
      rcases List.exists_cons_of_ne_nil hne with ⟨c, letters, hkeyword⟩
      have hrun : (run ⟨true, keyword, parameter⟩).toList = '-' :: c :: letters := by
        simp [run, hkeyword]
      rw [ofRun_of_two hrun, ← hkeyword, String.ofList_toList]
  | false =>
      have hrun : run ⟨false, keyword, parameter⟩ = keyword := by
        simp [run]
      rw [hrun]
      refine ofRun_of_upright ?_ parameter
      rintro ⟨c, letters, hkeyword⟩
      rcases h.upright with hinverted | hlone | hplain
      · simp at hinverted
      · have hkeyword' : keyword = "-" := hlone
        simp [hkeyword'] at hkeyword
      · exact hplain (by simp [hkeyword])

/-- Reading a token and writing a legible descriptor are inverse to each other. -/
theorem parse?_eq_some_iff {token : String} {d : Descriptor} :
    parse? token = some d ↔ IsLegible d ∧ token = d.text := by
  constructor
  · intro h
    rcases isToken_of_parse? h with ⟨run, parameter, htoken⟩
    obtain rfl : ofRun run parameter = d := by
      simpa [parse?_of_isToken htoken] using h
    exact ⟨isLegible_ofRun htoken, by rw [text_ofRun, htoken.written]⟩
  · rintro ⟨hlegible, rfl⟩
    rw [parse?_of_isToken (isToken_text hlegible), ofRun_run hlegible]

example : parse? "--x" = some ⟨true, "-x", none⟩ ∧ parse? "-:x" = some ⟨false, "-", some "x"⟩ := by
  decide +kernel

theorem inverted_ofRun_iff {run token : String} {parameter : Option String}
    (h : IsToken run parameter token) :
    (ofRun run parameter).inverted = true ↔ token.toList.head? = some '-' ∧ 2 ≤ run.length := by
  have hne : run.toList ≠ [] := by
    simpa using h.nonempty
  rcases List.exists_cons_of_ne_nil hne with ⟨c, letters, hrun⟩
  have hhead : token.toList.head? = some c := by
    simp [h.written, hrun]
  have hlength : run.length = letters.length + 1 := by
    rw [← String.length_toList, hrun, List.length_cons]
  rw [hhead, hlength]
  by_cases hc : c = '-'
  · cases letters with
    | nil => simp [ofRun, hrun, hc]
    | cons letter letters => simp [ofRun_of_two (hc ▸ hrun), hc]
  · have hupright : ¬ ∃ letter letters, run.toList = '-' :: letter :: letters := by
      rintro ⟨letter, letters, hmark⟩
      rw [hrun, List.cons.injEq] at hmark
      exact hc hmark.1
    simp [ofRun_of_upright hupright, hc]

theorem keyword_ofRun (run : String) (parameter : Option String) :
    (ofRun run parameter).keyword =
      if (ofRun run parameter).inverted then String.ofList (run.toList.drop 1) else run := by
  unfold ofRun
  split
  · next c letters hrun => simp [hrun]
  · rfl

/-- A text can be read exactly if it is a token of the grammar, and then inversion, keyword and
parameter are parts of it that make it up again; a descriptor is read back from what it is written
as exactly if it is legible; and no two tokens are read as the same. -/
theorem parse_exact :
    (∀ token : String,
      ((parse? token).isSome = true ↔ ∃ run parameter, IsToken run parameter token) ∧
      ∀ run parameter, IsToken run parameter token →
        ∃ d, parse? token = some d ∧
          (d.inverted = true ↔ token.toList.head? = some '-' ∧ 2 ≤ run.length) ∧
          d.keyword = (if d.inverted then String.ofList (run.toList.drop 1) else run) ∧
          d.parameter = parameter ∧ d.text = token) ∧
      (∀ d : Descriptor, parse? d.text = some d ↔
        d.keyword ≠ "" ∧ (∀ c ∈ d.keyword.toList, KeywordLetter c) ∧
          (d.inverted = true ∨ d.keyword = "-" ∨ d.keyword.toList.head? ≠ some '-')) ∧
      ∀ (token other : String) (d : Descriptor),
        parse? token = some d → parse? other = some d → token = other := by
  refine ⟨?_, ?_, ?_⟩
  · intro token
    refine ⟨⟨?_, ?_⟩, ?_⟩
    · intro hsome
      rcases Option.isSome_iff_exists.1 hsome with ⟨d, hd⟩
      exact isToken_of_parse? hd
    · rintro ⟨run, parameter, htoken⟩
      exact Option.isSome_iff_exists.2 ⟨_, parse?_of_isToken htoken⟩
    · intro run parameter htoken
      refine ⟨ofRun run parameter, parse?_of_isToken htoken, inverted_ofRun_iff htoken,
        keyword_ofRun run parameter, parameter_ofRun run parameter, ?_⟩
      rw [text_ofRun, htoken.written]
  · intro d
    constructor
    · intro h
      have hlegible := (parse?_eq_some_iff.1 h).1
      exact ⟨hlegible.nonempty, hlegible.letters, hlegible.upright⟩
    · rintro ⟨hnonempty, hletters, hupright⟩
      exact parse?_eq_some_iff.2 ⟨⟨hnonempty, hletters, hupright⟩, rfl⟩
  · intro token other d htoken hother
    rw [(parse?_eq_some_iff.1 htoken).2, (parse?_eq_some_iff.1 hother).2]

end Descriptor
end MailRules

import MailRules.Proofs.NormalForm

/-!
# Legality — which tokens can be used, and what is wrong with the others

Whether a token can be used on one side of a rule is told by the grammar, by the keywords of that
side and by what each of them needs.  This file defines:

* `Descriptor.Says`, what a token says by the grammar;
* `Vocabulary`, the keywords of a side by what they need, with `Vocabulary.conditions` and
  `Vocabulary.actions`;
* `Vocabulary.Admits`, that a token can be used, and `Vocabulary.Objects`, the errors that apply to
  a token;
* `RuleError.rank`, the order of errors, and `Vocabulary.ObjectsFirst`, the first that applies;

and proves `parse_legality`: on both sides a token is read just if it is admitted, and otherwise the
error is the first that applies.  A text can be too long for a pattern and no pattern at once; all
other errors exclude one another.
-/

namespace MailRules

/-! ## What a token says -/

namespace Descriptor

def Says (token : String) (d : Descriptor) : Prop :=
  ∃ run, IsToken run d.parameter token ∧ d = ofRun run d.parameter

theorem says_iff {token : String} {d : Descriptor} : Says token d ↔ parse? token = some d := by
  constructor
  · rintro ⟨run, htoken, hd⟩
    rw [parse?_of_isToken htoken, ← hd]
  · intro h
    rcases isToken_of_parse? h with ⟨run, parameter, htoken⟩
    obtain rfl : ofRun run parameter = d := by
      simpa [parse?_of_isToken htoken] using h
    have hparameter := parameter_ofRun run parameter
    exact ⟨run, by rw [hparameter]; exact htoken, by rw [hparameter]⟩

theorem Says.unique {token : String} {d d' : Descriptor} (h : Says token d) (h' : Says token d') :
    d = d' := by
  have hread := says_iff.1 h
  have hread' := says_iff.1 h'
  exact Option.some.inj (hread.symm.trans hread')

/-- A token is written as it was. -/
theorem Says.text_eq {token : String} {d : Descriptor} (h : Says token d) : d.text = token :=
  (parse?_eq_some_iff.1 (says_iff.1 h)).2.symm

end Descriptor

open Descriptor (Says)

/-! ## Keywords and what they need -/

/-- The keywords of one side of a rule. -/
structure Vocabulary where
  slot : Slot
  /-- These need a pattern. -/
  patterns : List String
  /-- These need the name of a label. -/
  labels : List String
  /-- These need nothing. -/
  plain : List String
  /-- Whether the wildcard is a label only where it is taken away. -/
  guardsWildcard : Bool

namespace Vocabulary

def conditions : Vocabulary where
  slot := .condition
  patterns := ["match", "from", "to", "subj", "body", "list"]
  labels := ["label"]
  plain := ["spam", "inbox", "deleted", "starred"]
  guardsWildcard := false

def actions : Vocabulary where
  slot := .action
  patterns := []
  labels := ["label", "L", "l"]
  plain := ["inbox", "unread", "read", "star", "spam", "delete", "deleted"]
  guardsWildcard := true

def keywords (v : Vocabulary) : List String := v.patterns ++ v.labels ++ v.plain

theorem mem_keywords {v : Vocabulary} {k : String} :
    k ∈ v.keywords ↔ k ∈ v.patterns ∨ k ∈ v.labels ∨ k ∈ v.plain := by
  simp [keywords]

theorem nodup_conditions : conditions.keywords.Nodup := by decide

theorem nodup_actions : actions.keywords.Nodup := by decide

/-- What a keyword needs is told without doubt if no keyword is listed twice. -/
theorem needs_apart {v : Vocabulary} (hclear : v.keywords.Nodup) (k : String) :
    ¬ (k ∈ v.patterns ∧ k ∈ v.labels) ∧ ¬ (k ∈ v.patterns ∧ k ∈ v.plain) ∧
      ¬ (k ∈ v.labels ∧ k ∈ v.plain) := by
  -- the lists stand one after another, so that what is in two of them is listed twice
  simp only [keywords, List.nodup_append, List.mem_append] at hclear
  rcases hclear with ⟨⟨_, _, hpatterns⟩, _, hplain⟩
  refine ⟨?_, ?_, ?_⟩
  · rintro ⟨hpattern, hlabel⟩
    exact hpatterns k hpattern k hlabel rfl
  · rintro ⟨hpattern, hbare⟩
    exact hplain k (.inl hpattern) k hbare rfl
  · rintro ⟨hlabel, hbare⟩
    exact hplain k (.inr hlabel) k hbare rfl

variable [PatternEngine]

/-- The tokens that can be used. -/
inductive Admits (v : Vocabulary) (token : String) : Prop where
  | pattern {d : Descriptor} {p : String} (h : Says token d) (hkeyword : d.keyword ∈ v.patterns)
      (hgiven : d.parameter = some p) (hsize : p.utf8ByteSize ≤ maxPatternBytes)
      (hread : (PatternEngine.expr? p).isSome = true)
  | label {d : Descriptor} {l : String} (h : Says token d) (hkeyword : d.keyword ∈ v.labels)
      (hgiven : d.parameter = some l)
      (hwildcard : v.guardsWildcard = true → l = Label.wildcard → d.inverted = true)
  | plain {d : Descriptor} (h : Says token d) (hkeyword : d.keyword ∈ v.plain)

/-- The errors that apply to a token, each for a reason of its own.  They quote the token as it
is. -/
inductive Objects (v : Vocabulary) (token : String) : RuleError → Prop where
  | grammar (h : ∀ d, ¬ Says token d) : Objects v token (.invalidDescriptor token)
  | keyword {d : Descriptor} (h : Says token d) (hkeyword : d.keyword ∉ v.keywords) :
      Objects v token (.unknownKeyword v.slot d.keyword token)
  | parameter {d : Descriptor} (h : Says token d)
      (hkeyword : d.keyword ∈ v.patterns ∨ d.keyword ∈ v.labels) (hmissing : d.parameter = none) :
      Objects v token (.missingParameter token)
  | size {d : Descriptor} {p : String} (h : Says token d) (hkeyword : d.keyword ∈ v.patterns)
      (hgiven : d.parameter = some p) (hsize : maxPatternBytes < p.utf8ByteSize) :
      Objects v token (.pattern (.tooLong p.utf8ByteSize))
  | pattern {d : Descriptor} {p : String} (h : Says token d) (hkeyword : d.keyword ∈ v.patterns)
      (hgiven : d.parameter = some p) (hunread : PatternEngine.expr? p = none) :
      Objects v token (.pattern (.invalid p))
  | wildcard {d : Descriptor} (h : Says token d) (hkeyword : d.keyword ∈ v.labels)
      (hgiven : d.parameter = some Label.wildcard) (hguards : v.guardsWildcard = true)
      (hupright : d.inverted = false) : Objects v token (.wildcardLabel token)

end Vocabulary

/-- The order in which errors are looked for. -/
def RuleError.rank : RuleError → Nat
  | .invalidDescriptor _ => 0
  | .unknownKeyword _ _ _ => 1
  | .missingParameter _ => 2
  | .pattern (.tooLong _) => 3
  | .pattern (.invalid _) => 4
  | .wildcardLabel _ => 5
  | .depthExceeded _ => 6

namespace Vocabulary

variable [PatternEngine]

/-- An error applies, and none that comes before it does. -/
structure ObjectsFirst (v : Vocabulary) (token : String) (e : RuleError) : Prop where
  applies : v.Objects token e
  first : ∀ e', v.Objects token e' → e.rank ≤ e'.rank

variable {v : Vocabulary} {token : String} {d : Descriptor} {e : RuleError}

namespace Objects

/-- Errors of one rank are one error. -/
theorem unique {e' : RuleError} (h : v.Objects token e) (h' : v.Objects token e')
    (hrank : e.rank = e'.rank) : e = e' := by
  -- the rank leaves one reason, and what the error quotes is told by the token
  cases h with
  | grammar _ =>
      cases h' with
      | grammar _ => rfl
      | _ => cases hrank
  | keyword hd _ =>
      cases h' with
      | keyword hd' _ => rw [hd.unique hd']
      | _ => cases hrank
  | parameter _ _ _ =>
      cases h' with
      | parameter _ _ _ => rfl
      | _ => cases hrank
  | size hd _ hp _ =>
      cases h' with
      | size hd' _ hp' _ =>
          obtain rfl := hd.unique hd'
          obtain rfl := Option.some.inj (hp.symm.trans hp')
          rfl
      | _ => cases hrank
  | pattern hd _ hp _ =>
      cases h' with
      | pattern hd' _ hp' _ =>
          obtain rfl := hd.unique hd'
          obtain rfl := Option.some.inj (hp.symm.trans hp')
          rfl
      | _ => cases hrank
  | wildcard _ _ _ _ _ =>
      cases h' with
      | wildcard _ _ _ _ _ => rfl
      | _ => cases hrank

/-! Each fact about a token leaves fewer errors that can apply to it. -/

theorem one_le_rank (h : v.Objects token e) (hd : Says token d) : 1 ≤ e.rank := by
  cases h with
  | grammar hnone => exact absurd hd (hnone d)
  | _ => simp [RuleError.rank]

theorem two_le_rank (h : v.Objects token e) (hd : Says token d) (hknown : d.keyword ∈ v.keywords) :
    2 ≤ e.rank := by
  cases h with
  | grammar hnone => exact absurd hd (hnone d)
  | keyword hd' hunknown =>
      obtain rfl := hd.unique hd'
      exact absurd hknown hunknown
  | _ => simp [RuleError.rank]

theorem three_le_rank {p : String} (h : v.Objects token e) (hd : Says token d)
    (hknown : d.keyword ∈ v.keywords) (hgiven : d.parameter = some p) : 3 ≤ e.rank := by
  have htwo := h.two_le_rank hd hknown
  cases h with
  | parameter hd' _ hmissing =>
      obtain rfl := hd.unique hd'
      rw [hgiven] at hmissing
      cases hmissing
  | grammar _ => simp [RuleError.rank] at htwo
  | keyword _ _ => simp [RuleError.rank] at htwo
  | _ => simp [RuleError.rank]

theorem four_le_rank {p : String} (h : v.Objects token e) (hd : Says token d)
    (hknown : d.keyword ∈ v.keywords) (hgiven : d.parameter = some p)
    (hshort : p.utf8ByteSize ≤ maxPatternBytes) : 4 ≤ e.rank := by
  have hthree := h.three_le_rank hd hknown hgiven
  cases h with
  | size hd' _ hgiven' hlong =>
      obtain rfl := hd.unique hd'
      obtain rfl := Option.some.inj (hgiven.symm.trans hgiven')
      omega
  | pattern _ _ _ _ => simp [RuleError.rank]
  | wildcard _ _ _ _ _ => simp [RuleError.rank]
  | _ => simp [RuleError.rank] at hthree

theorem five_le_rank {l : String} (h : v.Objects token e) (hd : Says token d)
    (hclear : v.keywords.Nodup) (hlabel : d.keyword ∈ v.labels) (hgiven : d.parameter = some l) :
    5 ≤ e.rank := by
  have hknown : d.keyword ∈ v.keywords := mem_keywords.2 (.inr (.inl hlabel))
  have hthree := h.three_le_rank hd hknown hgiven
  have hapart := (needs_apart hclear d.keyword).1
  cases h with
  | size hd' hpattern _ _ =>
      obtain rfl := hd.unique hd'
      exact absurd ⟨hpattern, hlabel⟩ hapart
  | pattern hd' hpattern _ _ =>
      obtain rfl := hd.unique hd'
      exact absurd ⟨hpattern, hlabel⟩ hapart
  | wildcard _ _ _ _ _ => simp [RuleError.rank]
  | _ => simp [RuleError.rank] at hthree

end Objects

/-- Nothing can be said against a token that can be used. -/
theorem Admits.not_objects (h : v.Admits token) (hclear : v.keywords.Nodup) :
    ¬ v.Objects token e := by
  intro ho
  cases h with
  | pattern hd hpattern hgiven hsize hread =>
      -- a pattern of this size can only be one that is not read
      have hknown := mem_keywords.2 (.inl hpattern)
      have hfour := ho.four_le_rank hd hknown hgiven hsize
      cases ho with
      | pattern hd' _ hgiven' hunread =>
          obtain rfl := hd.unique hd'
          obtain rfl := Option.some.inj (hgiven.symm.trans hgiven')
          rw [hunread] at hread
          cases hread
      | wildcard hd' hlabel _ _ _ =>
          obtain rfl := hd.unique hd'
          exact (needs_apart hclear _).1 ⟨hpattern, hlabel⟩
      | _ => simp [RuleError.rank] at hfour
  | label hd hlabel hgiven hwildcard =>
      -- a label that is given can only be the wildcard
      have hfive := ho.five_le_rank hd hclear hlabel hgiven
      cases ho with
      | wildcard hd' _ hgiven' hguards hupright =>
          obtain rfl := hd.unique hd'
          have hall := Option.some.inj (hgiven.symm.trans hgiven')
          rw [hwildcard hguards hall] at hupright
          cases hupright
      | _ => simp [RuleError.rank] at hfive
  | @plain d hd hplain =>
      -- all other errors are about what other keywords need
      have htwo := ho.two_le_rank hd (mem_keywords.2 (.inr (.inr hplain)))
      have hapart := needs_apart hclear d.keyword
      have hpattern : d.keyword ∉ v.patterns := fun h => hapart.2.1 ⟨h, hplain⟩
      have hlabel : d.keyword ∉ v.labels := fun h => hapart.2.2 ⟨h, hplain⟩
      cases ho with
      | parameter hd' hneedy _ =>
          obtain rfl := hd.unique hd'
          exact hneedy.elim hpattern hlabel
      | size hd' hpattern' _ _ =>
          obtain rfl := hd.unique hd'
          exact hpattern hpattern'
      | pattern hd' hpattern' _ _ =>
          obtain rfl := hd.unique hd'
          exact hpattern hpattern'
      | wildcard hd' hlabel' _ _ _ =>
          obtain rfl := hd.unique hd'
          exact hlabel hlabel'
      | _ => simp [RuleError.rank] at htwo

/-! ### Judging tokens -/

namespace ObjectsFirst

theorem of_parse? (h : Descriptor.parse? token = none) :
    v.ObjectsFirst token (.invalidDescriptor token) := by
  refine ⟨.grammar ?_, fun _ _ => Nat.zero_le _⟩
  intro d hd
  rw [Descriptor.says_iff.1 hd] at h
  cases h

theorem of_keyword (hd : Says token d) (hunknown : d.keyword ∉ v.keywords) :
    v.ObjectsFirst token (.unknownKeyword v.slot d.keyword d.text) := by
  rw [hd.text_eq]
  exact ⟨.keyword hd hunknown, fun _ h => h.one_le_rank hd⟩

theorem of_parameter (hd : Says token d) (hneedy : d.keyword ∈ v.patterns ∨ d.keyword ∈ v.labels)
    (hmissing : d.parameter = none) : v.ObjectsFirst token (.missingParameter d.text) := by
  have hknown : d.keyword ∈ v.keywords := mem_keywords.2 (hneedy.imp_right .inl)
  rw [hd.text_eq]
  exact ⟨.parameter hd hneedy hmissing, fun _ h => h.two_le_rank hd hknown⟩

theorem of_wildcard (hclear : v.keywords.Nodup) (hd : Says token d) (hlabel : d.keyword ∈ v.labels)
    (hgiven : d.parameter = some Label.wildcard) (hguards : v.guardsWildcard = true)
    (hupright : d.inverted = false) : v.ObjectsFirst token (.wildcardLabel d.text) := by
  rw [hd.text_eq]
  exact ⟨.wildcard hd hlabel hgiven hguards hupright,
    fun _ h => h.five_le_rank hd hclear hlabel hgiven⟩

/-- The size is looked at first. -/
theorem of_compile {p : String} {cause : PatternError} (hd : Says token d)
    (hpattern : d.keyword ∈ v.patterns) (hgiven : d.parameter = some p)
    (hcompile : TextPattern.compile p = .error cause) : v.ObjectsFirst token (.pattern cause) := by
  have hknown : d.keyword ∈ v.keywords := mem_keywords.2 (.inl hpattern)
  unfold TextPattern.compile at hcompile
  split at hcompile
  · next hlong =>
      cases hcompile
      exact ⟨.size hd hpattern hgiven hlong, fun _ h => h.three_le_rank hd hknown hgiven⟩
  · next hshort =>
      split at hcompile
      · cases hcompile
      · next hunread =>
          cases hcompile
          refine ⟨.pattern hd hpattern hgiven hunread, fun _ h => ?_⟩
          exact h.four_le_rank hd hknown hgiven (Nat.not_lt.1 hshort)

end ObjectsFirst

theorem Admits.of_compile {p : String} {pattern : TextPattern} (hd : Says token d)
    (hpattern : d.keyword ∈ v.patterns) (hgiven : d.parameter = some p)
    (hcompile : TextPattern.compile p = .ok pattern) : v.Admits token := by
  unfold TextPattern.compile at hcompile
  split at hcompile
  · cases hcompile
  · next hshort =>
      split at hcompile
      · next expr hread => exact .pattern hd hpattern hgiven (Nat.not_lt.1 hshort) (by simp [hread])
      · cases hcompile

/-- A result that is right about a token. -/
def Judges {α : Type} (v : Vocabulary) (token : String) : Except RuleError α → Prop
  | .ok _ => v.Admits token
  | .error e => v.ObjectsFirst token e

theorem Judges.map {α β : Type} {result : Except RuleError α} (h : v.Judges token result)
    (f : α → β) : v.Judges token (result.map f) := by
  cases result with
  | ok a => exact h
  | error e => exact h

/-- A result that is right about a token says all about it. -/
theorem Judges.exact {α : Type} {result : Except RuleError α} (h : v.Judges token result)
    (hclear : v.keywords.Nodup) :
    ((∃ a, result = .ok a) ↔ v.Admits token) ∧ ∀ e, result = .error e ↔ v.ObjectsFirst token e := by
  cases result with
  | ok a =>
      have hadmits : v.Admits token := h
      refine ⟨by simp [hadmits], ?_⟩
      intro e
      refine ⟨nofun, ?_⟩
      intro hfirst
      exact absurd hfirst.applies (hadmits.not_objects hclear)
  | error e =>
      have hfirst : v.ObjectsFirst token e := h
      refine ⟨⟨nofun, ?_⟩, ?_⟩
      · intro hadmits
        exact absurd hfirst.applies (hadmits.not_objects hclear)
      · intro e'
        constructor
        · intro h
          cases h
          exact hfirst
        · intro hfirst'
          have hrank : e.rank = e'.rank :=
            Nat.le_antisymm (hfirst.first e' hfirst'.applies) (hfirst'.first e hfirst.applies)
          rw [hfirst.applies.unique hfirst'.applies hrank]

end Vocabulary

/-! ## Conditions -/

namespace ConditionKind

theorem ofKeyword?_eq_none_iff {k : String} :
    ofKeyword? k = none ↔ k ∉ Vocabulary.conditions.keywords := by
  have hkeywords : Vocabulary.conditions.keywords = all.map keyword := rfl
  rw [hkeywords, ofKeyword?, List.find?_eq_none]
  simp

theorem keyword_mem_patterns {kind : ConditionKind} {field : TextField}
    (h : kind.field? = some field) : kind.keyword ∈ Vocabulary.conditions.patterns := by
  have hlisted : kind.field?.isSome = true → kind.keyword ∈ Vocabulary.conditions.patterns := by
    cases kind <;> decide
  exact hlisted (by simp [h])

theorem keyword_mem_plain {kind : ConditionKind} {label : String}
    (h : kind.fixedLabel? = some label) : kind.keyword ∈ Vocabulary.conditions.plain := by
  have hlisted : kind.fixedLabel?.isSome = true → kind.keyword ∈ Vocabulary.conditions.plain := by
    cases kind <;> decide
  exact hlisted (by simp [h])

theorem keyword_mem_labels {kind : ConditionKind} (hfield : kind.field? = none)
    (hlabel : kind.fixedLabel? = none) : kind.keyword ∈ Vocabulary.conditions.labels := by
  have hlisted : kind.field?.isNone = true → kind.fixedLabel?.isNone = true →
      kind.keyword ∈ Vocabulary.conditions.labels := by
    cases kind <;> decide
  exact hlisted (by simp [hfield]) (by simp [hlabel])

end ConditionKind

namespace Test

variable [PatternEngine] {token : String} {d : Descriptor}

theorem judges_checkOf {kind : ConditionKind} (hd : Says token d)
    (hkeyword : kind.keyword = d.keyword) :
    Vocabulary.conditions.Judges token (checkOf kind d) := by
  unfold checkOf
  cases hfield : kind.field? with
  | some field =>
      have hpattern : d.keyword ∈ Vocabulary.conditions.patterns :=
        hkeyword ▸ ConditionKind.keyword_mem_patterns hfield
      cases hgiven : d.parameter with
      | none => exact .of_parameter hd (.inl hpattern) hgiven
      | some p =>
          cases hcompile : TextPattern.compile p with
          | ok pattern =>
              simp only [hcompile]
              exact .of_compile hd hpattern hgiven hcompile
          | error cause =>
              simp only [hcompile]
              exact .of_compile hd hpattern hgiven hcompile
  | none =>
      cases hfixed : kind.fixedLabel? with
      | some label =>
          have hplain : d.keyword ∈ Vocabulary.conditions.plain :=
            hkeyword ▸ ConditionKind.keyword_mem_plain hfixed
          exact .plain hd hplain
      | none =>
          have hlabel : d.keyword ∈ Vocabulary.conditions.labels :=
            hkeyword ▸ ConditionKind.keyword_mem_labels hfield hfixed
          cases hgiven : d.parameter with
          | none => exact .of_parameter hd (.inr hlabel) hgiven
          | some l => exact .label hd hlabel hgiven nofun

theorem judges_ofDescriptor (hd : Says token d) :
    Vocabulary.conditions.Judges token (ofDescriptor d) := by
  unfold ofDescriptor
  cases hkind : ConditionKind.ofKeyword? d.keyword with
  | none => exact .of_keyword hd (ConditionKind.ofKeyword?_eq_none_iff.1 hkind)
  | some kind =>
      have hcheck := judges_checkOf hd (ConditionKind.keyword_of_ofKeyword? hkind)
      simp only
      cases hchecked : checkOf kind d <;> rwa [hchecked] at hcheck

theorem judges_parse (token : String) : Vocabulary.conditions.Judges token (parse token) := by
  unfold parse
  cases hread : Descriptor.parse? token with
  | none => exact .of_parse? hread
  | some d => exact judges_ofDescriptor (Descriptor.says_iff.2 hread)

end Test

/-! ## Actions -/

namespace ActionKind

theorem ofKeyword?_eq_none_iff {k : String} :
    ofKeyword? k = none ↔ k ∉ Vocabulary.actions.keywords := by
  have hkeywords : Vocabulary.actions.keywords = all.flatMap keywords := rfl
  rw [hkeywords, ofKeyword?, List.find?_eq_none]
  simp

theorem keywords_subset_plain {kind : ActionKind} (h : kind ≠ .label) :
    ∀ k ∈ kind.keywords, k ∈ Vocabulary.actions.plain := by
  cases kind with
  | label => exact absurd rfl h
  | _ => decide

end ActionKind

namespace Change

variable [PatternEngine] {token : String} {d : Descriptor}

theorem judges_ofDescriptor (hd : Says token d) :
    Vocabulary.actions.Judges token (ofDescriptor d) := by
  unfold ofDescriptor
  cases hkind : ActionKind.ofKeyword? d.keyword with
  | none => exact .of_keyword hd (ActionKind.ofKeyword?_eq_none_iff.1 hkind)
  | some kind =>
      have hkeyword : d.keyword ∈ kind.keywords := ActionKind.mem_keywords_of_ofKeyword? hkind
      by_cases hlabel : kind = .label
      · subst hlabel
        have hneedy : d.keyword ∈ Vocabulary.actions.labels := hkeyword
        cases hgiven : d.parameter with
        | none =>
            simp only [true_and, if_true]
            exact .of_parameter hd (.inr hneedy) hgiven
        | some l =>
            by_cases hadds : l = Label.wildcard ∧ d.inverted = false
            · rcases hadds with ⟨rfl, hupright⟩
              simp only [hupright, reduceCtorEq, and_false, if_false, and_true, if_true]
              exact .of_wildcard Vocabulary.nodup_actions hd hneedy hgiven rfl hupright
            · simp only [reduceCtorEq, and_false, if_false, true_and, Option.some.injEq, if_neg hadds]
              refine .label hd hneedy hgiven ?_
              intro _ hall
              cases hinverted : d.inverted with
              | false => exact absurd ⟨hall, hinverted⟩ hadds
              | true => rfl
      · simp only [hlabel, false_and, if_false]
        exact .plain hd (ActionKind.keywords_subset_plain hlabel _ hkeyword)

theorem judges_parse (token : String) : Vocabulary.actions.Judges token (parse token) := by
  unfold parse
  cases hread : Descriptor.parse? token with
  | none => exact .of_parse? hread
  | some d => exact judges_ofDescriptor (Descriptor.says_iff.2 hread)

end Change

/-! ## Both sides -/

/-- A token can be read as a condition just if it fits the grammar, has a keyword of conditions and
with it what the keyword needs, and as an action just if the same holds with the keywords of
actions.  Otherwise the error is the first of those that apply, and it quotes the token as it is. -/
theorem parse_legality [PatternEngine] (token : String) :
    ((∃ c, Condition.parse token = .ok c) ↔ Vocabulary.conditions.Admits token) ∧
      (∀ e, Condition.parse token = .error e ↔ Vocabulary.conditions.ObjectsFirst token e) ∧
      ((∃ a, Action.parse token = .ok a) ↔ Vocabulary.actions.Admits token) ∧
      ∀ e, Action.parse token = .error e ↔ Vocabulary.actions.ObjectsFirst token e := by
  have hcondition : Vocabulary.conditions.Judges token (Condition.parse token) :=
    (Test.judges_parse token).map _
  have haction : Vocabulary.actions.Judges token (Action.parse token) :=
    (Change.judges_parse token).map _
  rcases hcondition.exact Vocabulary.nodup_conditions with ⟨hread, herror⟩
  rcases haction.exact Vocabulary.nodup_actions with ⟨hread', herror'⟩
  exact ⟨hread, herror, hread', herror'⟩

/-- Of two hyphens the second one belongs to the keyword. -/
example : Change.parse "--label:x" = .error (.unknownKeyword .action "-label" "--label:x") := by
  with_unfolding_all rfl

end MailRules

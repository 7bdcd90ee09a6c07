import MailRules.Proofs.Accounting
import MailRules.Proofs.Grammar

/-!
# NormalForm — rules written back as a document

What is left of a document after compiling can be written as a document again, a token for every
test and every change and a list for every list.  This file defines:

* `Rule.entry`, a rule as an entry of a document;
* `ActionKind.canonical`, the one of several keywords that an action is written with;

and proves `ofEntries_writeBack`: the rules of a document, written back, compile into themselves and
leave nothing to report.  Tests are written as the tokens they were read from, and changes as these
tokens with their canonical keywords.
-/

namespace MailRules

/-! ## Keywords -/

theorem ConditionKind.keyword_of_ofKeyword? {k : String} {kind : ConditionKind}
    (h : ofKeyword? k = some kind) : kind.keyword = k := by
  have hfound := List.find?_some h
  simpa using hfound

namespace ActionKind

/-- The keyword that stands for a keyword when an action is written. -/
def canonical (k : String) : String :=
  if k = "L" ∨ k = "l" then "label" else if k = "deleted" then "delete" else k

/-- A token with the canonical one of its keywords. -/
def canonicalToken (token : String) : String :=
  match Descriptor.parse? token with
  | some d => Descriptor.write d.inverted (canonical d.keyword) d.parameter
  | none => token

theorem mem_keywords_of_ofKeyword? {k : String} {kind : ActionKind} (h : ofKeyword? k = some kind) :
    k ∈ kind.keywords := by
  have hfound := List.find?_some h
  simpa using hfound

theorem keyword_of_ofKeyword? {k : String} {kind : ActionKind} (h : ofKeyword? k = some kind) :
    kind.keyword = canonical k := by
  have hmem := mem_keywords_of_ofKeyword? h
  cases kind with
  | label =>
      have hspelled : k = "label" ∨ k = "L" ∨ k = "l" := by simpa [keywords] using hmem
      rcases hspelled with rfl | rfl | rfl <;> decide
  | delete =>
      have hspelled : k = "delete" ∨ k = "deleted" := by simpa [keywords] using hmem
      rcases hspelled with rfl | rfl <;> decide
  | _ =>
      -- every other action has one keyword
      obtain rfl := List.mem_singleton.1 hmem
      decide

theorem ofKeyword?_keyword (kind : ActionKind) : ofKeyword? kind.keyword = some kind := by
  cases kind <;> decide

theorem isLegible_keyword (kind : ActionKind) (inverted : Bool) (parameter : Option String) :
    Descriptor.IsLegible ⟨inverted, kind.keyword, parameter⟩ := by
  have hletters : kind.keyword.toList.all Descriptor.isKeywordChar = true := by
    cases kind <;> decide
  have hhead : kind.keyword.toList.head? ≠ some '-' := by
    cases kind <;> decide
  have hnonempty : kind.keyword ≠ "" := by
    cases kind <;> decide
  refine ⟨hnonempty, ?_, .inr (.inr hhead)⟩
  intro c hc
  exact Descriptor.isKeywordChar_iff.1 (List.all_eq_true.1 hletters c hc)

end ActionKind

/-! ## Tests -/

namespace Test

variable [PatternEngine]

theorem of_ofDescriptor {d : Descriptor} {t : Test} (h : ofDescriptor d = .ok t) :
    t.kind.keyword = d.keyword ∧ t.inverted = d.inverted ∧ t.parameter = d.parameter := by
  unfold ofDescriptor at h
  split at h
  · cases h
  · next kind hkind =>
      split at h
      · cases h
        exact ⟨ConditionKind.keyword_of_ofKeyword? hkind, rfl, rfl⟩
      · cases h

/-- A test is written as the token it was read from. -/
theorem text_of_parse {token : String} {t : Test} (h : parse token = .ok t) : t.text = token := by
  unfold parse at h
  split at h
  · cases h
  · next d hd =>
      rcases of_ofDescriptor h with ⟨hkeyword, hinverted, hparameter⟩
      have htoken : token = d.text := (Descriptor.parse?_eq_some_iff.1 hd).2
      calc
        t.text = d.text := by simp only [text, Descriptor.text, hkeyword, hinverted, hparameter]
        _ = token := htoken.symm

theorem parse_text {token : String} {t : Test} (h : parse token = .ok t) :
    parse t.text = .ok t := by
  have htext := text_of_parse h
  simpa [htext] using h

end Test

/-! ## Changes -/

namespace Change

/-- Only a label action depends on its parameter: it has one, and the wildcard is only taken
away. -/
def IsAllowed (c : Change) : Prop :=
  c.kind = .label → c.parameter ≠ none ∧ (c.parameter = some Label.wildcard → c.inverted = true)

theorem ofDescriptor_eq_ok_iff {d : Descriptor} {c : Change} : ofDescriptor d = .ok c ↔
    ActionKind.ofKeyword? d.keyword = some c.kind ∧ c.inverted = d.inverted ∧
      c.parameter = d.parameter ∧ c.IsAllowed := by
  rcases c with ⟨kind, inverted, parameter⟩
  unfold ofDescriptor IsAllowed
  cases hkind : ActionKind.ofKeyword? d.keyword with
  | none => simp
  | some kind' =>
      simp only [Option.some.injEq]
      constructor
      · intro h
        -- two checks stand in the way: one for a missing parameter, one for the wildcard
        split at h
        · cases h
        · next hgiven =>
            split at h
            · cases h
            · next hwildcard =>
                cases h
                refine ⟨rfl, rfl, rfl, ?_⟩
                intro hlabel
                refine ⟨fun hnone => hgiven ⟨hlabel, hnone⟩, ?_⟩
                intro hall
                cases hinverted : d.inverted with
                | false => exact absurd ⟨hlabel, hall, hinverted⟩ hwildcard
                | true => rfl
      · rintro ⟨rfl, rfl, rfl, hallowed⟩
        have hgiven : ¬ (kind' = .label ∧ d.parameter = none) := by
          rintro ⟨hlabel, hnone⟩
          exact (hallowed hlabel).1 hnone
        have hwildcard :
            ¬ (kind' = .label ∧ d.parameter = some Label.wildcard ∧ d.inverted = false) := by
          rintro ⟨hlabel, hall, hupright⟩
          have hinverted := (hallowed hlabel).2 hall
          rw [hupright] at hinverted
          cases hinverted
        rw [if_neg hgiven, if_neg hwildcard]

theorem parse_eq_ok_iff {token : String} {c : Change} :
    parse token = .ok c ↔ ∃ d, Descriptor.parse? token = some d ∧ ofDescriptor d = .ok c := by
  unfold parse
  cases Descriptor.parse? token with
  | none => simp
  | some d => simp

/-- A change is written with the canonical one of its keywords. -/
theorem text_of_parse {token : String} {c : Change} (h : parse token = .ok c) :
    c.text = ActionKind.canonicalToken token := by
  rcases parse_eq_ok_iff.1 h with ⟨d, hd, hc⟩
  rcases ofDescriptor_eq_ok_iff.1 hc with ⟨hkind, hinverted, hparameter, _⟩
  have hkeyword := ActionKind.keyword_of_ofKeyword? hkind
  simp only [text, ActionKind.canonicalToken, hd, hkeyword, hinverted, hparameter]

example : ActionKind.canonicalToken "-L:work:urgent" = "-label:work:urgent" := by decide +kernel

/-- What a change is written as is read as the same change. -/
theorem parse_text {token : String} {c : Change} (h : parse token = .ok c) :
    parse c.text = .ok c := by
  rcases parse_eq_ok_iff.1 h with ⟨d, _, hc⟩
  have hallowed := (ofDescriptor_eq_ok_iff.1 hc).2.2.2
  have hlegible := c.kind.isLegible_keyword c.inverted c.parameter
  have hread : Descriptor.parse? c.text = some ⟨c.inverted, c.kind.keyword, c.parameter⟩ :=
    Descriptor.parse?_eq_some_iff.2 ⟨hlegible, rfl⟩
  refine parse_eq_ok_iff.2 ⟨_, hread, ofDescriptor_eq_ok_iff.2 ⟨?_, rfl, rfl, hallowed⟩⟩
  exact c.kind.ofKeyword?_keyword

end Change

/-! ## Sides -/

namespace Side

variable {α : Type} (parse : String → Except RuleError α) (text : α → String)

mutual

/-- Building never nests deeper. -/
theorem depth_of_buildNested : ∀ {s : Spec} {x : Nested α} {drops : List Drop},
    buildNested parse s = .ok (x, drops) → x.depth ≤ s.depth
  | .leaf token, x, drops, h => by
      simp only [buildNested] at h
      split at h
      · cases h
        simp [Nested.depth]
      · cases h
  | .list items, x, drops, h => by
      simp only [buildNested, Except.ok.injEq, Prod.mk.injEq] at h
      rcases h with ⟨rfl, _⟩
      have hitems := depthAll_buildItems items
      simp only [Nested.depth]
      omega

theorem depthAll_buildItems : ∀ items : List Spec,
    Nested.depthAll (buildItems parse items).1 ≤ Nested.depthAll items
  | [] => by
      simp [buildItems, Nested.depthAll]
  | s :: rest => by
      have hrest := depthAll_buildItems rest
      simp only [buildItems, Nested.depthAll]
      split
      · next x drops hs =>
          have hfirst := depth_of_buildNested hs
          simp only [Nested.depthAll]
          omega
      · -- an item that is left out does not count
        simp only
        omega

end

theorem built_eq_some {s : Spec} {x : Nested α} (h : (build parse s).built = some x) :
    s.depth ≤ maxDepth ∧ ∃ drops, buildNested parse s = .ok (x, drops) := by
  simp only [build, Nested.limit_lt_depthUpTo_iff] at h
  split at h
  · cases h
  · next hdepth =>
      split at h
      · next y drops hs =>
          cases h
          exact ⟨Nat.not_lt.1 hdepth, drops, hs⟩
      · cases h

mutual

/-- Where every leaf is read back from its text, the whole is. -/
theorem buildNested_map : ∀ {x : Nested α}, (∀ a ∈ x.leaves, parse (text a) = .ok a) →
    buildNested parse (x.map text) = .ok (x, [])
  | .leaf a, h => by
      have ha := h a (by simp [Nested.leaves])
      simp [Nested.map, buildNested, ha]
  | .list items, h => by
      have hitems : buildItems parse (Nested.mapAll text items) = (items, []) :=
        buildItems_mapAll (by simpa [Nested.leaves] using h)
      simp [Nested.map, buildNested, hitems]

theorem buildItems_mapAll : ∀ {xs : List (Nested α)},
    (∀ a ∈ Nested.leavesAll xs, parse (text a) = .ok a) →
      buildItems parse (Nested.mapAll text xs) = (xs, [])
  | [], _ => by
      simp [Nested.mapAll, buildItems]
  | x :: xs, h => by
      have hx : buildNested parse (x.map text) = .ok (x, []) :=
        buildNested_map fun a ha => h a (by simp [Nested.leavesAll, ha])
      have hxs : buildItems parse (Nested.mapAll text xs) = (xs, []) :=
        buildItems_mapAll fun a ha => h a (by simp [Nested.leavesAll, ha])
      simp [Nested.mapAll, buildItems, hx, hxs]

end

/-- A side that was built, written back, is built as it is. -/
theorem build_map_text
    (hstable : ∀ {token : String} {a : α}, parse token = .ok a → parse (text a) = .ok a)
    {s : Spec} {x : Nested α} (h : (build parse s).built = some x) :
    build parse (x.map text) = ⟨some x, []⟩ := by
  rcases built_eq_some parse h with ⟨hdepth, drops, hs⟩
  -- a leaf of what was built was read from some token, so that it is read back
  have hleaves : ∀ a ∈ x.leaves, parse (text a) = .ok a := by
    intro a ha
    rw [leaves_of_buildNested parse hs] at ha
    rcases List.mem_filterMap.1 ha with ⟨token, _, htoken⟩
    have hread : parse token = .ok a := by
      cases hparse : parse token with
      | error e => simp [hparse, Except.toOption] at htoken
      | ok b => simpa [hparse, Except.toOption] using htoken
    exact hstable hread
  -- what was built is no deeper than what it was built from, so that it passes the check again
  have hshallow : (x.map text).depth ≤ maxDepth := by
    have hbuilt := depth_of_buildNested parse hs
    rw [Nested.depth_map]
    omega
  have hrebuilt := buildNested_map parse text hleaves
  simp [build, Nested.limit_lt_depthUpTo_iff, Nat.not_lt.2 hshallow, hrebuilt]

theorem map_text_readable {f : String → String}
    (htext : ∀ {token : String} {a : α}, parse token = .ok a → text a = f token)
    (tokens : List String) :
    (readable parse tokens).map text = (tokens.filter fun token => (parse token).isOk).map f := by
  induction tokens with
  | nil => rfl
  | cons token tokens ih =>
      cases hparse : parse token with
      | error e =>
          have hrest := readable_cons_error parse hparse tokens
          simpa [hrest, hparse, Except.isOk, Except.toBool] using ih
      | ok a =>
          have hrest := readable_cons_ok parse hparse tokens
          simpa [hrest, hparse, Except.isOk, Except.toBool, htext hparse] using ih

end Side

/-! ## Rules -/

/-- A rule as an entry of a document: a token for every leaf, and a list for every list. -/
def Rule.entry (r : Rule) : Entry := (r.condition.map Test.text, r.action.map Change.text)

namespace Entry

variable [PatternEngine]

theorem rule?_eq_some_iff {e : Entry} {r : Rule} : rule? e = some r ↔
    (Side.condition e.1).built = some r.condition ∧ (Side.action e.2).built = some r.action := by
  rcases r with ⟨c, a⟩
  unfold rule?
  cases (Side.condition e.1).built <;> cases (Side.action e.2).built <;> simp

/-- A rule that comes of an entry is the one that comes of writing it back. -/
theorem ofEntry_entry {e : Entry} {r : Rule} (h : rule? e = some r) (n : Nat) :
    Compiled.ofEntry n r.entry = ⟨[r], []⟩ := by
  rcases rule?_eq_some_iff.1 h with ⟨hc, ha⟩
  have hcondition : Side.condition r.entry.1 = ⟨some r.condition, []⟩ :=
    Side.build_map_text Test.parse Test.text Test.parse_text hc
  have haction : Side.action r.entry.2 = ⟨some r.action, []⟩ :=
    Side.build_map_text Change.parse Change.text Change.parse_text ha
  simp [Compiled.ofEntry, hcondition, haction]

theorem leaves_entry {e : Entry} {r : Rule} (h : rule? e = some r) :
    r.entry.1.leaves = e.1.leaves.filter (fun token => (Condition.parse token).isOk) ∧
      r.entry.2.leaves =
        (e.2.leaves.filter fun token => (Action.parse token).isOk).map ActionKind.canonicalToken := by
  rcases rule?_eq_some_iff.1 h with ⟨hc, ha⟩
  rcases Side.built_eq_some Test.parse hc with ⟨_, _, hcondition⟩
  rcases Side.built_eq_some Change.parse ha with ⟨_, _, haction⟩
  have htests : r.condition.leaves.map Test.text =
      (e.1.leaves.filter fun token => (Test.parse token).isOk).map id := by
    rw [Side.leaves_of_buildNested Test.parse hcondition]
    exact Side.map_text_readable Test.parse Test.text Test.text_of_parse e.1.leaves
  have hchanges : r.action.leaves.map Change.text =
      (e.2.leaves.filter fun token => (Change.parse token).isOk).map ActionKind.canonicalToken := by
    rw [Side.leaves_of_buildNested Change.parse haction]
    exact Side.map_text_readable Change.parse Change.text Change.text_of_parse e.2.leaves
  refine ⟨?_, ?_⟩
  · simpa [Rule.entry, Nested.leaves_map, isOk_conditionParse] using htests
  · simpa [Rule.entry, Nested.leaves_map, isOk_actionParse] using hchanges

end Entry

/-! ## Documents -/

variable [PatternEngine]

theorem ofEntriesFrom_map_entry (rules : RuleSet)
    (hrules : ∀ r ∈ rules, ∃ e, Entry.rule? e = some r) :
    ∀ n : Nat, Compiled.ofEntriesFrom n (rules.map Rule.entry) = ⟨rules, []⟩ := by
  induction rules with
  | nil =>
      intro n
      rfl
  | cons r rules ih =>
      intro n
      rcases hrules r (by simp) with ⟨e, he⟩
      have hfirst := Entry.ofEntry_entry he n
      have hrest := ih (fun r' hr' => hrules r' (by simp [hr'])) (n + 1)
      simp [Compiled.ofEntriesFrom, hfirst, hrest]

/-- The rules of a document, written back as a document, compile into the same rules, and nothing is
left out.  What is written are the readable tokens of the entry a rule comes of, those of its action
with their canonical keywords; every test is written as its token, and every change is read back
from what it is written as. -/
theorem ofEntries_writeBack (es : List Entry) :
    Compiled.ofEntries ((Compiled.ofEntries es).rules.map Rule.entry) =
        ⟨(Compiled.ofEntries es).rules, []⟩ ∧
      (Compiled.ofEntries es).rules = es.filterMap Entry.rule? ∧
      (∀ e r, Entry.rule? e = some r →
        r.entry.1.leaves = e.1.leaves.filter (fun token => (Condition.parse token).isOk) ∧
          r.entry.2.leaves =
            (e.2.leaves.filter fun token => (Action.parse token).isOk).map ActionKind.canonicalToken) ∧
      (∀ token t, Test.parse token = .ok t → t.text = token) ∧
      ∀ token c, Change.parse token = .ok c →
        c.text = ActionKind.canonicalToken token ∧ Change.parse c.text = .ok c := by
  have hsurvive := Compiled.rules_ofEntriesFrom es 0
  refine ⟨?_, hsurvive, ?_, ?_, ?_⟩
  · refine ofEntriesFrom_map_entry (Compiled.ofEntries es).rules ?_ 0
    intro r hr
    have hmem : r ∈ es.filterMap Entry.rule? := hsurvive ▸ hr
    rcases List.mem_filterMap.1 hmem with ⟨e, _, he⟩
    exact ⟨e, he⟩
  · intro e r h
    exact Entry.leaves_entry h
  · intro token t h
    exact Test.text_of_parse h
  · intro token c h
    exact ⟨Change.text_of_parse h, Change.parse_text h⟩

end MailRules

import MailRules.Proofs.Legality

/-!
# BuiltDepth — how deep a side may be, and how deep what is built of it is

A side is measured before it is built, by a look that stops at its limit and leaves a list at the
first item that reaches it.  Still the measure is right: a side is refused for its depth just if it
is too deep.  This file defines `Side.TellsDepth`, a depth that is given as the reason why something
was left out, and proves:

* `Vocabulary.Judges.ne_depthExceeded`, by which no token by itself is refused for its depth;
* `Side.depth_eq_of_buildNested`, by which the depth is kept if nothing is left out;
* `Side.depth_limit`: what the bounded look finds, when a side is refused for its depth and which
  depth is told then, and how deep a condition that is built can be.

What is built can be less deep than what it is built of, since the deepest token may be one that is
left out.
-/

namespace MailRules

/-! ## Tokens -/

namespace Vocabulary

variable [PatternEngine] {v : Vocabulary} {token : String}

theorem Objects.ne_depthExceeded {e : RuleError} (h : v.Objects token e) (depth : Nat) :
    e ≠ .depthExceeded depth := by
  cases h <;> simp

/-- A token is never refused for its depth. -/
theorem Judges.ne_depthExceeded {α : Type} {result : Except RuleError α} (h : v.Judges token result)
    (depth : Nat) : result ≠ .error (.depthExceeded depth) := by
  cases result with
  | ok a => simp
  | error e =>
      have hfirst : v.ObjectsFirst token e := h
      simpa using hfirst.applies.ne_depthExceeded depth

end Vocabulary

namespace Spec

variable {α : Type} (parse : String → Except RuleError α)

/-- What is rejected are tokens, each for the error it is read with. -/
theorem parse_of_mem_rejected {loss : Loss} {tokens : List String} {d : Drop}
    (h : d ∈ rejected parse loss tokens) : parse d.value = .error d.error := by
  rcases List.mem_filterMap.1 h with ⟨token, _, hdrop⟩
  cases hparse : parse token with
  | ok a => simp [hparse] at hdrop
  | error e =>
      obtain rfl : (⟨token, e, loss⟩ : Drop) = d := by simpa [hparse] using hdrop
      exact hparse

theorem parse_of_mem_losses {s : Spec} (hdepth : s.depth ≤ maxDepth) {d : Drop}
    (h : d ∈ losses parse s) : parse d.value = .error d.error := by
  cases s with
  | leaf token => exact parse_of_mem_rejected parse (by simpa [losses, Nat.not_lt.2 hdepth] using h)
  | list items => exact parse_of_mem_rejected parse (by simpa [losses, Nat.not_lt.2 hdepth] using h)

end Spec

/-! ## Sides -/

namespace Side

/-- Something was left out of a side because it is that deep. -/
def TellsDepth {α : Type} (side : Side α) (depth : Nat) : Prop :=
  ∃ d ∈ side.drops, d.error = .depthExceeded depth

variable {α : Type} (parse : String → Except RuleError α)

/-- A side that is too deep comes to nothing but one report, whose depth is the first that is too
much. -/
theorem build_of_deep {s : Spec} (h : maxDepth < s.depth) :
    build parse s = ⟨none, [⟨s.elided id maxDepth, .depthExceeded (maxDepth + 1), .rule⟩]⟩ := by
  have hlook : s.depthUpTo maxDepth = maxDepth + 1 := by
    have hmin := Nested.depthUpTo_eq_min s maxDepth
    omega
  simp [build, hlook]

/-- If no token is refused for its depth, only a side as a whole is. -/
theorem tellsDepth_build_iff (hread : ∀ token depth, parse token ≠ .error (.depthExceeded depth))
    (s : Spec) (depth : Nat) :
    (build parse s).TellsDepth depth ↔ maxDepth < s.depth ∧ depth = maxDepth + 1 := by
  constructor
  · rintro ⟨d, hd, herror⟩
    by_cases hdeep : maxDepth < s.depth
    · have honly : d = ⟨s.elided id maxDepth, .depthExceeded (maxDepth + 1), .rule⟩ := by
        simpa [build_of_deep parse hdeep] using hd
      subst honly
      exact ⟨hdeep, (RuleError.depthExceeded.inj herror).symm⟩
    · -- a side that is not too deep loses tokens only
      have hloss : d ∈ Spec.losses parse s := by simpa [drops_build] using hd
      have htoken := Spec.parse_of_mem_losses parse (Nat.not_lt.1 hdeep) hloss
      exact absurd (htoken.trans (congrArg Except.error herror)) (hread d.value depth)
  · rintro ⟨hdeep, rfl⟩
    rw [build_of_deep parse hdeep]
    exact ⟨_, List.mem_singleton.2 rfl, rfl⟩

mutual

/-- If nothing is left out, what is built has the depth of what it is built of. -/
theorem depth_eq_of_buildNested : ∀ {s : Spec} {x : Nested α},
    buildNested parse s = .ok (x, []) → x.depth = s.depth
  | .leaf token, x, h => by
      simp only [buildNested] at h
      split at h
      · cases h
        simp [Nested.depth]
      · cases h
  | .list items, x, h => by
      simp only [buildNested, Except.ok.injEq, Prod.mk.injEq] at h
      rcases h with ⟨rfl, hnothing⟩
      have hitems := depthAll_eq_of_buildItems items hnothing
      simp only [Nested.depth, hitems]

theorem depthAll_eq_of_buildItems : ∀ items : List Spec, (buildItems parse items).2 = [] →
    Nested.depthAll (buildItems parse items).1 = Nested.depthAll items
  | [], _ => by
      simp [buildItems, Nested.depthAll]
  | s :: rest, h => by
      simp only [buildItems] at h ⊢
      split at h
      · next x drops hs =>
          -- neither the first item nor those after it lose anything
          have hdrops : drops = [] ∧ (buildItems parse rest).2 = [] := by simpa using h
          have hfirst := depth_eq_of_buildNested (hdrops.1 ▸ hs)
          have hrest := depthAll_eq_of_buildItems rest hdrops.2
          simp only [Nested.depthAll, hfirst, hrest]
      · -- an item that is left out is reported
        simp at h

end

theorem depth_of_built {s : Spec} {x : Nested α} (h : (build parse s).built = some x) :
    x.depth ≤ s.depth ∧ s.depth ≤ maxDepth ∧ ((build parse s).drops = [] → x.depth = s.depth) := by
  rcases built_eq_some parse h with ⟨hdepth, drops, hs⟩
  refine ⟨depth_of_buildNested parse hs, hdepth, ?_⟩
  intro hnothing
  have hdrops : drops = [] := by
    have hshallow : ¬ maxDepth < s.depthUpTo maxDepth := by
      simpa [Nested.limit_lt_depthUpTo_iff] using hdepth
    simpa [build, hshallow, hs] using hnothing
  exact depth_eq_of_buildNested parse (hdrops ▸ hs)

/-- The bounded look finds the depth, cut off one above its limit.  A side is refused for its depth
just if it is too deep, and the depth that is told then is always one more than what is allowed.  A
condition that is built is never deeper than what it is built of, nor than what is allowed, and just
as deep if nothing was left out. -/
theorem depth_limit [PatternEngine] (s : Spec) :
    (∀ limit, s.depthUpTo limit = min s.depth (limit + 1)) ∧
      (∀ depth, (condition s).TellsDepth depth ↔ maxDepth < s.depth ∧ depth = maxDepth + 1) ∧
      (∀ depth, (action s).TellsDepth depth ↔ maxDepth < s.depth ∧ depth = maxDepth + 1) ∧
      (maxDepth < s.depth → (condition s).built = none ∧ (action s).built = none) ∧
      ∀ c : Condition, (condition s).built = some c →
        c.depth ≤ s.depth ∧ c.depth ≤ maxDepth ∧ ((condition s).drops = [] → c.depth = s.depth) := by
  refine ⟨Nested.depthUpTo_eq_min s, ?_, ?_, ?_, ?_⟩
  · exact tellsDepth_build_iff Test.parse
      (fun token => (Test.judges_parse token).ne_depthExceeded) s
  · exact tellsDepth_build_iff Change.parse
      (fun token => (Change.judges_parse token).ne_depthExceeded) s
  · intro hdeep
    simp [condition, action, build_of_deep _ hdeep]
  · intro c hc
    rcases depth_of_built Test.parse hc with ⟨hle, hdepth, hkept⟩
    exact ⟨hle, Nat.le_trans hle hdepth, hkept⟩

/-- The deepest token cannot be read, and what is built is less deep. -/
example : let s : Spec := .list [.leaf "inbox", .list [.leaf "bogus"]]
    s.depth = 3 ∧ (condition s).built.map Nested.depth = some 2 := by
  decide +kernel

end Side
end MailRules

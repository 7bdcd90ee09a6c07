import Mathlib.Data.List.Forall2
import MailRules.Source

/-!
# Conversion — from the value of a document to its entries

What the readers of documents deliver is a tree of scalars, lists and maps.  A document of rules has
one map, at the root; a map anywhere below it costs the whole document.  This file defines:

* `Value.IsOrdinary`, the values that the languages of documents have in common;
* `Value.HasMap`, that a map stands somewhere in a value;
* `Value.Becomes`, the side of an entry that a value stands for, of the same shape, and
  `Value.EntryOf`, the same for a pair and an entry;
* `Source.Serves`, that a source has a text under an identifier;

and proves `Source.load_converts`: an ordinary value is converted into one entry for each of its
pairs, in order, unless a key or a value has a map in it, and then the source has nothing to give.

Whole numbers of more than 64 bits, values under names of their own and places where the text fails
are no ordinary values.  What becomes of them is no matter of shape.
-/

namespace MailRules
namespace Value

/-! ## Values and sides of entries -/

/-- Values made of scalars, lists and maps alone. -/
inductive IsOrdinary : Value → Prop where
  | null : IsOrdinary .null
  | bool (b : Bool) : IsOrdinary (.bool b)
  | int (n : Int) : IsOrdinary (.int n)
  | float (x : Binary64) : IsOrdinary (.float x)
  | string (s : String) : IsOrdinary (.string s)
  | list {items : List Value} (hitems : ∀ v ∈ items, IsOrdinary v) : IsOrdinary (.list items)
  | map {pairs : List (Value × Value)} (hkeys : ∀ p ∈ pairs, IsOrdinary p.1)
      (hvalues : ∀ p ∈ pairs, IsOrdinary p.2) : IsOrdinary (.map pairs)

/-- A value is a map, or has one in it at any depth. -/
inductive HasMap : Value → Prop where
  | here (pairs : List (Value × Value)) : HasMap (.map pairs)
  | inside {v : Value} {items : List Value} (hmem : v ∈ items) (hv : HasMap v) : HasMap (.list items)

/-- A scalar becomes the token it is written as, null the empty one, and a list becomes the list of
what its items become. -/
inductive Becomes : Value → Spec → Prop where
  | null : Becomes .null (.leaf "")
  | bool (b : Bool) : Becomes (.bool b) (.leaf (boolText b))
  | int (n : Int) : Becomes (.int n) (.leaf (toString n))
  | float (x : Binary64) : Becomes (.float x) (.leaf (Shortest.positional x))
  | string (s : String) : Becomes (.string s) (.leaf s)
  | list {items : List Value} {specs : List Spec} (hitems : List.Forall₂ Becomes items specs) :
      Becomes (.list items) (.list specs)

def EntryOf (p : Value × Value) (e : Entry) : Prop := Becomes p.1 e.1 ∧ Becomes p.2 e.2

/-! ## One side -/

section

variable (format : Format)

mutual

theorem spec?_eq_ok_iff : ∀ (v : Value) (s : Spec), spec? format v = .ok s ↔ Becomes v s
  | null, _ => ⟨fun h => by cases h; exact .null, fun h => by cases h; rfl⟩
  | bool b, _ => ⟨fun h => by cases h; exact .bool b, fun h => by cases h; rfl⟩
  | int n, _ => ⟨fun h => by cases h; exact .int n, fun h => by cases h; rfl⟩
  | float x, _ => ⟨fun h => by cases h; exact .float x, fun h => by cases h; rfl⟩
  | string text, _ => ⟨fun h => by cases h; exact .string text, fun h => by cases h; rfl⟩
  | list items, s => by
      have hitems := specs?_eq_ok_iff items
      constructor
      · intro h
        cases hspecs : specs? format items with
        | error e => simp [spec?, hspecs] at h
        | ok specs =>
            obtain rfl : Nested.list specs = s := by simpa [spec?, hspecs] using h
            exact .list ((hitems specs).1 hspecs)
      · intro h
        cases h with
        | list hbecome => simp [spec?, (hitems _).2 hbecome]
  -- nothing else becomes a side
  | wide _, _ => ⟨nofun, nofun⟩
  | map _, _ => ⟨nofun, nofun⟩
  | tagged, _ => ⟨nofun, nofun⟩
  | broken, _ => ⟨nofun, nofun⟩

theorem specs?_eq_ok_iff : ∀ (vs : List Value) (specs : List Spec),
    specs? format vs = .ok specs ↔ List.Forall₂ Becomes vs specs
  | [], specs => by
      constructor
      · intro h
        cases h
        exact .nil
      · intro h
        cases h
        rfl
  | v :: vs, specs => by
      have hfirst := spec?_eq_ok_iff v
      have hrest := specs?_eq_ok_iff vs
      constructor
      · intro h
        cases hv : spec? format v with
        | error e => simp [specs?, hv] at h
        | ok s =>
            cases hvs : specs? format vs with
            | error e => simp [specs?, hv, hvs] at h
            | ok more =>
                obtain rfl : s :: more = specs := by simpa [specs?, hv, hvs] using h
                exact .cons ((hfirst s).1 hv) ((hrest more).1 hvs)
      · intro h
        cases h with
        | cons hbecome hbecomes => simp [specs?, (hfirst _).2 hbecome, (hrest _).2 hbecomes]

end

end

/-! ## Values that become something -/

theorem exists_forall₂_iff {α β : Type} {R : α → β → Prop} {xs : List α} :
    (∃ ys, List.Forall₂ R xs ys) ↔ ∀ x ∈ xs, ∃ y, R x y := by
  induction xs with
  | nil => simp
  | cons x xs ih =>
      rw [List.forall_mem_cons, ← ih]
      constructor
      · rintro ⟨_, h⟩
        cases h with
        | cons hx hxs => exact ⟨⟨_, hx⟩, ⟨_, hxs⟩⟩
      · rintro ⟨⟨y, hx⟩, ⟨ys, hxs⟩⟩
        exact ⟨y :: ys, .cons hx hxs⟩

/-- Only a map stands in the way. -/
theorem IsOrdinary.exists_becomes_iff {v : Value} (h : IsOrdinary v) :
    (∃ s, Becomes v s) ↔ ¬ HasMap v := by
  induction h with
  | null => exact ⟨fun _ => nofun, fun _ => ⟨_, .null⟩⟩
  | bool b => exact ⟨fun _ => nofun, fun _ => ⟨_, .bool b⟩⟩
  | int n => exact ⟨fun _ => nofun, fun _ => ⟨_, .int n⟩⟩
  | float x => exact ⟨fun _ => nofun, fun _ => ⟨_, .float x⟩⟩
  | string s => exact ⟨fun _ => nofun, fun _ => ⟨_, .string s⟩⟩
  | map _ _ => exact ⟨nofun, fun h => absurd (.here _) h⟩
  | @list items _ ih =>
      -- a list becomes something just if each item does
      have hall : (∃ s, Becomes (.list items) s) ↔ ∀ v ∈ items, ∃ s, Becomes v s := by
        rw [← exists_forall₂_iff]
        constructor
        · rintro ⟨_, h⟩
          cases h with
          | list hitems => exact ⟨_, hitems⟩
        · rintro ⟨specs, hitems⟩
          exact ⟨.list specs, .list hitems⟩
      rw [hall]
      constructor
      · intro hbecome hmap
        cases hmap with
        | inside hmem hv => exact (ih _ hmem).1 (hbecome _ hmem) hv
      · intro hnone v hmem
        exact (ih v hmem).2 fun hv => hnone (.inside hmem hv)

/-! ## Documents -/

section

variable (format : Format)

theorem bind_eq_ok_iff {ε α β : Type} {x : Except ε α} {f : α → Except ε β} {b : β} :
    x >>= f = .ok b ↔ ∃ a, x = .ok a ∧ f a = .ok b := by
  cases x with
  | error e => simp [bind, Except.bind]
  | ok a => simp [bind, Except.bind]

theorem pairs?_eq_ok_iff {pairs : List (Value × Value)} : ∀ {es : List Entry},
    pairs? format pairs = .ok es ↔ List.Forall₂ EntryOf pairs es := by
  induction pairs with
  | nil =>
      intro es
      rw [List.forall₂_nil_left_iff]
      simp [pairs?, eq_comm]
  | cons p pairs ih =>
      intro es
      rcases p with ⟨k, v⟩
      have hkey := spec?_eq_ok_iff format k
      have hvalue := spec?_eq_ok_iff format v
      -- the key is read first, then the value, then the pairs that follow
      have hread : pairs? format ((k, v) :: pairs) = .ok es ↔
          ∃ condition, spec? format k = .ok condition ∧ ∃ action, spec? format v = .ok action ∧
            ∃ more, pairs? format pairs = .ok more ∧ (condition, action) :: more = es := by
        simp only [pairs?, bind_eq_ok_iff, pure, Except.pure, Except.ok.injEq]
      rw [hread, List.forall₂_cons_left_iff]
      constructor
      · rintro ⟨condition, hk, action, hv, more, hrest, rfl⟩
        exact ⟨(condition, action), more, ⟨(hkey _).1 hk, (hvalue _).1 hv⟩, ih.1 hrest, rfl⟩
      · rintro ⟨e, more, ⟨hcondition, haction⟩, hmore, rfl⟩
        exact ⟨e.1, (hkey _).2 hcondition, e.2, (hvalue _).2 haction, more, ih.2 hmore, rfl⟩

theorem entries?_eq_ok_iff {v : Value} {es : List Entry} : entries? format v = .ok es ↔
    v = .null ∧ es = [] ∨ ∃ pairs, v = .map pairs ∧ List.Forall₂ EntryOf pairs es := by
  cases v with
  | null => simp [entries?, eq_comm]
  | map pairs => simp [entries?, pairs?_eq_ok_iff]
  | _ => simp [entries?]

end

theorem exists_entryOf_iff {p : Value × Value} (hkey : IsOrdinary p.1) (hvalue : IsOrdinary p.2) :
    (∃ e, EntryOf p e) ↔ ¬ HasMap p.1 ∧ ¬ HasMap p.2 := by
  rw [← hkey.exists_becomes_iff, ← hvalue.exists_becomes_iff]
  constructor
  · rintro ⟨e, hcondition, haction⟩
    exact ⟨⟨e.1, hcondition⟩, ⟨e.2, haction⟩⟩
  · rintro ⟨⟨condition, hcondition⟩, ⟨action, haction⟩⟩
    exact ⟨(condition, action), hcondition, haction⟩

theorem IsOrdinary.exists_entries_iff {v : Value} (h : IsOrdinary v) (format : Format) :
    (∃ es, entries? format v = .ok es) ↔
      v = .null ∨ ∃ pairs, v = .map pairs ∧ ∀ p ∈ pairs, ¬ HasMap p.1 ∧ ¬ HasMap p.2 := by
  simp only [entries?_eq_ok_iff]
  cases h with
  | null => simp
  | @map pairs hkeys hvalues =>
      have hall : (∃ es, List.Forall₂ EntryOf pairs es) ↔ ∀ p ∈ pairs, ¬ HasMap p.1 ∧ ¬ HasMap p.2 := by
        rw [exists_forall₂_iff]
        refine forall₂_congr fun p hp => ?_
        exact exists_entryOf_iff (hkeys p hp) (hvalues p hp)
      simpa using hall
  | _ => simp

end Value

/-! ## Sources -/

namespace Source

/-- A source has a text under an identifier. -/
inductive Serves : Source → String → String → Prop where
  | memory {documents : List (String × String)} {id text : String} (defaultId : Option String)
      (h : List.lookup id documents = some text) : Serves (Source.memory documents defaultId) id text
  | files {files : FileTree} {root : Option String} {id text : String} (defaultId : Option String)
      (h : files.readText (fileOf root id) = .ok text) :
      Serves (Source.files files root defaultId) id text

theorem Serves.load_eq {s : Source} {id text : String} (h : s.Serves id text) :
    s.load id = Document.read id text := by
  cases h with
  | memory _ h => simp [Source.memory, memoryLoad, h]
  | files _ h => simp [Source.files, fileLoad, h]

/-- An ordinary value is converted just if it is null or a map without maps in its keys and values.
Then there is one entry for each pair, in order, each side of the shape of what it was; and a source
whose text has this value gives these entries.  Otherwise the source has a malformed document,
however many of the pairs could have been converted. -/
theorem load_converts {v : Value} (hv : v.IsOrdinary) (format : Format) :
    ((∃ es, v.entries? format = .ok es) ↔
        v = .null ∨ ∃ pairs, v = .map pairs ∧ ∀ p ∈ pairs, ¬ p.1.HasMap ∧ ¬ p.2.HasMap) ∧
      (∀ es, v.entries? format = .ok es ↔
        v = .null ∧ es = [] ∨ ∃ pairs, v = .map pairs ∧ List.Forall₂ Value.EntryOf pairs es) ∧
      ∀ (s : Source) (id text : String) (complete : Bool), s.Serves id text → isBlankText text = false →
        Document.formatOf id = format → Document.valueOf format text = (v, complete) →
          (∀ es, s.load id = .ok es ↔ complete = true ∧ v.entries? format = .ok es) ∧
          ((¬ ∃ es, v.entries? format = .ok es) →
            ∃ cause, s.load id = .error (.malformed id format cause)) := by
  refine ⟨hv.exists_entries_iff format, fun es => Value.entries?_eq_ok_iff format, ?_⟩
  intro s id text complete hserves hblank hformat hvalue
  cases hentries : v.entries? format with
  | error e =>
      have hload : s.load id = .error (.malformed id format e) := by
        rw [hserves.load_eq]
        simp [Document.read, hblank, hformat, Document.entries?, hvalue, hentries]
      simp [hload]
  | ok es =>
      -- a text that goes on after the value is no document
      have hload : s.load id =
          if complete then .ok es else .error (.malformed id format .unreadable) := by
        rw [hserves.load_eq]
        cases complete <;> simp [Document.read, hblank, hformat, Document.entries?, hvalue, hentries]
      cases complete <;> simp [hload]

/-- A map inside a list costs the good pair before it as well. -/
theorem load_converts_map_inside :
    let text := "\x7b\"a\":\"b\",\"c\":[1,\x7b\x7d]\x7d"
    let v : Value := .map [(.string "a", .string "b"), (.string "c", .list [.int 1, .map []])]
    v.IsOrdinary ∧ Document.valueOf .json text = (v, true) ∧ (¬ ∃ es, v.entries? .json = .ok es) ∧
      ∃ cause, (Source.memory [("rules.json", text)] none).load "rules.json" =
        .error (.malformed "rules.json" .json cause) := by
  -- computed before the text and its value are given names, which get in the way of it
  have hvalue : Document.valueOf .json "\x7b\"a\":\"b\",\"c\":[1,\x7b\x7d]\x7d" =
      (.map [(.string "a", .string "b"), (.string "c", .list [.int 1, .map []])], true) := by
    with_unfolding_all rfl
  intro text v
  have hlist : Value.IsOrdinary (.list [.int 1, .map []]) := by
    refine .list ?_
    intro item hitem
    rcases List.mem_pair.1 hitem with rfl | rfl
    · exact .int 1
    · exact .map (by simp) (by simp)
  have hordinary : v.IsOrdinary := by
    refine .map ?_ ?_
    · intro p hp
      rcases List.mem_pair.1 hp with rfl | rfl
      · exact .string "a"
      · exact .string "c"
    · intro p hp
      rcases List.mem_pair.1 hp with rfl | rfl
      · exact .string "b"
      · exact hlist
  have hserves : (Source.memory [("rules.json", text)] none).Serves "rules.json" text :=
    .memory none rfl
  have hblank : isBlankText text = false := by decide +kernel
  have hformat : Document.formatOf "rules.json" = .json := by decide +kernel
  rcases load_converts hordinary .json with ⟨_, _, hload⟩
  have hnone : ¬ ∃ es, v.entries? .json = .ok es := by
    rintro ⟨es, hes⟩
    cases hes
  exact ⟨hordinary, hvalue, hnone, (hload _ _ _ _ hserves hblank hformat hvalue).2 hnone⟩

/-- Keys that come again make entries again, and lists keep their items. -/
example : Document.read "rules.json" "\x7b\"a\": [null, [1.5]], \"a\": true\x7d" =
    .ok [(.leaf "a", .list [.leaf "", .list [.leaf "1.5"]]), (.leaf "a", .leaf "true")] := by
  decide +kernel

end Source
end MailRules

import MailRules.Text.CharSet
import MailRules.Unicode.Addition
import MailRules.Unicode.Age
import MailRules.Unicode.BinaryProperty
import MailRules.Unicode.CaseFolding
import MailRules.Unicode.GeneralCategory
import MailRules.Unicode.Script
import MailRules.Unicode.ScriptExtension
import MailRules.Unicode.Segmentation

/-!
# Property — sets of characters by the name of a property

Names are compared loosely: case, blanks, underscores and hyphens do not count, and a leading `is`
is dropped.  This file defines:

* `Unicode.property?`, the set behind one name, which may be a yes-or-no property, a general category
  or a script, tried in that order;
* `Unicode.propertyValue?`, the set behind a property name and a value name;
* the sets behind `\d`, `\s` and `\w`, and those of the characters of names;
* `Unicode.foldCase`, the closure of a set under simple case folding.
-/

namespace MailRules
namespace Unicode

/-! ## Loose names -/

/-- Lower case, without blanks, underscores, hyphens and characters outside ASCII, and without a
leading `is`; but `isc` keeps its `is`, being a name of its own. -/
def looseName (name : String) : String :=
  let cs := name.toList
  let hasIs := match cs with
    | a :: b :: _ => (a == 'i' || a == 'I') && (b == 's' || b == 'S')
    | _ => false
  let body := (if hasIs then cs.drop 2 else cs).filter fun c =>
    c.toNat < 0x80 && c != ' ' && c != '_' && c != '-'
  let body := body.map Char.toLower
  String.ofList (if hasIs && body == ['c'] then ['i', 's', 'c'] else body)

/-- The cell of the row that goes by a loose name. -/
def row? (table : List (String × String)) (name : String) : Option String :=
  (table.find? fun r => (r.1.splitOn " ").contains name).map Prod.snd

def set? (table : List (String × String)) (name : String) : Option CharSet :=
  (row? table name).map CharSet.ofRuns

/-! ## General categories -/

def category (shortName : String) : CharSet :=
  (set? generalCategories shortName).getD CharSet.empty

/-- Assigned to no general category, which is also what `cn` names. -/
def unassigned : CharSet := category "cn"

def category? (name : String) : Option CharSet :=
  match name with
  | "any" => some CharSet.all
  | "ascii" => some (CharSet.range 0 0x7F)
  | "assigned" => some unassigned.compl
  | _ =>
      match set? generalCategories name with
      | some s => some s
      | none => (row? categoryGroups name).map fun members =>
          CharSet.unions ((members.splitOn " ").map category)

/-! ## Queries -/

/-- Three short names are general categories although properties of another kind share them, so
they are never looked up as properties. -/
def property? (name : String) : Option CharSet :=
  let name := looseName name
  let binary := if name == "cf" || name == "sc" || name == "lc" then none
    else set? binaryProperties name
  binary <|> category? name <|> set? scripts name

/-- Everything assigned up to and including a version. -/
def ageUpTo? (version : String) : Option CharSet :=
  if (row? ages version).isSome then
    let older := ages.takeWhile fun r => !(r.1.splitOn " ").contains version
    let newest := ages.filter fun r => (r.1.splitOn " ").contains version
    some (CharSet.unions ((older ++ newest).map fun r => CharSet.ofRuns r.2))
  else none

def propertyValue? (name value : String) : Option CharSet :=
  let value := looseName value
  match looseName name with
  | "gc" | "generalcategory" => category? value
  | "sc" | "script" => set? scripts value
  | "scx" | "scriptextensions" => set? scriptExtensions value
  | "age" => ageUpTo? value
  | "gcb" | "graphemeclusterbreak" => set? graphemeBreaks value
  | "wb" | "wordbreak" => set? wordBreaks value
  | "sb" | "sentencebreak" => set? sentenceBreaks value
  | _ => none

/-! ## The sets behind the one-letter classes -/

def binary (name : String) : CharSet := (set? binaryProperties name).getD CharSet.empty

def digit : CharSet := category "nd"

def space : CharSet := binary "whitespace"

def word : CharSet :=
  CharSet.unions
    [binary "alphabetic", category "mn", category "mc", category "me", digit, category "pc",
      binary "joincontrol"]

/-! ## Characters of names -/

def alphabetic : CharSet := (binary "alphabetic").union (CharSet.ofRuns addedAlphabetic)

def alphanumeric : CharSet :=
  CharSet.unions
    [alphabetic, category "nd", category "nl", category "no", CharSet.ofRuns addedNumeric]

/-! ## Case folding -/

/-- A character with the others of its orbit. -/
abbrev Orbit := Nat × List Nat

def familyOrbits : List Nat → List Orbit
  | start :: step :: count :: dist :: rest =>
      ((List.range count).flatMap fun k =>
        let c := start + k * step
        [(c, [c + dist]), (c + dist, [c])]) ++ familyOrbits rest
  | _ => []

def listedOrbits (ns : List Nat) : List Orbit :=
  go ns.length ns
where
  go : Nat → List Nat → List Orbit
    | fuel + 1, size :: rest =>
        let members := rest.take size
        members.map (fun c => (c, members.filter (· != c))) ++ go fuel (rest.drop size)
    | _, _ => []

/-- Every character that case folding moves, with those it is folded together with. -/
def orbits : List Orbit :=
  familyOrbits (CharSet.numbers pairFamilies) ++ listedOrbits (CharSet.numbers largeOrbits)

/-- The set together with all characters that fold like a member. -/
def foldCase (s : CharSet) : CharSet :=
  let added := orbits.flatMap fun o =>
    if CharSet.holds s.ranges o.1 then o.2.map fun c => (c, c) else []
  if added.isEmpty then s else CharSet.ofRanges (s.ranges ++ added)

end Unicode
end MailRules

import MailRules.Number.Shortest
import MailRules.Text.Quoted

/-!
# Value — what a document holds

The value a reader of documents delivers.  Where reading fails the value is `broken`, and what
stands before that place is still there: who takes the value apart from left to right meets a wrong
type before the failure, or the failure before it, as in the text.

* `Value.shape` says in words what was found where something else was wanted;
* `DataError.message` is the text of what went wrong.
-/

namespace MailRules

inductive Value where
  | null
  | bool (b : Bool)
  /-- A whole number that fits into 64 bits, with a sign or without. -/
  | int (n : Int)
  /-- A whole number of up to 128 bits that does not fit into 64. -/
  | wide (n : Int)
  | float (x : Binary64)
  | string (s : String)
  | list (items : List Value)
  | map (pairs : List (Value × Value))
  /-- A value under a name of the document's own making. -/
  | tagged
  | broken
  deriving Repr, Inhabited

/-- The languages documents are written in. -/
inductive Format where
  | json
  | yaml
  deriving DecidableEq, Repr

namespace Format

def name : Format → String
  | json => "JSON"
  | yaml => "YAML"

def floatText : Format → Binary64 → String
  | json => Shortest.scientific
  | yaml => Shortest.pointed

end Format

namespace Value

def boolText (b : Bool) : String := if b then "true" else "false"

def inTicks (s : String) : String := "`" ++ s ++ "`"

/-- What a value is, in words. -/
def shape (format : Format) : Value → String
  | null => "unit value"
  | bool b => "boolean " ++ inTicks (boolText b)
  | int n => "integer " ++ inTicks (toString n)
  | wide n => "integer " ++ inTicks (toString n) ++ (if 0 ≤ n then " as u128" else " as i128")
  | float x => "floating point " ++ inTicks (format.floatText x)
  | string s => "string " ++ Quoted.text s
  | list _ => "sequence"
  | map _ => "map"
  | tagged => "enum"
  | broken => ""

end Value

/-! ## What can be wrong with a document -/

inductive DataError where
  /-- The text of the document cannot be read. -/
  | unreadable
  | wrongType (found expected : String)
  | missingField (name : String)
  | duplicateField (name : String)
  deriving DecidableEq, Repr

end MailRules

import MailRules.Descriptor
import MailRules.Document.Value
import MailRules.RuleError

/-!
# Entries — the rules of a document

A document of rules is a map; its pairs are the entries, in order, and a key that comes again makes
an entry again.  Scalars that are no texts stand for the tokens they are written as.  Nothing at all
is a document without entries.

* `Value.spec?` reads one side of an entry;
* `Value.entries?` reads a document, all of it or nothing.
-/

namespace MailRules

namespace DataError

def message : DataError → String
  | unreadable => withheldReason
  | wrongType found expected => "invalid type: " ++ found ++ ", expected " ++ expected
  | missingField name => "missing field `" ++ name ++ "`"
  | duplicateField name => "duplicate field `" ++ name ++ "`"

end DataError

namespace Value

/-- The error of finding a value where something else is wanted; a failure of reading stays one. -/
def refuse (format : Format) (expected : String) : Value → DataError
  | broken => .unreadable
  | v => .wrongType (v.shape format) expected

/-! ## One side -/

def specWanted : String := "a descriptor string or a list of descriptors"

mutual

def spec? (format : Format) : Value → Except DataError Spec
  | null => .ok (.leaf "")
  | bool b => .ok (.leaf (boolText b))
  | int n => .ok (.leaf (toString n))
  | float x => .ok (.leaf (Shortest.positional x))
  | string s => .ok (.leaf s)
  | list items =>
      match specs? format items with
      | .ok specs => .ok (.list specs)
      | .error e => .error e
  | wide n => .error (refuse format specWanted (wide n))
  | map pairs => .error (refuse format specWanted (map pairs))
  | tagged => .error (refuse format specWanted tagged)
  | broken => .error .unreadable

def specs? (format : Format) : List Value → Except DataError (List Spec)
  | [] => .ok []
  | v :: vs =>
      match spec? format v with
      | .error e => .error e
      | .ok s =>
          match specs? format vs with
          | .error e => .error e
          | .ok ss => .ok (s :: ss)

end

/-! ## Documents -/

def entriesWanted : String := "a mapping of condition descriptors to action descriptors"

def pairs? (format : Format) : List (Value × Value) → Except DataError (List Entry)
  | [] => .ok []
  | (k, v) :: rest => do
      let condition ← spec? format k
      let action ← spec? format v
      let entries ← pairs? format rest
      return (condition, action) :: entries

def entries? (format : Format) : Value → Except DataError (List Entry)
  | null => .ok []
  | map pairs => pairs? format pairs
  | v => .error (refuse format entriesWanted v)

end Value
end MailRules

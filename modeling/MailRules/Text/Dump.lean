import MailRules.Text.Quoted

/-!
# Dump — records and lists laid out for reading

A dump is written on one line, as `Name { field: value, field: value }` with lists in brackets, or
over many lines, every field and every item on its own, indented by four blanks more than what holds
it and followed by a comma.
-/

namespace MailRules

inductive Dump where
  | word (text : String)
  | quoted (text : String)
  | list (items : List Dump)
  | record (name : String) (fields : List (String × Dump))
  deriving Repr

namespace Dump

def truth (b : Bool) : Dump := word (if b then "true" else "false")

/-! ## On one line -/

mutual

def oneLine : Dump → String
  | word text => text
  | quoted text => Quoted.text text
  | list items => "[" ++ String.intercalate ", " (oneLineItems items) ++ "]"
  | record name fields => name ++ " \x7b " ++ String.intercalate ", " (oneLineFields fields) ++ " \x7d"

def oneLineItems : List Dump → List String
  | [] => []
  | d :: ds => oneLine d :: oneLineItems ds

def oneLineFields : List (String × Dump) → List String
  | [] => []
  | (name, d) :: rest => (name ++ ": " ++ oneLine d) :: oneLineFields rest

end

/-! ## Over many lines -/

def indentation (level : Nat) : String := String.ofList (List.replicate (4 * level) ' ')

/-- Lines of a block, each indented and followed by a comma, between an opening and a closing
mark. -/
def block (level : Nat) (opening : String) (lines : List String) (closing : String) : String :=
  opening ++ "\n" ++ String.join (lines.map fun l => indentation (level + 1) ++ l ++ ",\n") ++
    indentation level ++ closing

mutual

/-- The layout of a value that stands in a block of the given level. -/
def linesAt (level : Nat) : Dump → String
  | word text => text
  | quoted text => Quoted.text text
  | list [] => "[]"
  | list (d :: ds) => block level "[" (linesAt (level + 1) d :: itemsAt (level + 1) ds) "]"
  | record name fields => block level (name ++ " \x7b") (fieldsAt (level + 1) fields) "\x7d"

def itemsAt (level : Nat) : List Dump → List String
  | [] => []
  | d :: ds => linesAt level d :: itemsAt level ds

def fieldsAt (level : Nat) : List (String × Dump) → List String
  | [] => []
  | (name, d) :: rest => (name ++ ": " ++ linesAt level d) :: fieldsAt level rest

end

def manyLines (d : Dump) : String := linesAt 0 d

end Dump
end MailRules

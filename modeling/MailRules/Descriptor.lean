import MailRules.Nested

/-!
# Descriptor — one condition or action in compact form

A token has the form `[-]keyword[:parameter]`.  The keyword is a run of ASCII letters, underscores
and hyphens; all that follows the first colon is the parameter, which may be empty.  A leading
hyphen inverts, unless nothing usable is left without it: then it belongs to the keyword.
-/

namespace MailRules

structure Descriptor where
  inverted : Bool
  keyword : String
  parameter : Option String
  deriving DecidableEq, Repr

/-- What a document gives for a condition or an action: one token, or a list of which all hold or
all are carried out. -/
abbrev Spec := Nested String

/-- A condition and an action as a document gives them. -/
abbrev Entry := Spec × Spec

namespace Descriptor

def isKeywordChar (c : Char) : Bool := c.isAlpha || c == '_' || c == '-'

/-- Splits a token into keyword and parameter. -/
def split? (cs : List Char) : Option (String × Option String) :=
  match cs.takeWhile isKeywordChar, cs.dropWhile isKeywordChar with
  | [], _ => none
  | keyword, [] => some (String.ofList keyword, none)
  | keyword, ':' :: parameter => some (String.ofList keyword, some (String.ofList parameter))
  | _, _ => none

def ofChars? (cs : List Char) : Option Descriptor :=
  let upright := (split? cs).map fun p => ⟨false, p.1, p.2⟩
  match cs with
  | '-' :: rest =>
      match split? rest with
      | some (keyword, parameter) => some ⟨true, keyword, parameter⟩
      | none => upright
  | _ => upright

def parse? (token : String) : Option Descriptor := ofChars? token.toList

/-- The written form of inversion, keyword and parameter. -/
def write (inverted : Bool) (keyword : String) (parameter : Option String) : String :=
  (if inverted then "-" else "") ++ keyword ++
    match parameter with
    | some p => ":" ++ p
    | none => ""

def text (d : Descriptor) : String := write d.inverted d.keyword d.parameter

end Descriptor

namespace Spec

def text (s : Spec) : String := Nested.text id s

end Spec
end MailRules

import MailRules.Descriptor
import MailRules.Message
import MailRules.RuleError

/-!
# Condition — what a rule asks of a message

A condition is a test or a list of conditions, all of which have to hold; an empty list always
holds.  A test looks for a pattern in one text of the message or for one label, and may be inverted.
-/

namespace MailRules

/-! ## Kinds -/

inductive ConditionKind where
  | anywhere
  | sender
  | recipient
  | subject
  | body
  | list
  | label
  | spam
  | inbox
  | deleted
  | starred
  deriving DecidableEq, Repr

namespace ConditionKind

def all : List ConditionKind :=
  [anywhere, sender, recipient, subject, body, list, label, spam, inbox, deleted, starred]

def keyword : ConditionKind → String
  | anywhere => "match"
  | sender => "from"
  | recipient => "to"
  | subject => "subj"
  | body => "body"
  | list => "list"
  | label => "label"
  | spam => "spam"
  | inbox => "inbox"
  | deleted => "deleted"
  | starred => "starred"

def ofKeyword? (k : String) : Option ConditionKind := all.find? fun c => c.keyword == k

/-- The text a kind looks for its pattern in.  The body is not told apart from the headers. -/
def field? : ConditionKind → Option TextField
  | anywhere => some .rawText
  | body => some .rawText
  | sender => some .sender
  | recipient => some .recipient
  | subject => some .subject
  | list => some .listAddress
  | _ => none

/-- The label a kind asks for whatever its parameter is. -/
def fixedLabel? : ConditionKind → Option String
  | spam => some Label.spam
  | inbox => some Label.inbox
  | deleted => some Label.deleted
  | starred => some Label.starred
  | _ => none

end ConditionKind

/-! ## Tests -/

inductive Check where
  | text (field : TextField) (pattern : TextPattern)
  | label (name : String)
  deriving Repr

structure Test where
  kind : ConditionKind
  inverted : Bool
  parameter : Option String
  check : Check
  deriving Repr

namespace Test

variable [PatternEngine]

/-- What a kind checks, given the parameter of a descriptor. -/
def checkOf (kind : ConditionKind) (d : Descriptor) : Except RuleError Check :=
  match kind.field?, kind.fixedLabel?, d.parameter with
  | some field, _, some p =>
      match TextPattern.compile p with
      | .ok pattern => .ok (.text field pattern)
      | .error e => .error (.pattern e)
  | none, some label, _ => .ok (.label label)
  | none, none, some p => .ok (.label p)
  | _, _, none => .error (.missingParameter d.text)

def ofDescriptor (d : Descriptor) : Except RuleError Test :=
  match ConditionKind.ofKeyword? d.keyword with
  | none => .error (.unknownKeyword .condition d.keyword d.text)
  | some kind =>
      match checkOf kind d with
      | .ok check => .ok ⟨kind, d.inverted, d.parameter, check⟩
      | .error e => .error e

def parse (token : String) : Except RuleError Test :=
  match Descriptor.parse? token with
  | none => .error (.invalidDescriptor token)
  | some d => ofDescriptor d

def text (t : Test) : String := Descriptor.write t.inverted t.kind.keyword t.parameter

/-- The answer before inversion. -/
def tested (t : Test) (m : Message) : Bool :=
  match t.check with
  | .text field pattern => pattern.isFoundIn (m.field field)
  | .label name => m.hasLabel name

def holds (t : Test) (m : Message) : Bool := t.tested m != t.inverted

end Test

/-! ## Conditions -/

abbrev Condition := Nested Test

namespace Condition

variable [PatternEngine]

def parse (token : String) : Except RuleError Condition := (Test.parse token).map .leaf

def text (c : Condition) : String := Nested.text Test.text c

mutual

def holds (m : Message) : Condition → Bool
  | .leaf t => t.holds m
  | .list items => allHold m items

def allHold (m : Message) : List Condition → Bool
  | [] => true
  | c :: cs => holds m c && allHold m cs

end

end Condition
end MailRules

import MailRules.Descriptor
import MailRules.Message
import MailRules.RuleError

/-!
# Action — what a rule does to a message

An action is a change of labels or a list of actions, all of which are carried out in order.
-/

namespace MailRules

/-! ## Kinds -/

inductive ActionKind where
  | label
  | inbox
  | unread
  | read
  | star
  | spam
  | delete
  deriving DecidableEq, Repr

namespace ActionKind

/-- The keywords of a kind, the one it is written with first. -/
def keywords : ActionKind → List String
  | label => ["label", "L", "l"]
  | inbox => ["inbox"]
  | unread => ["unread"]
  | read => ["read"]
  | star => ["star"]
  | spam => ["spam"]
  | delete => ["delete", "deleted"]

def all : List ActionKind := [label, inbox, unread, read, star, spam, delete]

def keyword : ActionKind → String
  | label => "label"
  | inbox => "inbox"
  | unread => "unread"
  | read => "read"
  | star => "star"
  | spam => "spam"
  | delete => "delete"

def ofKeyword? (k : String) : Option ActionKind := all.find? fun a => a.keywords.contains k

end ActionKind

/-! ## Changes -/

structure Change where
  kind : ActionKind
  inverted : Bool
  parameter : Option String
  deriving DecidableEq, Repr

namespace Change

/-- A label action needs a label, and the wildcard can only be taken away. -/
def ofDescriptor (d : Descriptor) : Except RuleError Change :=
  match ActionKind.ofKeyword? d.keyword with
  | none => .error (.unknownKeyword .action d.keyword d.text)
  | some kind =>
      if kind = .label ∧ d.parameter = none then .error (.missingParameter d.text)
      else if kind = .label ∧ d.parameter = some Label.wildcard ∧ d.inverted = false then
        .error (.wildcardLabel d.text)
      else .ok ⟨kind, d.inverted, d.parameter⟩

def parse (token : String) : Except RuleError Change :=
  match Descriptor.parse? token with
  | none => .error (.invalidDescriptor token)
  | some d => ofDescriptor d

def text (c : Change) : String := Descriptor.write c.inverted c.kind.keyword c.parameter

/-- A star action takes the star away and an inverted one gives it. -/
def apply (c : Change) (m : Message) : Message :=
  match c.kind, c.inverted with
  | .label, inverted =>
      match c.parameter with
      | none => m
      | some l =>
          if inverted then if l = Label.wildcard then m.clearLabels else m.removeLabel l
          else m.addLabel l
  | .inbox, false => m.addLabel Label.inbox
  | .inbox, true => m.removeLabel Label.inbox
  | .unread, false => m.addLabel Label.unread
  | .unread, true => m.removeLabel Label.unread
  | .read, false => m.removeLabel Label.unread
  | .read, true => m.addLabel Label.unread
  | .star, false => m.removeLabel Label.starred
  | .star, true => m.addLabel Label.starred
  | .spam, false => (m.addLabel Label.spam).removeLabel Label.inbox
  | .spam, true => m.removeLabel Label.spam
  | .delete, false => (m.addLabel Label.deleted).removeLabel Label.inbox
  | .delete, true => m.removeLabel Label.deleted

end Change

/-! ## Actions -/

abbrev Action := Nested Change

namespace Action

def parse (token : String) : Except RuleError Action := (Change.parse token).map .leaf

def text (a : Action) : String := Nested.text Change.text a

mutual

def apply : Action → Message → Message
  | .leaf c, m => c.apply m
  | .list items, m => applyAll items m

def applyAll : List Action → Message → Message
  | [], m => m
  | a :: as, m => applyAll as (apply a m)

end

end Action
end MailRules

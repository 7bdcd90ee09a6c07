import MailRules.StringSet

/-!
# Message — what rules look at and change

Rules read the texts of a message and change its labels, nothing else.
-/

namespace MailRules

structure Message where
  sender : String := ""
  recipient : String := ""
  subject : String := ""
  listAddress : String := ""
  body : String := ""
  labels : StringSet := StringSet.empty
  deriving DecidableEq, Repr, Inhabited

/-- The texts of a message that a pattern can be looked for in. -/
inductive TextField where
  | rawText
  | sender
  | recipient
  | subject
  | listAddress
  deriving DecidableEq, Repr

def TextField.name : TextField → String
  | .rawText => "raw_text"
  | .sender => "from"
  | .recipient => "to"
  | .subject => "subject"
  | .listAddress => "list_address"

def TextField.ofName? : String → Option TextField
  | "raw_text" => some .rawText
  | "from" => some .sender
  | "to" => some .recipient
  | "subject" => some .subject
  | "list_address" => some .listAddress
  | _ => none

namespace Message

/-- The headers, a blank line and the body.  A message that came through no list has no list
header. -/
def rawText (m : Message) : String :=
  "From: " ++ m.sender ++ "\nTo: " ++ m.recipient ++ "\nSubject: " ++ m.subject ++ "\n" ++
    (if m.listAddress.isEmpty then "" else "List-Id: <" ++ m.listAddress ++ ">\n") ++ "\n" ++ m.body

def field (m : Message) : TextField → String
  | .rawText => m.rawText
  | .sender => m.sender
  | .recipient => m.recipient
  | .subject => m.subject
  | .listAddress => m.listAddress

def hasLabel (m : Message) (l : String) : Bool := decide (l ∈ m.labels)

def addLabel (m : Message) (l : String) : Message := { m with labels := m.labels.insert l }

def removeLabel (m : Message) (l : String) : Message := { m with labels := m.labels.erase l }

def clearLabels (m : Message) : Message := { m with labels := StringSet.empty }

end Message

/-! ## Labels with a meaning of their own -/

namespace Label

def inbox : String := "inbox"

def unread : String := "unread"

def starred : String := "starred"

def spam : String := "spam"

def deleted : String := "deleted"

/-- As the parameter of an inverted label action this stands for every label. -/
def wildcard : String := "*"

end Label
end MailRules

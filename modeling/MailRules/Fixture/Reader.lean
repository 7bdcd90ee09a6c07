import MailRules.Fixture
import MailRules.Yaml.Record

/-!
# Reader — fixtures in YAML

A text holds one fixture in each of its documents.

* `Fixture.all?` reads them all, `Fixture.only?` a text that has to hold one.
-/

namespace MailRules
namespace Fixture

open Yaml (Tree Node Decoder)

/-! ## Fields -/

def putDraft (t : Tree) (d : MessageDraft) (name : String) (n : Node) : Decoder MessageDraft := do
  match name with
  | "from" => return { d with sender := ← Decoder.text t n }
  | "to" => return { d with recipient := ← Decoder.text t n }
  | "subject" => return { d with subject := ← Decoder.text t n }
  | "list" => return { d with listAddress := ← Decoder.text t n }
  | "body" => return { d with body := ← Decoder.text t n }
  | _ => return { d with labels := ← Decoder.texts t n }

def draft (t : Tree) (n : Node) : Decoder MessageDraft :=
  Decoder.fields t "MessageConfig" ["from", "to", "subject", "list", "body", "labels"] []
    (putDraft t) {} n

def putCase (t : Tree) (c : FixtureCase) (name : String) (n : Node) : Decoder FixtureCase := do
  match name with
  | "name" => return { c with name := ← Decoder.text t n }
  | "message" => return { c with draft := ← draft t n }
  | _ => return { c with expect := ← Decoder.texts t n }

def case (t : Tree) (n : Node) : Decoder FixtureCase :=
  Decoder.fields t "TestCase" ["name", "message", "expect"] ["name", "expect"] (putCase t) {} n

/-- The rules are a document inside the document, one level down. -/
def rules (t : Tree) (n : Node) : Decoder (List Entry) := do
  let (v, jumps) := t.expand (Yaml.maxNesting - 1) (← get) n
  let entries ← v.entries? .yaml
  match jumps with
  | some jumps =>
      set jumps
      return entries
  | none => throw .unreadable

def putField (t : Tree) (f : Fixture) (name : String) (n : Node) : Decoder Fixture := do
  match name with
  | "name" => return { f with name := ← Decoder.text t n }
  | "description" => return { f with description := ← Decoder.text t n }
  | "rules" => return { f with entries := ← rules t n }
  | "diagnostics" => return { f with diagnostics := ← Decoder.count? t n }
  | _ => return { f with cases := ← Decoder.items t (case t) n }

def fixture (t : Tree) (n : Node) : Decoder Fixture :=
  Decoder.fields t "Fixture" ["name", "description", "rules", "diagnostics", "cases"]
    ["name", "rules", "cases"] (putField t) {} n

/-! ## Texts -/

def ofTree? (t : Tree) : Except DataError Fixture :=
  match (fixture t t.root).run t.maxJumps with
  | .error e => .error e
  | .ok (f, _) => if t.complete then .ok f else .error .unreadable

def all? (text : String) : Except DataError (List Fixture) := (Tree.all text).mapM ofTree?

def only? (text : String) : Except DataError Fixture :=
  match Tree.all text with
  | [t] => ofTree? t
  | t :: _ =>
      match ofTree? t with
      | .error e => .error e
      | .ok _ => .error .unreadable
  | [] => .error .unreadable

end Fixture
end MailRules

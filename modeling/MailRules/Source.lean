import MailRules.Document.Entries
import MailRules.Files.Tree
import MailRules.Json.Reader
import MailRules.Text.Blank
import MailRules.Yaml.Expansion

/-!
# Source — where documents of rules come from

A source answers four questions about identifiers as things are at one moment.  That there is no
document is told apart from one that cannot be read and from one that makes no sense.

* `Document.read` reads a text, as JSON if its identifier ends that way and as YAML otherwise;
* `Source.memory` holds texts by their identifiers, `Source.files` looks for files.
-/

namespace MailRules

inductive SourceError where
  | absent (id : String)
  | unreadable (id : String) (cause : FileError)
  | malformed (id : String) (format : Format) (cause : DataError)
  deriving DecidableEq, Repr

namespace SourceError

def message : SourceError → String
  | absent id => "rule source " ++ quoted id ++ " does not exist"
  | unreadable id _ => "failed to read rule source " ++ quoted id
  | malformed id format cause =>
      "rule source " ++ quoted id ++ " is malformed: " ++ format.name ++ " parse error: " ++
        cause.message

def isAbsent : SourceError → Bool
  | absent _ => true
  | _ => false

end SourceError

/-! ## Documents -/

namespace Document

/-- The language of a document, told by the ending of its identifier. -/
def formatOf (id : String) : Format :=
  match Path.extension? id with
  | some e => if e.toList.map Char.toLower = ['j', 's', 'o', 'n'] then .json else .yaml
  | none => .yaml

/-- The value of a text, and whether nothing else follows it. -/
def valueOf : Format → String → Value × Bool
  | .json, text => Json.document text
  | .yaml, text => Yaml.document text

/-- A wrong type is found before what follows the value. -/
def entries? (format : Format) (text : String) : Except DataError (List Entry) :=
  let v := valueOf format text
  match v.1.entries? format with
  | .error e => .error e
  | .ok es => if v.2 then .ok es else .error .unreadable

/-- A blank text has no rules. -/
def read (id text : String) : Except SourceError (List Entry) :=
  if isBlankText text then .ok []
  else
    let format := formatOf id
    match entries? format text with
    | .ok es => .ok es
    | .error e => .error (.malformed id format e)

end Document

/-! ## Sources -/

structure Source where
  holds : String → Bool
  load : String → Except SourceError (List Entry)
  /-- The same for all identifiers of one document. -/
  canonicalId : String → String
  defaultId : Option String

namespace Source

def memoryLoad (documents : List (String × String)) (id : String) :
    Except SourceError (List Entry) :=
  match List.lookup id documents with
  | some text => Document.read id text
  | none => .error (.absent id)

def memory (documents : List (String × String)) (defaultId : Option String) : Source where
  holds id := (List.lookup id documents).isSome
  load := memoryLoad documents
  canonicalId id := id
  defaultId := defaultId

/-- The file an identifier stands for; without a root it is a path already. -/
def fileOf (root : Option String) (id : String) : String :=
  match root with
  | some root => Path.join root id
  | none => id

def fileLoad (files : FileTree) (root : Option String) (id : String) :
    Except SourceError (List Entry) :=
  match files.readText (fileOf root id) with
  | .ok text => Document.read id text
  | .error .notFound => .error (.absent id)
  | .error e => .error (.unreadable id e)

/-- Where a file really is; for one that cannot be found, where its path leads if there are no
links. -/
def fileId (files : FileTree) (root : Option String) (id : String) : String :=
  let path := fileOf root id
  (files.realPath? path).getD (Path.clean path)

def files (files : FileTree) (root defaultId : Option String) : Source where
  holds id := files.isFile (fileOf root id)
  load := fileLoad files root
  canonicalId := fileId files root
  defaultId := defaultId

/-- The document used when none is named: the one the environment gives, unless that is empty, or
else one in the home directory. -/
def standardId (given : Option String) (home : String) : String :=
  match given with
  | some path => if path = "" then inHome home else path
  | none => inHome home
where
  inHome (home : String) : String := Path.join (Path.join home ".mailsift") "filters.yaml"

end Source
end MailRules

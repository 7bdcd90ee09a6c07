/-!
# Path — names of files

A path is a list of steps parted by slashes: to stay, to go up, or to go to a name.  One that begins
with a slash starts at the root.

* `Path.join` puts a path after a directory;
* `Path.fold` takes the steps of a path without looking at any files, and `Path.clean` writes down
  where they lead;
* `Path.extension?` is the end of the last name, after its last dot.
-/

namespace MailRules
namespace Path

inductive Step where
  | stay
  | up
  | name (n : String)
  deriving DecidableEq, Repr

/-! ## Reading -/

/-- The parts of a text between slashes. -/
def segments : List Char → List (List Char)
  | [] => [[]]
  | c :: cs =>
      match segments cs with
      | [] => [[c]]
      | s :: rest => if c = '/' then [] :: s :: rest else (c :: s) :: rest

def stepOf (segment : List Char) : Step :=
  if segment = [] ∨ segment = ['.'] then .stay
  else if segment = ['.', '.'] then .up
  else .name (String.ofList segment)

def steps (path : String) : List Step := (segments path.toList).map stepOf

def isAbsolute (path : String) : Bool := path.toList.head? == some '/'

/-! ## Joining -/

/-- An absolute path does not depend on the directory it is put after. -/
def join (directory path : String) : String :=
  if isAbsolute path then path
  else if directory = "" ∨ directory.toList.getLast? = some '/' then directory ++ path
  else directory ++ "/" ++ path

/-! ## Folding -/

/-- Takes steps from a place below the root; above the root is the root. -/
def fold (place : List String) : List Step → List String
  | [] => place
  | .stay :: rest => fold place rest
  | .up :: rest => fold place.dropLast rest
  | .name n :: rest => fold (place ++ [n]) rest

/-- The path of a place below the root. -/
def text (place : List String) : String := "/" ++ String.intercalate "/" place

/-- The shortest way to write an absolute path, if nothing is known about the files.  A path that
names nothing stays empty. -/
def clean (path : String) : String := if path = "" then "" else text (fold [] (steps path))

/-! ## Names -/

/-- The last name, unless the path ends by going up. -/
def fileName? (path : String) : Option String :=
  match ((steps path).filter (· != .stay)).getLast? with
  | some (.name n) => some n
  | _ => none

/-- What follows the last dot of a name.  A dot in front of the name does not count. -/
def extension? (path : String) : Option String :=
  match fileName? path with
  | none => none
  | some n =>
      let cs := n.toList
      let after := (cs.reverse.takeWhile (· != '.')).reverse
      if after.length + 1 < cs.length then some (String.ofList after) else none

end Path
end MailRules

import MailRules.Files.Path

/-!
# Tree — directories, files and links

A tree of files is given by what stands at each place below the root; the root itself is a
directory.  A link stands for another path, seen from the directory it is in.

* `FileTree.walk` follows a path through directories and links;
* `FileTree.realPath?` is the place where it ends;
* `FileTree.isFile` and `FileTree.readText` look at what is there;
* `FileTree.write`, `makeDirectory`, `makeLink` and `remove` change the tree.  What cannot be done
  leaves it as it is.

Left out are the rights to look at files and to change them, and names that are not UTF-8: every
name is a text, and nothing has to be replaced when the path of a place is written down.  A path of
more than `maxPathBytes` is refused wherever it is given.  So `realPath?` has no answer for a place
whose own path is longer, where a system may have one.
-/

namespace MailRules

inductive FileNode where
  | directory
  | file (bytes : ByteArray)
  | link (target : String)

/-- What stands at each place; a place that is listed twice is as listed first. -/
structure FileTree where
  nodes : List (List String × FileNode)

/-- Why a path leads nowhere, or what stands there cannot be read. -/
inductive FileError where
  | notFound
  | notADirectory
  | isADirectory
  | nameTooLong
  | tooManyLinks
  /-- A path cannot hold the character NUL. -/
  | badPath
  /-- The file holds no text. -/
  | notText
  deriving DecidableEq, Repr

namespace FileTree

def empty : FileTree := ⟨[]⟩

def node? (t : FileTree) (place : List String) : Option FileNode :=
  if place = [] then some .directory else List.lookup place t.nodes

/-! ## Walking -/

/-- The longest name and the longest path, in bytes. -/
def maxNameBytes : Nat := 255

def maxPathBytes : Nat := 4095

/-- How many links may be followed on one way. -/
def maxLinks : Nat := 40

/-- Where the target of a link that stands in a directory begins. -/
def linkBase (directory : List String) (target : String) : List String :=
  if Path.isAbsolute target then [] else directory

/-- Takes steps from a place.  Only in a directory can a step be taken; how to go on at a link is
told by the first argument. -/
def walkFrom (onLink : List String → List Path.Step → Except FileError (List String × FileNode))
    (t : FileTree) (place : List String) : FileNode → List Path.Step →
      Except FileError (List String × FileNode)
  | node, [] => .ok (place, node)
  | .directory, .stay :: rest => walkFrom onLink t place .directory rest
  | .directory, .up :: rest => walkFrom onLink t place.dropLast .directory rest
  | .directory, .name n :: rest =>
      if maxNameBytes < n.utf8ByteSize then .error .nameTooLong
      else
        match t.node? (place ++ [n]) with
        | none => .error .notFound
        | some (.link target) => onLink (linkBase place target) (Path.steps target ++ rest)
        | some node => walkFrom onLink t (place ++ [n]) node rest
  | _, _ :: _ => .error .notADirectory

/-- Takes steps from a directory and follows at most so many links. -/
def walkLinks (t : FileTree) : Nat → List String → List Path.Step →
    Except FileError (List String × FileNode)
  | 0, place, steps => walkFrom (fun _ _ => .error .tooManyLinks) t place .directory steps
  | links + 1, place, steps => walkFrom (walkLinks t links) t place .directory steps

/-- Why a text is no path at all, whatever files there are. -/
def refusal? (path : String) : Option FileError :=
  if path.toList.contains '\x00' then some .badPath
  else if maxPathBytes < path.utf8ByteSize then some .nameTooLong
  else if path = "" then some .notFound
  else none

/-- The place an absolute path leads to, and what stands there. -/
def walk (t : FileTree) (path : String) : Except FileError (List String × FileNode) :=
  match refusal? path with
  | some e => .error e
  | none => walkLinks t maxLinks [] (Path.steps path)

/-! ## Looking -/

/-- The path of the place a path leads to.  A place that links lead to may be too deep to have
one. -/
def realPath? (t : FileTree) (path : String) : Option String :=
  match t.walk path with
  | .ok (place, _) =>
      let path := Path.text place
      if (refusal? path).isSome then none else some path
  | .error _ => none

def isFile (t : FileTree) (path : String) : Bool :=
  match t.walk path with
  | .ok (_, .file _) => true
  | _ => false

def readText (t : FileTree) (path : String) : Except FileError String :=
  match t.walk path with
  | .error e => .error e
  | .ok (_, .directory) => .error .isADirectory
  | .ok (_, .link _) => .error .notFound
  | .ok (_, .file bytes) =>
      match String.fromUTF8? bytes with
      | some text => .ok text
      | none => .error .notText

/-! ## Changing -/

def put (t : FileTree) (place : List String) (node : FileNode) : FileTree :=
  ⟨(place, node) :: t.nodes.filter fun n => n.1 != place⟩

/-- Takes away what stands at a place and below it. -/
def removeAt (t : FileTree) (place : List String) : FileTree :=
  ⟨t.nodes.filter fun n => !place.isPrefixOf n.1⟩

/-! ### Places of paths -/

/-- The place that steps name when the last of them is not followed through a link.  The directory
it is in has to be there, the place itself does not. -/
def ownPlace? (t : FileTree) (place : List String) (steps : List Path.Step) :
    Option (List String) :=
  match steps.getLast?, walkLinks t maxLinks place steps.dropLast with
  | some (.name n), .ok (directory, .directory) =>
      if maxNameBytes < n.utf8ByteSize then none else some (directory ++ [n])
  | _, _ => none

/-- The place that a path names when its last name is not followed through a link. -/
def entryPlace? (t : FileTree) (path : String) : Option (List String) :=
  if (refusal? path).isSome then none else t.ownPlace? [] (Path.steps path)

/-- The place that a file would be written to: as the last step names it, or where the links that
stand there lead, also if nothing is there yet.  A directory is no such place. -/
def filePlace? (t : FileTree) : Nat → List String → List Path.Step → Option (List String)
  | links, place, steps =>
      match ownPlace? t place steps with
      | none => none
      | some here =>
          match links, t.node? here with
          | _, some .directory => none
          -- the target takes the place of the link, seen from the directory the link is in
          | links + 1, some (.link target) =>
              filePlace? t links (linkBase here.dropLast target) (Path.steps target)
          | 0, some (.link _) => none
          | _, _ => some here

/-! ### Files, directories and links -/

/-- Writes a file into a directory that is there.  The path has to lead to the file once it is
written, so that no more links are followed on the way than a path may go through. -/
def write (t : FileTree) (path : String) (bytes : ByteArray) : FileTree :=
  match t.filePlace? maxLinks [] (Path.steps path) with
  | some place =>
      let written := t.put place (.file bytes)
      if written.isFile path then written else t
  | none => t

/-- Makes the last of the directories that steps go through, unless it is there. -/
def makeLast (t : FileTree) (steps : List Path.Step) : FileTree :=
  match walkLinks t maxLinks [] steps, ownPlace? t [] steps with
  -- a link that leads nowhere is missing too, and stands in the way
  | .error .notFound, some here => if (t.node? here).isNone then t.put here .directory else t
  | _, _ => t

/-- Makes all directories that steps go through. -/
def makeAll (t : FileTree) (steps : List Path.Step) : FileTree :=
  (List.range steps.length).foldl (fun t n => t.makeLast (steps.take (n + 1))) t

/-- Makes a directory, and those that lead to it. -/
def makeDirectory (t : FileTree) (path : String) : FileTree :=
  if (refusal? path).isSome then t else t.makeAll (Path.steps path)

/-- Takes away a file, a link or a directory with what is in it. -/
def remove (t : FileTree) (path : String) : FileTree :=
  match t.entryPlace? path with
  | some place => t.removeAt place
  | none => t

/-- Puts a link where nothing stands yet, into a directory that is there. -/
def makeLink (t : FileTree) (path target : String) : FileTree :=
  match t.entryPlace? path with
  | some place =>
      if (t.node? place).isNone && (refusal? target).isNone then t.put place (.link target) else t
  | none => t

end FileTree
end MailRules

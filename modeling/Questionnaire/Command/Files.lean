import Questionnaire.Text.Split

/-
  Files and folders, and what can go wrong with them.

  Key definitions include:
    * `FileError`
    * `FileAccess`
    * `FileTree`
    * `Path.around`
    * `FileTree.locate`
    * `FileTree.read`
    * `FileTree.write`
    * `FileTree.makeFolders`

  The commands of the program work on anything that can read
  and write files.  A file tree is such a thing that can be
  reasoned about.  It has no links and no rights, it is never
  full, and no one else works on it.
-/

------------------------------------------------------------
-- Errors and Access
------------------------------------------------------------

namespace Questionnaire

/- Why a file could not be read or written. -/
inductive FileError where
  | notFound
  | alreadyExists
  | notFolder
  | isFolder
  | nameTooLong
  deriving DecidableEq, Repr

namespace FileError

/- The number of an error. -/
def code : FileError → Nat
  | .notFound => 2
  | .alreadyExists => 17
  | .notFolder => 20
  | .isFolder => 21
  | .nameTooLong => 36

/- The name of an error. -/
def name : FileError → String
  | .notFound => "NotFound"
  | .alreadyExists => "AlreadyExists"
  | .notFolder => "NotADirectory"
  | .isFolder => "IsADirectory"
  | .nameTooLong => "InvalidFilename"

/- The message for an error. -/
def message : FileError → String
  | .notFound => "No such file or directory"
  | .alreadyExists => "File exists"
  | .notFolder => "Not a directory"
  | .isFolder => "Is a directory"
  | .nameTooLong => "File name too long"

end FileError

/- What the commands need of the files around them. -/
class FileAccess (m : Type → Type) where
  /- The text of a file. -/
  readText (path : String) : m (Except FileError String)
  /- Write a text into a file, in place of what it held. -/
  writeText (path : String) (text : String) :
    m (Except FileError Unit)
  /- Whether there is a file or folder. -/
  pathExists (path : String) : m Bool
  /- Make a folder and those around it, where they are missing. -/
  makeFolders (path : String) : m (Except FileError Unit)

end Questionnaire

------------------------------------------------------------
-- File Trees
------------------------------------------------------------

namespace Questionnaire

/- A place in a tree: the names on the way from its root. -/
abbrev TreePath : Type :=
  List String

/- Some files and folders, and the folder one works in. -/
structure FileTree where
  files : List (TreePath × String)
  folders : List TreePath
  here : TreePath
  deriving DecidableEq, Repr

namespace FileTree

/- Whether there is a folder; the root is one. -/
def isFolder
    (tree : FileTree)
    (path : TreePath) : Bool :=
  path.isEmpty || tree.folders.contains path

/- The text of a file. -/
def textOf?
    (tree : FileTree)
    (path : TreePath) : Option String :=
  tree.files.lookup path

end FileTree

end Questionnaire

------------------------------------------------------------
-- Paths
------------------------------------------------------------

namespace Questionnaire

namespace Path

/- The largest number of bytes in a path. -/
def maxLength : Nat := 4095

/- The largest number of bytes in a name. -/
def maxNameLength : Nat := 255

/- The words of a path; neighbouring slashes are one. -/
def words
    (path : String) : List String :=
  (Text.runs (fun c => c != '/') path.toList).map String.ofList

/- Whether a path ends in a slash. -/
def endsInSlash
    (path : String) : Bool :=
  path.endsWith "/"

/-
  Whether a piece of a path is a step of its own.  Nothing
  between two slashes is none, and a dot is one only where the
  path begins.
-/
def isStep
    (before : List (List Char))
    (piece : List Char) : Bool :=
  !piece.isEmpty && (before.isEmpty || piece != ['.'])

/- The beginnings of a path that end after a step, short first. -/
def stepsFrom
    (before : List (List Char)) : List (List Char) → List String
  | [] => []
  | piece :: pieces =>
      let sofar := before ++ [piece]
      if isStep before piece then
        String.ofList (Text.joinWith '/' sofar)
          :: stepsFrom sofar pieces
      else
        stepsFrom sofar pieces

/- The paths of the folders that a path passes, the last first. -/
def around
    (path : String) : List String :=
  (stepsFrom []
    (Text.split (fun c => c == '/') path.toList)).dropLast.reverse

end Path

end Questionnaire

------------------------------------------------------------
-- Following Paths
------------------------------------------------------------

namespace Questionnaire

namespace FileTree

/- What a path leads to. -/
inductive Target where
  | folder (place : TreePath)
  | file (place : TreePath) (text : String)
  | vacant (place : TreePath)
  deriving DecidableEq, Repr

/- What a name in a folder leads to. -/
def look
    (tree : FileTree)
    (folder : TreePath)
    (name : String) : Except FileError Target :=
  if name == "." then
    .ok (.folder folder)
  else if name == ".." then
    .ok (.folder folder.dropLast)
  else if Path.maxNameLength < name.utf8ByteSize then
    .error .nameTooLong
  else
    let place := folder ++ [name]
    if tree.isFolder place then
      .ok (.folder place)
    else
      match tree.textOf? place with
      | some text => .ok (.file place text)
      | none => .ok (.vacant place)

/- Follow a name from a folder to another one. -/
def enter
    (tree : FileTree)
    (folder : TreePath)
    (name : String) : Except FileError TreePath := do
  match ← tree.look folder name with
  | .folder next => return next
  | .file _ _ => throw .notFolder
  | .vacant _ => throw .notFound

/-
  The folder that the last word of a path is looked for in, and
  that word; all before it has to be there.  A path of slashes
  leads to the root itself.
-/
def approach
    (tree : FileTree)
    (path : String) : Except FileError (TreePath × String) := do
  if path.isEmpty then
    throw .notFound
  if Path.maxLength < path.utf8ByteSize then
    throw .nameTooLong
  let start := if path.startsWith "/" then [] else tree.here
  let words := Path.words path
  let folder ← words.dropLast.foldlM tree.enter start
  return (folder, words.getLast?.getD ".")

/- What a path leads to; one with a slash at its end, to no file. -/
def locate
    (tree : FileTree)
    (path : String) : Except FileError Target := do
  let (folder, name) ← tree.approach path
  match ← tree.look folder name with
  | .file place text =>
      if Path.endsInSlash path then
        throw .notFolder
      else
        return .file place text
  | other => return other

/- Whether a path leads to something. -/
def holds
    (tree : FileTree)
    (path : String) : Bool :=
  match tree.locate path with
  | .ok (.vacant _) => false
  | .ok _ => true
  | .error _ => false

/- Whether a path leads to a folder. -/
def holdsFolder
    (tree : FileTree)
    (path : String) : Bool :=
  match tree.locate path with
  | .ok (.folder _) => true
  | _ => false

end FileTree

end Questionnaire

------------------------------------------------------------
-- Reading and Writing in a Tree
------------------------------------------------------------

namespace Questionnaire

namespace FileTree

/- The text of the file that a path leads to. -/
def read
    (tree : FileTree)
    (path : String) : Except FileError String := do
  match ← tree.locate path with
  | .file _ text => return text
  | .folder _ => throw .isFolder
  | .vacant _ => throw .notFound

/- Put a text at a place, in place of what was there. -/
def put
    (tree : FileTree)
    (place : TreePath)
    (text : String) : FileTree :=
  { tree with
    files :=
      (place, text)
        :: tree.files.filter (fun file => file.1 != place) }

/-
  Write a text into the file that a path leads to.  A path with
  a slash at its end can only name a folder, whether there is
  one or not.
-/
def write
    (tree : FileTree)
    (path : String)
    (text : String) : Except FileError FileTree := do
  let (folder, name) ← tree.approach path
  if Path.endsInSlash path then
    throw .isFolder
  match ← tree.look folder name with
  | .file place _ => return tree.put place text
  | .vacant place => return tree.put place text
  | .folder _ => throw .isFolder

end FileTree

end Questionnaire

------------------------------------------------------------
-- Making Folders in a Tree
------------------------------------------------------------

namespace Questionnaire

namespace FileTree

/- Make the folder that a path names, in one that is there. -/
def makeFolder
    (tree : FileTree)
    (path : String) : Except FileError FileTree := do
  let (folder, name) ← tree.approach path
  match ← tree.look folder name with
  | .vacant place =>
      return { tree with folders := place :: tree.folders }
  | _ => throw .alreadyExists

/- Make the folder that a path names, unless there is one. -/
def ensureFolder
    (tree : FileTree)
    (path : String) : Except FileError FileTree :=
  match tree.makeFolder path with
  | .ok made => .ok made
  | .error error =>
      if tree.holdsFolder path then .ok tree else .error error

/-
  Make the folder that the first path names.  When something on
  the way to it is missing, the folders that the other paths
  name are made before it.
-/
def makeAlong
    (tree : FileTree) : List String → Except FileError FileTree
  | [] => .ok tree
  | path :: around =>
      match tree.makeFolder path with
      | .error .notFound => do
          (← makeAlong tree around).ensureFolder path
      | _ => tree.ensureFolder path

/-
  Make the folder that a path names, and those around it that
  are missing.
-/
def makeFolders
    (tree : FileTree)
    (path : String) : Except FileError FileTree :=
  tree.makeAlong (path :: Path.around path)

end FileTree

/- A change of a tree that may fail, and then changes nothing. -/
def changeTree
    (change : FileTree → Except FileError FileTree) :
    StateM FileTree (Except FileError Unit) :=
  fun tree =>
    match change tree with
    | .ok changed => (.ok (), changed)
    | .error error => (.error error, tree)

instance : FileAccess (StateM FileTree) where
  readText path := fun tree => (tree.read path, tree)
  writeText path text := changeTree (·.write path text)
  pathExists path := fun tree => (tree.holds path, tree)
  makeFolders path := changeTree (·.makeFolders path)

end Questionnaire

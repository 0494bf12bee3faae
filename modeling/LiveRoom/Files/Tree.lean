import LiveRoom.Files

/-!
# File trees

A file tree has directories with files at its leaves, and a working directory.

A path is followed one component after another.  A component that is empty or a
dot stays where it is, two dots go up, and any other goes down to the entry of that
name.  Every step, a step that stays included, starts from a directory, so a slash
behind the name of a file is an error.
-/

namespace LiveRoom

/-- **What a directory entry is.** -/
inductive Node where
  | file (content : List UInt8)
  | directory (entries : List (Path × Node))

/-- **A file tree** with the directory that relative paths start from. -/
structure FileTree where
  root : Node
  workingDirectory : Path

namespace Node

/-- The directory without entries. -/
def empty : Node := .directory []

/-- The longest name that an entry can have. -/
def maxName : Nat := 255

/-- Follows components from a node; `above` are the nodes it lies in, the nearest
first. -/
def follow (above : List Node) (node : Node) : List Path → Except FileError Node
  | [] => .ok node
  | name :: names =>
    match node with
    | .file _ => .error .notDirectory
    | .directory entries =>
      if name = [] || name = [0x2E] then follow above node names
      else if name = [0x2E, 0x2E] then
        match above with
        | [] => follow [] node names
        | parent :: others => follow others parent names
      else if maxName < name.length then .error .nameTooLong
      else
        match entries.find? fun entry => entry.1 = name with
        | none => .error .notFound
        | some entry => follow (node :: above) entry.2 names

/-- Puts a node below another one, making the directories on the way. -/
def place (node : Node) (new : Node) : List Path → Node
  | [] => new
  | name :: names =>
    let entries := match node with
      | .directory entries => entries
      | .file _ => []
    let old := ((entries.find? fun entry => entry.1 = name).map (·.2)).getD empty
    .directory ((entries.filter fun entry => entry.1 ≠ name) ++ [(name, place old new names)])

end Node

namespace FileTree

/-- The bound on the length of a path. -/
def maxPath : Nat := 4096

/-- The components of a path from the root on. -/
def fullComponents (tree : FileTree) (path : Path) : List Path :=
  if path.isAbsolute then path.components
  else tree.workingDirectory.components ++ path.components

/-- **Finds what a path leads to.** -/
def find (tree : FileTree) (path : Path) : Except FileError Node :=
  if path.contains 0 then .error .nulInName
  else if path = [] then .error .notFound
  else if maxPath ≤ path.length then .error .nameTooLong
  else tree.root.follow [] (tree.fullComponents path)

def readBytes (tree : FileTree) (path : Path) : Except FileError (List UInt8) :=
  match tree.find path with
  | .error error => .error error
  | .ok (.directory _) => .error .isDirectory
  | .ok (.file content) => .ok content

/-- **The files of a tree.** -/
def files (tree : FileTree) : Files where
  contains path := (tree.find path).toOption.isSome
  readBytes := tree.readBytes

end FileTree

end LiveRoom

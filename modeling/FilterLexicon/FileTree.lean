/-!
Files and directories, as far as reading a file at a path needs them. A place is the list of names on
the way from the root. A path with a slash in front leads from the root, any other from the working
directory; on its way `.` stays in a directory and `..` goes to the one above. The tree is the one the
program sees: no name in it stands for another place.
-/

namespace FilterLexicon

/-- What is found at a path. -/
inductive Node where
  | missing
  | directory
  /-- A file that exists but cannot be read, and why. -/
  | unreadable (reason : String)
  | file (bytes : ByteArray)

/-- Files with their bytes, or with the reason why they cannot be read, and directories that may be
empty. A directory exists also if the working directory or something else is below it. Of two files
in one place the later one counts. -/
structure FileTree where
  workingDirectory : List String := ["work"]
  files : List (List String × Except String ByteArray) := []
  directories : List (List String) := []

namespace FileTree

/-- The names between the slashes of a path. -/
def names (path : String) : List String := (path.toList.splitOn '/').map String.ofList

/-- The directory that a path leads from. -/
def start (tree : FileTree) (path : String) : List String :=
  if path.toList.head? = some '/' then [] else tree.workingDirectory

/-- The place that a name leads to from a directory. The root is above itself. -/
def step (place : List String) (name : String) : List String :=
  if name = "" ∨ name = "." then place
  else if name = ".." then place.dropLast
  else place ++ [name]

/-- The place that a path leads to. -/
def place (tree : FileTree) (path : String) : List String :=
  (names path).foldl step (tree.start path)

def addFile (tree : FileTree) (path : String) (bytes : ByteArray) : FileTree :=
  { tree with files := (tree.place path, .ok bytes) :: tree.files }

def addUnreadable (tree : FileTree) (path reason : String) : FileTree :=
  { tree with files := (tree.place path, .error reason) :: tree.files }

def addDirectory (tree : FileTree) (path : String) : FileTree :=
  { tree with directories := tree.place path :: tree.directories }

/-- The places that the tree names. There is a directory on every way to one of them. -/
def named (tree : FileTree) : List (List String) :=
  tree.workingDirectory :: (tree.directories ++ tree.files.map Prod.fst)

/-- What is found at a place. -/
def node (tree : FileTree) (place : List String) : Node :=
  match tree.files.lookup place with
  | some (.ok bytes) => .file bytes
  | some (.error reason) => .unreadable reason
  | none => if tree.named.any place.isPrefixOf then .directory else .missing

/-- What is found where names lead to. Only a directory has names below it. -/
def walk (tree : FileTree) (place : List String) : List String → Node
  | [] => tree.node place
  | name :: rest =>
    match tree.node place with
    | .directory => tree.walk (step place name) rest
    | _ => .missing

/-- What is found at a path; the empty path leads nowhere. -/
def find (tree : FileTree) (path : String) : Node :=
  if path = "" then .missing else tree.walk (tree.start path) (names path)

end FileTree
end FilterLexicon

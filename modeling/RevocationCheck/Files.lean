import RevocationCheck.Octets

/-!
# Files

All that the checks need of a file system is what reading a path yields.  A file tree is a small
file system that is given by its files; it has the directories that their names mention.  Outside of
it there are directories in which nothing can be found.
-/

namespace RevocationCheck

/-- Why a file could not be read. -/
inductive FileFault
  | notFound
  | isADirectory
  | notADirectory
  | permissionDenied
  /-- The path has a null character. -/
  | unusablePath
  | nameTooLong
deriving Repr, DecidableEq

namespace FileFault

/-- The name of the kind of a fault. -/
def name : FileFault → String
  | notFound => "NotFound"
  | isADirectory => "IsADirectory"
  | notADirectory => "NotADirectory"
  | permissionDenied => "PermissionDenied"
  | unusablePath => "InvalidInput"
  | nameTooLong => "InvalidFilename"

/-- The text for a fault. -/
def message : FileFault → String
  | notFound => "No such file or directory (os error 2)"
  | isADirectory => "Is a directory (os error 21)"
  | notADirectory => "Not a directory (os error 20)"
  | permissionDenied => "Permission denied (os error 13)"
  | unusablePath => "file name contained an unexpected NUL byte"
  | nameTooLong => "File name too long (os error 36)"

end FileFault

/-- What reading a path yields. -/
abbrev FileSystem := String → Except FileFault Octets

/-- Files by their paths, which are relative to the current directory.  A directory stays when its
last file is gone. -/
structure FileTree where
  files : List (String × Octets)
  directories : List (List String)

namespace FileTree

/-- The tree of some files. -/
def ofFiles (files : List (String × Octets)) : FileTree := ⟨files, []⟩

/-- A place in the file system. -/
inductive Node
  /-- A directory around the tree. -/
  | outside
  | directory (path : List String)
  | file (data : Octets)

/-- The names in a path. -/
def parts (path : String) : List String := path.splitOn "/"

/-- The names in the path of a file, which lead straight to it. -/
def names (path : String) : List String := (parts path).filter fun part => part ≠ "" && part ≠ "."

/-- The place with a path, if there is one. -/
def node? (tree : FileTree) (path : List String) : Option Node :=
  match tree.files.find? fun f => names f.1 = path with
  | some (_, data) => some (.file data)
  | none =>
    if path.isEmpty || (tree.files.any fun f => path.isPrefixOf (names f.1)) ||
        tree.directories.any path.isPrefixOf then
      some (.directory path)
    else none

/-- The length that a name can have, in octets. -/
def maxName : Nat := 255

/-- The length that a path can have, in octets. -/
def maxPath : Nat := 4095

/-- Walk along a path. -/
def walk (tree : FileTree) (node : Node) : List String → Except FileFault Node
  | [] => .ok node
  | part :: rest =>
    match node with
    | .file _ => .error .notADirectory
    | .outside =>
      if part = "" || part = "." || part = ".." then walk tree node rest
      else if maxName < part.utf8ByteSize then .error .nameTooLong
      else .error .notFound
    | .directory path =>
      if part = "" || part = "." then walk tree node rest
      else if part = ".." then
        walk tree (if path.isEmpty then .outside else .directory path.dropLast) rest
      else if maxName < part.utf8ByteSize then .error .nameTooLong
      else
        match tree.node? (path ++ [part]) with
        | none => .error .notFound
        | some next => walk tree next rest

/-- Read a file.  An absolute path starts outside the tree. -/
def read (tree : FileTree) : FileSystem := fun path =>
  if path.contains '\x00' then .error .unusablePath
  else if path = "" then .error .notFound
  else if maxPath < path.utf8ByteSize then .error .nameTooLong
  else
    let start : Node := if path.startsWith "/" then .outside else .directory []
    match walk tree start (parts path) with
    | .error fault => .error fault
    | .ok (.file data) => .ok data
    | .ok _ => .error .isADirectory

/-- Add a file, or give an existing one new contents. -/
def insert (tree : FileTree) (path : String) (data : Octets) : FileTree :=
  { tree with files := (path, data) :: tree.files.filter fun f => names f.1 ≠ names path }

/-- Remove a file. -/
def erase (tree : FileTree) (path : String) : FileTree :=
  { tree with
    files := tree.files.filter fun f => names f.1 ≠ names path
    directories := (names path).dropLast :: tree.directories }

end FileTree

end RevocationCheck

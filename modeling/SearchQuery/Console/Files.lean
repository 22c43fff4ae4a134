import SearchQuery.Text.Quoted

/-!
# Files

The commands read one configuration file and may write one. What they need to know of the file
system is which files with which text, and which directories, there are.

## Shape of a path

A path is the list of its names from the root. A text names a path relative to a directory; a
tilde at its front stands for the home directory. Links are not followed.
-/

namespace SearchQuery

/-- A path from the root. -/
abbrev FilePath := List String

namespace FilePath

/-- The path as a text. -/
def text (p : FilePath) : String :=
  "/" ++ "/".intercalate p

/-- The names in a text. Empty names and points do not count. -/
def names (s : String) : List String :=
  (s.splitOn "/").filter fun n => !n.isEmpty && n != "."

/-- The path that names lead to; two points lead back. -/
def follow : FilePath → List String → FilePath
  | p, [] => p
  | p, n :: ns => follow (if n == ".." then p.dropLast else p ++ [n]) ns

/-- The path that a text names. The home directories of other users are not known. -/
def ofText? (home directory : FilePath) (s : String) : Option FilePath :=
  let ns := names s
  if s.toList.head? == some '/' then some (follow [] ns)
  else
    match ns with
    | [] => some directory
    | n :: rest =>
      if n == "~" then some (follow home rest)
      else if n.toList.head? == some '~' then none
      else some (follow directory ns)

end FilePath

/-- What is wrong with a path. -/
inductive FileFault where
  | taken
  | notDirectory
  | isDirectory
  deriving DecidableEq, Inhabited

/-- The message of the operating system. -/
def FileFault.message (fault : FileFault) (p : FilePath) : String :=
  let wording := match fault with
    | taken => "[Errno 17] File exists: "
    | notDirectory => "[Errno 20] Not a directory: "
    | isDirectory => "[Errno 21] Is a directory: "
  wording ++ Text.quoted p.text

/-- The files and directories that are known to exist. -/
structure FileTree where
  files : List (FilePath × String) := []
  directories : List FilePath := []
  deriving DecidableEq, Inhabited

namespace FileTree

/-- The text of a file. -/
def file? (t : FileTree) (p : FilePath) : Option String :=
  t.files.lookup p

/-- Whether a path is that of a directory: the root is, and so is whatever holds something. -/
def isDirectory (t : FileTree) (p : FilePath) : Bool :=
  p.isEmpty || t.directories.any p.isPrefixOf ||
    t.files.any fun f => p.isPrefixOf f.1 && p != f.1

/-- Whether there is anything at a path. -/
def hasPath (t : FileTree) (p : FilePath) : Bool :=
  (t.file? p).isSome || t.isDirectory p

/-- Whether a path leads through a file. -/
def throughFile (t : FileTree) (p : FilePath) : Bool :=
  t.files.any fun f => f.1.isPrefixOf p && f.1 != p

/-- Make a directory and all directories that it is in. -/
def makeDirectory (t : FileTree) (p : FilePath) : Except (FileFault × FilePath) FileTree :=
  if t.isDirectory p then .ok t
  else if (t.file? p).isSome then .error (.taken, p)
  else if t.throughFile p then .error (.notDirectory, p)
  else .ok { t with directories := p :: t.directories }

/-- Write a file, in place of the one that may be there. -/
def write (t : FileTree) (p : FilePath) (text : String) :
    Except (FileFault × FilePath) FileTree :=
  if t.isDirectory p then .error (.isDirectory, p)
  else .ok { t with files := (p, text) :: t.files.filter (·.1 != p) }

end FileTree

end SearchQuery

import SearchQuery.Command.Program

/-!
# The executable

The executable looks at the files that a run may need, runs the program on what it has found, and
writes back what the run has changed. It knows no modules with search classes, so `compose` finds
none.
-/

namespace SearchQuery.Executable

open Command

/-- The names of a path. -/
def namesOf (s : String) : FilePath :=
  FilePath.names s

/-- Add what there is at a path, and at the paths that lead to it. -/
def look (tree : FileTree) (p : FilePath) : IO FileTree := do
  let root ← IO.currentDir
  (List.range (p.length + 1)).foldlM (fun tree n => do
    let front := p.take n
    let here := root / FilePath.text front
    if ← here.isDir then return { tree with directories := front :: tree.directories }
    else if ← here.pathExists then
      return { tree with files := (front, ← IO.FS.readFile here) :: tree.files }
    else return tree) tree

/-- Write the files that a run has changed. -/
def save (before after : FileTree) : IO Unit :=
  after.files.forM fun f => do
    if before.file? f.1 != some f.2 then
      IO.FS.createDirAll (FilePath.text f.1.dropLast)
      IO.FS.writeFile (FilePath.text f.1) f.2

/-- An item as lines of plain text. -/
def lines : Item → List String
  | .markup text => [Markup.plain text]
  | .table title rows =>
    Markup.plain title :: rows.map fun r => r.1 ++ ": " ++ Markup.plain r.2

/-- Print what was shown. -/
def print (shown : Channel × Item) : IO Unit :=
  (lines shown.2).forM fun line =>
    match shown.1 with
    | .output => IO.println line
    | .errors => IO.eprintln line

/-- What a run without exit code says, and its code. -/
def finish : Stop → IO UInt32
  | .exit code => return code.toUInt32
  | .failed cause => do
    IO.eprintln ("Failed: " ++ cause.message)
    return 1
  | .fault fault path => do
    IO.eprintln (fault.message path)
    return 1
  | .noHome => do
    IO.eprintln "Could not determine home directory."
    return 1

/-- Run the program on arguments. -/
def run (args : List String) : IO UInt32 := do
  let directory := namesOf (← IO.currentDir).toString
  let home := namesOf ((← IO.getEnv "HOME").getD "/")
  let noColor := (← IO.getEnv "NO_COLOR").isSome
  let e : Environment := { home, directory, noColor }
  let files ← (pathsOf e args).foldlM look {}
  let o := outcome { e with files } args
  save files o.console.files
  o.console.shown.forM print
  IO.print o.console.echoed
  finish o.stop

end SearchQuery.Executable

/-- Run the program on the arguments of the process. -/
def main (args : List String) : IO UInt32 :=
  SearchQuery.Executable.run args

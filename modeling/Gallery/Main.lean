import Gallery.CommandLine.Run

/-!
# The program

The program works on the files whose paths it is given on its standard input, each ended by a
null character, as in

    find . -print0 | by-example examples -o site

It reads these files, runs the command line on the tree that they form, and writes what has
changed.
-/

namespace Gallery.Main

open Files

/-- All that can be read from a stream. -/
partial def readAll (input : IO.FS.Stream) (before : ByteArray) : IO ByteArray := do
  let chunk ← input.read 65536
  if chunk.isEmpty then return before else readAll input (before ++ chunk)

/-- The paths in a list, each ended by a null character. -/
def pathsIn (list : ByteArray) : List String :=
  (Text.splitOn '\x00' ((String.fromUTF8? list).getD "")).filter (· ≠ "")

/-- The file at a path; what cannot be read as a file is a directory. -/
def readEntry (path : String) : IO Entry := do
  try
    return .file (← IO.FS.readBinFile path)
  catch _ =>
    return .dir

/-- The tree formed by the files at some paths. -/
def readTree (paths : List String) : IO Tree :=
  paths.foldlM (fun t path => do
    let entry ← readEntry path
    match t.place path entry with
    | .ok t' => return t'
    | .error _ => return t) Tree.fresh

/-- The path of a location: a relative one below the working directory. -/
def pathOf : Location → String
  | [] => "/"
  | name :: names =>
    let path := "/".intercalate (names.map (·.text))
    if name = Tree.workName then Files.Path.join "." path
    else Files.Path.join ("/" ++ name.text) path

/-- Writes an entry. -/
def writeEntry : Location × Entry → IO Unit
  | (loc, .dir) => IO.FS.createDirAll (pathOf loc)
  | (loc, .file content) => IO.FS.writeBinFile (pathOf loc) content

end Gallery.Main

/-- Runs the command line. -/
def main (args : List String) : IO UInt32 := do
  let paths := Gallery.Main.pathsIn (← Gallery.Main.readAll (← IO.getStdin) .empty)
  let tree ← Gallery.Main.readTree paths
  let ending := Gallery.CommandLine.run args (← IO.getEnv "RUST_LOG") tree
  for change in tree.changes ending.tree do
    Gallery.Main.writeEntry change
  (← IO.getStderr).putStr ending.stderr
  (← IO.getStdout).putStr ending.stdout
  return UInt32.ofNat ending.exitCode

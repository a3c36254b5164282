import Gallery.Annotated
import Gallery.Page.Basic
import Gallery.Site.Action
import Gallery.Text.Word

/-!
# Finding and loading examples

Every example has a directory of its own in the directory of examples.  `discover` lists these
directories in the order of their names, all of them or those whose names one of the given
patterns accepts.

The directory of an example holds its source file and perhaps a script.  Both bear the name of
the directory; the extension of the source file is that of the language, the script is always
one of the shell.  `load` reads them.

The element id of an example is made from its name: the name in lower case, in which every
run of characters that are neither word characters nor hyphens is replaced by one hyphen,
without the hyphens at its ends.  A name of which nothing is left has a fixed id.
-/

namespace Gallery

open Files

/-! ### Finding -/

/-- The name is accepted by one of the patterns, or there are none. -/
def isSelected (only : List Glob.Pattern) (name : String) : Bool :=
  only.isEmpty || only.any (·.accepts name)

/-- The names of the directories in a directory. -/
def dirNames (t : Tree) (dir : String) : List String :=
  ((t.list dir).map (·.text)).filter fun name => t.isDir (Path.join dir name)

/-- The directories of the selected examples, ordered by name. -/
def exampleDirs (t : Tree) (dir : String) (only : List Glob.Pattern) : List String :=
  (((dirNames t dir).filter (isSelected only)).mergeSort fun a b => a ≤ b).map (Path.join dir)

/-- Finds the directories of the selected examples. -/
def discover (dir : String) (only : List Glob.Pattern) : Action (List String) := do
  let t ← Action.currentTree
  if !t.isDir dir then
    Action.fail (.noExamplesDir dir)
  ((dirNames t dir).filter fun name => !isSelected only name).forM fun name =>
    Action.report .debug ("filtered out " ++ name)
  let dirs := exampleDirs t dir only
  if dirs.isEmpty then
    Action.report .warn ("no examples found in " ++ dir)
  return dirs

/-! ### Element ids -/

namespace Slug

open Text

/-- The characters that an id keeps. -/
def isKept (c : Char) : Bool :=
  isWordChar c || c = '-'

/-- The characters with a hyphen for every run of characters that are not kept.  `inRun`
says that the characters continue a run whose hyphen has been written. -/
def hyphenate (inRun : Bool) : List Char → List Char
  | [] => []
  | c :: cs =>
    if isKept c then c :: hyphenate false cs
    else if inRun then hyphenate true cs
    else '-' :: hyphenate true cs

/-- The id of a name of which no character is left. -/
def fallback : String := "example"

/-- The element id of an example name. -/
def ofName (name : String) : String :=
  match strip (· == '-') (hyphenate false (lower name).toList) with
  | [] => fallback
  | cs => String.ofList cs

end Slug

/-! ### Loading -/

/-- The annotated file with the given text, in the language to which the extension of its path
belongs. -/
def Annotated.File.ofPath (path text : String) : Except Failure Annotated.File :=
  match (Path.extension? path).bind Language.byExtension? with
  | some language => .ok (.ofText language.marker text)
  | none => .error (.unsupportedFile path)

/-- The path of the file of an example with the given extension. -/
def exampleFile (dir extension : String) : String :=
  Path.join dir (Path.baseName dir ++ "." ++ extension)

/-- Reads the text of a file. -/
def readText (path : String) : Action String := do
  let t ← Action.currentTree
  Action.ofExcept ((t.readText path).mapError (.cannotRead path))

/-- Reports that a file has been read. -/
def reportParsed (path : String) (file : Annotated.File) : Action Unit :=
  Action.report .info
    ("parsed " ++ path ++ ": " ++ Nat.repr file.segments.length ++ " segments")

/-- Reads the script of an example, if there is one.  The script of an example in the language of
the shell is its source file, which does not count as one. -/
def loadScript (dir : String) (language : Language) : Action (Option Annotated.File) := do
  let t ← Action.currentTree
  let path := exampleFile dir "sh"
  if t.isFile path && path ≠ exampleFile dir language.extension then
    let text ← readText path
    let file ← Action.ofExcept (Annotated.File.ofPath path text)
    reportParsed path file
    return some file
  else
    return none

/-- Loads the example of a directory; there is none if its source file is missing. -/
def load (language : Language) (dir : String) : Action (Option Example) := do
  let t ← Action.currentTree
  let path := exampleFile dir language.extension
  if t.isFile path then
    let text ← readText path
    let source := Annotated.File.ofText language.marker text
    reportParsed path source
    let script ← loadScript dir language
    return some {
      name := Path.baseName dir
      id := Slug.ofName (Path.baseName dir)
      sourceFile := path
      source := source
      scriptFile := script.map fun _ => exampleFile dir "sh"
      script := script }
  else
    Action.report .warn ("skipping " ++ dir ++ ": no " ++ path ++ " found")
    return none

end Gallery

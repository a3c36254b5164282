import Gallery.Page.Format
import Gallery.Site.Examples
import Gallery.Text.Entity

/-!
# Building a site

A site is built in phases: the examples are found, the output directory is made, all examples
are loaded, and then the files are written, first the pages in the order of the examples, then
the index, and at last the copy of the stylesheet.  Which files are written with which texts
is a function of the loaded examples, `outputFiles`.
-/

namespace Gallery

open Files

/-- What a site is built from, and where. -/
structure Config where
  examplesDir : String
  outputDir : String
  site : Site
  format : Format
  /-- The patterns that select examples; all are selected if there are none. -/
  only : List Glob.Pattern
  /-- The path of the stylesheet. -/
  stylesheet : Option String
  deriving DecidableEq, Repr

/-- The counts of a site that has been built. -/
structure Summary where
  /-- The number of example pages. -/
  pages : Nat
  /-- The number of directories without a source file. -/
  skipped : Nat
  deriving DecidableEq, Repr

/-! ### Pages and links -/

/-- The name of the page file of an example. -/
def pageFileName (format : Format) (name : String) : String :=
  name ++ "." ++ format.extension

/-- The link from one page to another in the same directory. -/
def pageUrl (format : Format) (name : String) : String :=
  Text.Percent.encode (pageFileName format name)

/-- The link to the page of an example. -/
def linkTo (format : Format) (e : Example) : Link :=
  ⟨e.name, pageUrl format e.name⟩

/-- The pages of examples that stand behind the given neighbour, each with the neighbours that
it has. -/
def pagesAfter (site : Site) (format : Format) (prev : Option Link) :
    List Example → List ExamplePage
  | [] => []
  | e :: es =>
    ⟨site, e, prev, es.head?.map (linkTo format)⟩
      :: pagesAfter site format (some (linkTo format e)) es

/-- The pages of a list of examples. -/
def pagesOf (site : Site) (format : Format) (es : List Example) : List ExamplePage :=
  pagesAfter site format none es

/-- The index of a list of examples. -/
def indexOf (site : Site) (format : Format) (es : List Example) : IndexPage :=
  ⟨site, es.map (linkTo format)⟩

/-! ### Files -/

/-- The path of an output file. -/
def outputPath (c : Config) (fileName : String) : String :=
  Path.join c.outputDir fileName

/-- The name of the index file. -/
def indexFileName (format : Format) : String :=
  "index." ++ format.extension

/-- The path and the text of the page of an example. -/
def pageFile (c : Config) (page : ExamplePage) : String × String :=
  (outputPath c (pageFileName c.format page.content.name), c.format.renderExample page)

/-- The path and the text of the index. -/
def indexFile (c : Config) (es : List Example) : String × String :=
  (outputPath c (indexFileName c.format), c.format.renderIndex (indexOf c.site c.format es))

/-- The paths and the texts of the files that are written for some examples, in order. -/
def outputFiles (c : Config) (es : List Example) : List (String × String) :=
  (pagesOf c.site c.format es).map (pageFile c) ++ [indexFile c es]

/-- The path of the copy of the stylesheet. -/
def stylesheetPath (c : Config) : String :=
  outputPath c "site.css"

/-! ### Phases -/

/-- Makes the output directory. -/
def makeOutputDir (dir : String) : Action Unit :=
  Action.change fun t =>
    let (t', made) := t.makeDirs dir
    (t', made.mapError (.cannotMakeOutput dir))

/-- Writes a text file. -/
def writeFile (path text : String) : Action Unit := do
  Action.replace fun t => (t.write path text.toUTF8).mapError (.cannotWrite path)
  Action.report .debug ("wrote " ++ path)

/-- Writes text files, one after another. -/
def writeFiles : List (String × String) → Action Unit
  | [] => pure ()
  | (path, text) :: files => do
    writeFile path text
    writeFiles files

/-- Copies the stylesheet, if there is one. -/
def copyStylesheet (c : Config) : Action Unit :=
  match c.stylesheet with
  | none => pure ()
  | some path => do
    Action.replace fun t => (t.copy path (stylesheetPath c)).mapError (.cannotCopyStylesheet path)
    Action.report .debug ("copied " ++ path ++ " to " ++ stylesheetPath c)

/-- What has been loaded from some directories. -/
structure Loaded where
  /-- The examples, in the order of their directories. -/
  examples : List Example
  /-- The number of directories without a source file. -/
  skipped : Nat
  deriving DecidableEq, Repr

/-- What has been loaded with one more directory in front: its example if there is one, otherwise
it is counted. -/
def Loaded.cons (first : Option Example) (rest : Loaded) : Loaded :=
  match first with
  | some e => { rest with examples := e :: rest.examples }
  | none => { rest with skipped := rest.skipped + 1 }

/-- Loads the examples of some directories; those without a source file are counted. -/
def loadAll (language : Language) : List String → Action Loaded
  | [] => return ⟨[], 0⟩
  | dir :: dirs => do
    let first ← load language dir
    let rest ← loadAll language dirs
    return .cons first rest

/-- Builds a site. -/
def build (c : Config) : Action Summary := do
  let dirs ← discover c.examplesDir c.only
  makeOutputDir c.outputDir
  let loaded ← loadAll c.site.language dirs
  writeFiles (outputFiles c loaded.examples)
  copyStylesheet c
  return ⟨loaded.examples.length, loaded.skipped⟩

end Gallery

import Gallery.Json
import Gallery.Page.Html

/-!
# Pages as data, and page formats

The page of an example and the index as JSON values, for programs that lay out pages
themselves.  The fields of a page keep the order in which they are given here; the script and
the introduction are left out when there is none, a missing neighbour is null.

A format fixes how pages are written, as markup or as data, and the extension of their files.
-/

namespace Gallery

/-! ### Pages as data -/

namespace Data

/-- The value of a segment. -/
def segment (s : Annotated.Segment) : Json :=
  .obj [("docs", .str s.docs), ("code", .str s.code), ("add_blank_after", .bool s.spaced)]

/-- The value of an annotated file. -/
def file (f : Annotated.File) : Json :=
  .obj [("header", .str f.header), ("segments", .arr (f.segments.map segment))]

/-- The value of a link. -/
def link (l : Link) : Json :=
  .obj [("name", .str l.name), ("url", .str l.url)]

/-- The value of a neighbour, null when there is none. -/
def link? : Option Link → Json
  | some l => link l
  | none => .null

/-- A field that is present only with a value. -/
def field? {α : Type} (key : String) (value : α → Json) : Option α → List (String × Json)
  | some a => [(key, value a)]
  | none => []

/-- The fields of an example. -/
def exampleFields (e : Example) : List (String × Json) :=
  [("name", .str e.name), ("id", .str e.id), ("source_file", .str e.sourceFile),
    ("source", file e.source)]
  ++ field? "script_file" .str e.scriptFile
  ++ field? "script" file e.script

/-- The value of the page of an example. -/
def examplePage (page : ExamplePage) : Json :=
  .obj (exampleFields page.content
    ++ [("language", .str page.site.language.name), ("prev", link? page.prev),
      ("next", link? page.next)])

/-- The value of the index page. -/
def indexPage (page : IndexPage) : Json :=
  .obj ([("title", .str page.site.title)]
    ++ field? "intro" .str page.site.intro
    ++ [("examples", .arr (page.links.map link))])

/-- The text of the page of an example. -/
def renderExample (page : ExamplePage) : String :=
  (examplePage page).pretty 0 ++ "\n"

/-- The text of the index page. -/
def renderIndex (page : IndexPage) : String :=
  (indexPage page).pretty 0 ++ "\n"

end Data

/-! ### Formats -/

/-- A format of pages. -/
inductive Format where
  | html
  | json
  deriving DecidableEq, Repr, Inhabited

namespace Format

/-- The format with the given name. -/
def byName? : String → Option Format
  | "html" => some .html
  | "json" => some .json
  | _ => none

/-- The extension of page files, without the dot. -/
def extension : Format → String
  | .html => "html"
  | .json => "json"

/-- The text of the page of an example. -/
def renderExample : Format → ExamplePage → String
  | .html => Html.renderExample
  | .json => Data.renderExample

/-- The text of the index page. -/
def renderIndex : Format → IndexPage → String
  | .html => Html.renderIndex
  | .json => Data.renderIndex

end Format

end Gallery

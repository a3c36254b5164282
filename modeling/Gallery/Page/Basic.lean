import Gallery.Annotated
import Gallery.Language

/-!
# Pages

A site has a page for each of its examples and an index page that links to them.  A page is
described by the values below, whatever format it is written in.
-/

namespace Gallery

/-- A link to a page of the site. -/
structure Link where
  name : String
  url : String
  deriving DecidableEq, Repr, Inhabited

/-- What all pages of a site share. -/
structure Site where
  title : String
  /-- A paragraph for the index, in markup. -/
  intro : Option String
  sourceUrl : Option String
  licenseUrl : Option String
  language : Language
  deriving DecidableEq, Repr

/-- An example: an annotated source file and perhaps a script that goes with it. -/
structure Example where
  name : String
  /-- The id of the page's main element. -/
  id : String
  /-- The path of the source file. -/
  sourceFile : String
  source : Annotated.File
  /-- The path of the script. -/
  scriptFile : Option String
  script : Option Annotated.File
  deriving DecidableEq, Repr

/-- The page of an example, with its neighbours on the site. -/
structure ExamplePage where
  site : Site
  content : Example
  prev : Option Link
  next : Option Link
  deriving DecidableEq, Repr

/-- The index page. -/
structure IndexPage where
  site : Site
  links : List Link
  deriving DecidableEq, Repr

end Gallery

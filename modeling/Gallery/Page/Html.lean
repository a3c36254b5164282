import Gallery.Page.Basic
import Gallery.Text.Basic
import Gallery.Text.Entity

/-!
# Pages in HTML

A page is a list of lines.  Titles, names, ids, links and code are text and are written with
entities; headers, documentation and the introduction of the index are markup and are written
as they are.  The page of an example shows its segments as a table, documentation on the left
and code on the right, one row for each segment that is not blank.
-/

namespace Gallery.Html

open Gallery.Text

/-- Where the highlighter is loaded from. -/
def highlighter : String :=
  "https://cdnjs.cloudflare.com/ajax/libs/prism/1.29.0"

/-- The lines up to the body of a page. -/
def head (title : String) : List String := [
  "<!DOCTYPE html>",
  "<html lang=\"en\">",
  "<head>",
  "<meta charset=\"utf-8\">",
  "<meta name=\"viewport\" content=\"width=device-width, initial-scale=1\">",
  "<title>" ++ Entity.encode title ++ "</title>",
  "<link rel=\"stylesheet\" href=\"site.css\">",
  "</head>"]

/-- A link to a page. -/
def anchor (link : Link) : String :=
  "<a href=\"" ++ Entity.encode link.url ++ "\">" ++ Entity.encode link.name ++ "</a>"

/-- A link of the footer. -/
def footerLink (label url : String) : String :=
  "<a href=\"" ++ Entity.encode url ++ "\">" ++ label ++ "</a>"

/-- The links to the sources and to the license, when there are any. -/
def footer (site : Site) : List String :=
  match (site.sourceUrl.map (footerLink "source")).toList
      ++ (site.licenseUrl.map (footerLink "license")).toList with
  | [] => []
  | links => ["<p class=\"footer\">" ++ " | ".intercalate links ++ "</p>"]

/-! ### The table of segments -/

/-- The start of a cell of code.  The cell of the first row has the button that copies the
code of the whole table. -/
def codeCell (leading : Bool) : List String :=
  if leading then [
    "    <td class=\"code leading\">",
    "      <button class=\"copy\" title=\"Copy code\">copy</button>"]
  else
    ["    <td class=\"code\">"]

/-- The row of a segment. -/
def row (highlightClass : String) (leading : Bool) (s : Annotated.Segment) : List String :=
  [ "  <tr class=\"" ++ (if s.spaced then "spaced" else "") ++ "\">",
    "    <td class=\"docs\">",
    "      <p>" ++ s.docs ++ "</p>",
    "    </td>"]
  ++ codeCell leading
  ++ ["      <pre><code class=\"" ++ highlightClass ++ "\">" ++ Entity.encode s.code
        ++ "</code></pre>",
      "    </td>",
      "  </tr>"]

/-- The rows of a list of segments. -/
def rows (highlightClass : String) : List Annotated.Segment → List String
  | [] => []
  | s :: rest => row highlightClass true s ++ rest.flatMap (row highlightClass false)

/-- The segments of a file that are not blank, as a table. -/
def table (file : Annotated.File) (language : Language) : List String :=
  ["<table>"]
  ++ rows language.highlightClass (file.segments.filter fun s => !s.isBlank)
  ++ ["</table>"]

/-! ### Scripts -/

/-- The components of the highlighter for the given languages: each once, after those that it
requires. -/
def components (languages : List Language) : List String :=
  (languages.flatMap fun l => l.requires ++ [l.name]).eraseDups

/-- The statement that goes to a page. -/
def goTo : Option Link → String
  | some link => "window.location.href = '" ++ Quoted.encode link.url ++ "';"
  | none => ""

/-- The script that goes to the neighbours on the arrow keys and serves the copy buttons. -/
def keyScript (prev next : Option Link) : List String := [
  "<script>",
  "window.onkeydown = (e) => \x7b",
  "  if (e.ctrlKey || e.altKey || e.shiftKey || e.metaKey) return;",
  "  if (e.key === \"ArrowLeft\") \x7b " ++ goTo prev ++ " \x7d",
  "  if (e.key === \"ArrowRight\") \x7b " ++ goTo next ++ " \x7d",
  "\x7d;",
  "document.querySelectorAll(\"button.copy\").forEach((button) => \x7b",
  "  button.addEventListener(\"click\", () => \x7b",
  "    const cells = button.closest(\"table\").querySelectorAll(\"td.code code\");",
  "    const text = Array.from(cells).map((c) => c.textContent).join(\"\\n\");",
  "    navigator.clipboard.writeText(text);",
  "  \x7d);",
  "\x7d);",
  "</script>"]

/-- The script element that loads a file of the highlighter. -/
def loadScript (file : String) : String :=
  "<script src=\"" ++ highlighter ++ "/" ++ file ++ "\"></script>"

/-! ### Pages -/

/-- The script of an example, when there is something to show in it. -/
def shownScript (e : Example) : Option Annotated.File :=
  e.script.filter (·.hasContent)

/-- The languages in which code is shown on the page of an example. -/
def shownLanguages (page : ExamplePage) : List Language :=
  if (shownScript page.content).isSome && page.site.language ≠ .shell then
    [page.site.language, .shell]
  else
    [page.site.language]

/-- The paragraph with the link to the next page, empty on the last page. -/
def nextLine : Option Link → String
  | some link => "<p class=\"next\">Next example: " ++ anchor link ++ ".</p>"
  | none => "<p class=\"next\"></p>"

/-- The paragraph of a header, when there is one. -/
def headerLine (header : String) : List String :=
  if header = "" then [] else ["<p class=\"intro\">" ++ header ++ "</p>"]

/-- The tables of an example: that of its source and that of its script. -/
def tables (page : ExamplePage) : List String :=
  table page.content.source page.site.language
  ++ ((shownScript page.content).map (table · .shell)).getD []

/-- The lines of the page of an example. -/
def exampleLines (page : ExamplePage) : List String :=
  head (page.site.title ++ ": " ++ page.content.name)
  ++ ["<body>",
      "<div class=\"example\" id=\"" ++ Entity.encode page.content.id ++ "\">",
      "<h2><a href=\"./\">" ++ Entity.encode page.site.title ++ "</a>: "
        ++ Entity.encode page.content.name ++ "</h2>"]
  ++ headerLine page.content.source.header
  ++ tables page
  ++ [nextLine page.next]
  ++ footer page.site
  ++ ["</div>", loadScript "prism.min.js"]
  ++ (components (shownLanguages page)).map (fun c => loadScript ("components/prism-" ++ c ++ ".min.js"))
  ++ keyScript page.prev page.next
  ++ ["</body>", "</html>"]

/-- The paragraph that introduces the index, when there is one. -/
def introLine : Option String → List String
  | some intro => ["<p>" ++ intro ++ "</p>"]
  | none => []

/-- The item of a link in the index. -/
def item (link : Link) : String :=
  "  <li>" ++ anchor link ++ "</li>"

/-- The lines of the index page. -/
def indexLines (page : IndexPage) : List String :=
  head page.site.title
  ++ ["<body>",
      "<div class=\"example\" id=\"intro\">",
      "<h2><a href=\"./\">" ++ Entity.encode page.site.title ++ "</a></h2>"]
  ++ introLine page.site.intro
  ++ ["<ul>"] ++ page.links.map item ++ ["</ul>"]
  ++ footer page.site
  ++ ["</div>", "</body>", "</html>"]

/-- The text of the page of an example. -/
def renderExample (page : ExamplePage) : String :=
  endLines (exampleLines page)

/-- The text of the index page. -/
def renderIndex (page : IndexPage) : String :=
  endLines (indexLines page)

end Gallery.Html

import Gallery.Page.Html
import Gallery.Proofs.Annotated.NormalForm

/-!
# The tables of a page

The page of an example consists of the lines above its tables, the tables, and the lines below them
(`exampleLines_eq`).  The source always has a table, and the script has one exactly when it has
something to show; no other line starts a table.

For a script that is read from a text this means that its table is shown exactly when there is a
line of code in the text (`normal_ofText_shown`).
-/

namespace Gallery

open Text Annotated

/-- The page with another script, or none. -/
def ExamplePage.withScript (page : ExamplePage) (script : Option File) : ExamplePage :=
  { page with content := { page.content with script := script } }

namespace Html

/-! ### The parts of a page -/

/-- The lines above the tables. -/
def linesAbove (page : ExamplePage) : List String :=
  head (page.site.title ++ ": " ++ page.content.name)
  ++ ["<body>",
      "<div class=\"example\" id=\"" ++ Entity.encode page.content.id ++ "\">",
      "<h2><a href=\"./\">" ++ Entity.encode page.site.title ++ "</a>: "
        ++ Entity.encode page.content.name ++ "</h2>"]
  ++ headerLine page.content.source.header

/-- The lines below the tables. -/
def linesBelow (page : ExamplePage) : List String :=
  [nextLine page.next]
  ++ footer page.site
  ++ ["</div>", loadScript "prism.min.js"]
  ++ (components (shownLanguages page)).map
      (fun c => loadScript ("components/prism-" ++ c ++ ".min.js"))
  ++ keyScript page.prev page.next
  ++ ["</body>", "</html>"]

theorem exampleLines_eq (page : ExamplePage) :
  exampleLines page = linesAbove page ++ tables page ++ linesBelow page
  := by
  simp only [exampleLines, linesAbove, linesBelow, List.append_assoc]

theorem nextLine_none :
  nextLine none = "<p class=\"next\"></p>"
  := rfl

theorem nextLine_some (link : Link) :
  nextLine (some link) = "<p class=\"next\">Next example: " ++ anchor link ++ ".</p>"
  := rfl

/-- A script is shown if there is something to show in it. -/
theorem shownScript_withScript (page : ExamplePage) (script : File) :
  shownScript (page.withScript (some script)).content
    = if script.hasContent then some script else none
  := Option.filter_some

/-- The tables of a page are that of its source and that of its script, if there is something to
show in it. -/
theorem tables_withScript (page : ExamplePage) (script : File) :
  tables (page.withScript (some script))
    = table page.content.source page.site.language
      ++ if script.hasContent then table script .shell else []
  := by
  rw [tables, shownScript_withScript]
  split
  · rfl
  · rfl

/-! ### Lines that start a table -/

/-- A line is not the one that starts a table if it starts differently. -/
theorem table_ne_append {first : String} (h : first.toList.isPrefixOf "<table>".toList = false)
    (rest : String) :
  "<table>" ≠ first ++ rest
  := by
  intro heq
  have hprefix : first.toList <+: "<table>".toList := by
    use rest.toList
    rw [heq, String.toList_append]
  rw [List.isPrefixOf_iff_prefix.mpr hprefix] at h
  cases h

theorem table_notMem_head (title : String) :
  "<table>" ∉ head title
  := by
  simp only [head, String.append_assoc]
  simp [table_ne_append, List.isPrefixOf]

theorem table_notMem_headerLine (header : String) :
  "<table>" ∉ headerLine header
  := by
  rw [headerLine, String.append_assoc]
  split
  · simp
  · simp [table_ne_append, List.isPrefixOf]

theorem table_ne_nextLine (next : Option Link) :
  "<table>" ≠ nextLine next
  := by
  cases next with
  | none =>
    rw [nextLine_none]
    simp
  | some link =>
    rw [nextLine_some, String.append_assoc]
    apply table_ne_append
    simp [List.isPrefixOf]

theorem table_notMem_footer (site : Site) :
  "<table>" ∉ footer site
  := by
  simp only [footer, String.append_assoc]
  split
  · simp
  · simp [table_ne_append, List.isPrefixOf]

theorem table_ne_loadScript (file : String) :
  "<table>" ≠ loadScript file
  := by
  have hscript : loadScript file
      = "<script src=\"" ++ highlighter ++ "/" ++ file ++ "\"></script>" := rfl
  rw [hscript, String.append_assoc, String.append_assoc, String.append_assoc]
  apply table_ne_append
  simp [List.isPrefixOf]

theorem table_notMem_keyScript (prev next : Option Link) :
  "<table>" ∉ keyScript prev next
  := by
  simp only [keyScript, String.append_assoc]
  simp [table_ne_append, List.isPrefixOf]

/-- No table starts above the tables. -/
theorem table_notMem_linesAbove (page : ExamplePage) :
  "<table>" ∉ linesAbove page
  := by
  simp only [linesAbove, String.append_assoc]
  simp [table_notMem_head, table_notMem_headerLine, table_ne_append, List.isPrefixOf]

/-- No table starts below the tables. -/
theorem table_notMem_linesBelow (page : ExamplePage) :
  "<table>" ∉ linesBelow page
  := by
  simp [linesBelow, table_ne_nextLine, table_notMem_footer, table_ne_loadScript,
    (table_ne_loadScript _).symm, table_notMem_keyScript]

end Html

/-! ### Scripts that are read -/

/-- A file that is read from a text is in normal form, and it has something to show exactly when
there is a line of code in the text.  As the script of an example it has a table on the page, after
that of the source and with no other tables, exactly then. -/
theorem normal_ofText_shown (marker text : String) :
  (File.ofText marker text).Normal marker
    ∧ (File.ofText marker text).hasContent = (lines text).any (isCode marker)
    ∧ ∀ page : ExamplePage, ∃ above below,
      Html.renderExample (page.withScript (some (File.ofText marker text)))
        = endLines (above ++ Html.table page.content.source page.site.language
          ++ (if (lines text).any (isCode marker) then Html.table (File.ofText marker text) .shell
            else [])
          ++ below)
      ∧ "<table>" ∉ above ∧ "<table>" ∉ below
  := by
  use normal_ofText marker text, hasContent_ofText marker text
  intro page
  use Html.linesAbove (page.withScript (some (File.ofText marker text)))
  use Html.linesBelow (page.withScript (some (File.ofText marker text)))
  constructor
  · rw [Html.renderExample, Html.exampleLines_eq, Html.tables_withScript, hasContent_ofText,
      ← List.append_assoc]
  · exact ⟨Html.table_notMem_linesAbove _, Html.table_notMem_linesBelow _⟩

end Gallery

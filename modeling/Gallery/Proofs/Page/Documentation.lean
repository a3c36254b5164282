import Gallery.Proofs.Page.Tables

/-!
# The documentation on a page

What a page in HTML shows of the documentation of its example: the header of the source and the
documentation of every segment, in source and script, as they are (`documentation_occursIn`).  The
header of a script is not shown; the page is the same whatever it is.
-/

namespace Gallery

open Text Annotated

namespace Text

/-- The first text stands in the second one as it is. -/
def OccursIn (s t : String) : Prop :=
  ∃ before after, t = before ++ s ++ after

theorem OccursIn.length_le {s t : String} (h : OccursIn s t) :
  s.length ≤ t.length
  := by
  obtain ⟨before, after, rfl⟩ := h
  simp only [String.length_append]
  omega

/-- What stands in a line stands in a text with this line. -/
theorem OccursIn.endLines {s line : String} {ls : List String} (h : OccursIn s line)
    (hline : line ∈ ls) :
  OccursIn s (endLines ls)
  := by
  obtain ⟨earlier, later, rfl⟩ := List.append_of_mem hline
  obtain ⟨before, after, rfl⟩ := h
  use Text.endLines earlier ++ before, after ++ "\n" ++ Text.endLines later
  simp only [endLines_append, endLines_cons, String.append_assoc]

end Text

theorem ExamplePage.withScript_self {script : File} (page : ExamplePage)
    (h : page.content.script = some script) :
  page.withScript (some script) = page
  := by
  rw [ExamplePage.withScript, ← h]

namespace Html

/-! ### Lines with documentation -/

theorem mem_headerLine {header : String} (h : header ≠ "") :
  "<p class=\"intro\">" ++ header ++ "</p>" ∈ headerLine header
  := by
  simp [headerLine, h]

/-- The line with the documentation of a segment. -/
def docsLine (s : Segment) : String :=
  "      <p>" ++ s.docs ++ "</p>"

theorem docsLine_mem_row (highlightClass : String) (leading : Bool) (s : Segment) :
  docsLine s ∈ row highlightClass leading s
  := by
  simp [row, docsLine]

theorem docsLine_mem_rows {s : Segment} {ss : List Segment} (h : s ∈ ss) (highlightClass : String) :
  docsLine s ∈ rows highlightClass ss
  := by
  cases ss with
  | nil => cases h
  | cons first rest =>
    rw [rows, List.mem_append, List.mem_flatMap]
    obtain rfl | h := List.mem_cons.mp h
    · left
      apply docsLine_mem_row
    · right
      exact ⟨s, h, docsLine_mem_row _ _ s⟩

theorem isBlank_eq_false_of_docs {s : Segment} (h : isBlank s.docs = false) :
  s.isBlank = false
  := by
  rw [Segment.isBlank, h, Bool.false_and]

theorem docsLine_mem_table {s : Segment} {file : File} (hs : s ∈ file.segments)
    (hdocs : isBlank s.docs = false) (language : Language) :
  docsLine s ∈ table file language
  := by
  have hshown : s ∈ file.segments.filter fun s => !s.isBlank := by
    simp [hs, isBlank_eq_false_of_docs hdocs]
  rw [table]
  apply List.mem_append_left
  apply List.mem_append_right
  apply docsLine_mem_rows hshown

/-- A script with documentation that is not blank is shown. -/
theorem shownScript_of_docs {e : Example} {script : File} (hscript : e.script = some script)
    {s : Segment} (hs : s ∈ script.segments) (hdocs : isBlank s.docs = false) :
  shownScript e = some script
  := by
  have hcontent : script.hasContent = true := by
    rw [File.hasContent, List.any_eq_true]
    use s, hs
    simp [isBlank_eq_false_of_docs hdocs]
  rw [shownScript, hscript, Option.filter_some, if_pos hcontent]

/-! ### Pages -/

theorem mem_exampleLines_of_mem_tables {page : ExamplePage} {line : String}
    (h : line ∈ tables page) :
  line ∈ exampleLines page
  := by
  rw [exampleLines_eq]
  apply List.mem_append_left
  apply List.mem_append_right _ h

theorem header_occursIn {page : ExamplePage} (h : isBlank page.content.source.header = false) :
  OccursIn page.content.source.header (renderExample page)
  := by
  have hne : page.content.source.header ≠ "" := by
    intro hempty
    rw [hempty] at h
    cases h
  have hline : OccursIn page.content.source.header
      ("<p class=\"intro\">" ++ page.content.source.header ++ "</p>") :=
    ⟨_, _, rfl⟩
  apply hline.endLines
  rw [exampleLines_eq, linesAbove]
  apply List.mem_append_left
  apply List.mem_append_left
  apply List.mem_append_right _ (mem_headerLine hne)

theorem docs_occursIn {page : ExamplePage} {s : Segment} (h : docsLine s ∈ tables page) :
  OccursIn s.docs (renderExample page)
  := by
  have hline : OccursIn s.docs (docsLine s) := ⟨_, _, rfl⟩
  apply hline.endLines
  apply mem_exampleLines_of_mem_tables h

theorem docs_source_occursIn {page : ExamplePage} {s : Segment}
    (hs : s ∈ page.content.source.segments) (hdocs : isBlank s.docs = false) :
  OccursIn s.docs (renderExample page)
  := by
  apply docs_occursIn
  apply List.mem_append_left _ (docsLine_mem_table hs hdocs _)

theorem docs_script_occursIn {page : ExamplePage} {script : File}
    (hscript : page.content.script = some script) {s : Segment} (hs : s ∈ script.segments)
    (hdocs : isBlank s.docs = false) :
  OccursIn s.docs (renderExample page)
  := by
  apply docs_occursIn
  rw [tables, shownScript_of_docs hscript hs hdocs]
  apply List.mem_append_right _ (docsLine_mem_table hs hdocs _)

/-! ### The header of a script -/

/-- The header of a script makes no difference to the page. -/
theorem renderExample_withScript_header (page : ExamplePage) (script : File) (header : String) :
  renderExample (page.withScript (some { script with header := header }))
    = renderExample (page.withScript (some script))
  := by
  have hcontent : { script with header := header }.hasContent = script.hasContent := rfl
  have hlanguages : shownLanguages (page.withScript (some { script with header := header }))
      = shownLanguages (page.withScript (some script)) := by
    rw [shownLanguages, shownLanguages, shownScript_withScript, shownScript_withScript, hcontent]
    cases script.hasContent with
    | false => rfl
    | true => rfl
  have hbelow : linesBelow (page.withScript (some { script with header := header }))
      = linesBelow (page.withScript (some script)) := by
    rw [linesBelow, linesBelow, hlanguages]
    rfl
  rw [renderExample, renderExample, exampleLines_eq, exampleLines_eq, hbelow, tables_withScript,
    tables_withScript]
  rfl

/-- Some script header does not stand on the page. -/
theorem exists_header_not_occursIn (page : ExamplePage) (script : File) :
  ∃ header, isBlank header = false
    ∧ ¬ OccursIn header (renderExample (page.withScript (some { script with header := header })))
  := by
  -- A text that is longer than the page cannot stand on it.
  use "x" ++ renderExample (page.withScript (some script))
  constructor
  · rw [isBlank_append]
    rfl
  · intro h
    have hsame := renderExample_withScript_header page script
      ("x" ++ renderExample (page.withScript (some script)))
    rw [hsame] at h
    have hle := h.length_le
    have hone : "x".length = 1 := rfl
    rw [String.length_append, hone] at hle
    omega

end Html

/-! ### What is shown -/

/-- The header of the source and the documentation of all segments, in source and script, stand on
the page as they are, unless they are blank.  The header of a script is left out: the page is the
same whatever it is, so that it need not stand there. -/
theorem documentation_occursIn (page : ExamplePage) :
  (isBlank page.content.source.header = false →
      OccursIn page.content.source.header (Html.renderExample page))
    ∧ (∀ s ∈ page.content.source.segments, isBlank s.docs = false →
      OccursIn s.docs (Html.renderExample page))
    ∧ ∀ script, page.content.script = some script →
      (∀ s ∈ script.segments, isBlank s.docs = false → OccursIn s.docs (Html.renderExample page))
      ∧ (∀ header, Html.renderExample (page.withScript (some { script with header := header }))
        = Html.renderExample page)
      ∧ ∃ header, isBlank header = false ∧ ¬ OccursIn header
        (Html.renderExample (page.withScript (some { script with header := header })))
  := by
  constructor
  · apply Html.header_occursIn
  · constructor
    · intro s hs hdocs
      apply Html.docs_source_occursIn hs hdocs
    · intro script hscript
      constructor
      · intro s hs hdocs
        apply Html.docs_script_occursIn hscript hs hdocs
      · constructor
        · intro header
          rw [Html.renderExample_withScript_header, page.withScript_self hscript]
        · apply Html.exists_header_not_occursIn

/-! ### A script with a header -/

/-- A script whose header says what it is for. -/
def greetingScript : File :=
  ⟨"Build and run.", [⟨"", "make", false⟩, ⟨"It <em>greets</em> you.", "", false⟩]⟩

/-- The page of an example with this script. -/
def greetingPage : ExamplePage where
  site := ⟨"T", none, none, none, ⟨"c", "C", "c", "//", [], []⟩⟩
  content := ⟨"Greeting", "greeting", "in/Greeting/Greeting.c",
    ⟨"Says hello.", [⟨"", "int main();", false⟩, ⟨"And again:", "int again();", false⟩]⟩,
    some "in/Greeting/Greeting.sh", some greetingScript⟩
  prev := none
  next := none

theorem documentation_occursIn_greeting :
  OccursIn "Says hello." (Html.renderExample greetingPage)
    ∧ OccursIn "And again:" (Html.renderExample greetingPage)
    ∧ OccursIn "It <em>greets</em> you." (Html.renderExample greetingPage)
    ∧ ∀ header,
      Html.renderExample (greetingPage.withScript (some { greetingScript with header := header }))
        = Html.renderExample greetingPage
  := by
  obtain ⟨hheader, hsource, hscript⟩ := documentation_occursIn greetingPage
  obtain ⟨hsegments, hsame, -⟩ := hscript greetingScript rfl
  use hheader (by decide +kernel)
  use hsource ⟨"And again:", "int again();", false⟩ (by decide) (by decide +kernel)
  use hsegments ⟨"It <em>greets</em> you.", "", false⟩ (by decide) (by decide +kernel)

end Gallery

import Gallery.Proofs.Page.Record
import Gallery.Proofs.Page.Tables
import Gallery.Site.Build

/-!
# Pages and their neighbours

A page shows the links to its neighbours in a few places of its text, and everything else in it is
independent of them (`exists_frame_next`, `exists_frame_prev`).
-/

namespace Gallery

open Text

/-- The page with another link to the next page, or none. -/
def ExamplePage.withNext (page : ExamplePage) (next : Option Link) : ExamplePage :=
  { page with next := next }

/-- The page with another link to the page before it, or none. -/
def ExamplePage.withPrev (page : ExamplePage) (prev : Option Link) : ExamplePage :=
  { page with prev := prev }

/-! ### The places of a link -/

/-- The text made of the pieces of a frame, with the given texts between them. -/
def fill : List String → List String → String
  | piece :: frame, text :: texts => piece ++ text ++ fill frame texts
  | frame, _ => String.join frame

namespace Format

/-- What the text of a page has in the places of the link to the next page. -/
def nextTexts : Format → Option Link → List String
  | .html, next => [Html.nextLine next, Html.goTo next]
  | .json, next => [(Data.link? next).pretty 1]

/-- What the text of a page has in the places of the link to the page before it. -/
def prevTexts : Format → Option Link → List String
  | .html, prev => [Html.goTo prev]
  | .json, prev => [(Data.link? prev).pretty 1]

end Format

namespace Html

/-- The lines between the link to the next page and the script. -/
def linesBetween (page : ExamplePage) : List String :=
  footer page.site
  ++ ["</div>", loadScript "prism.min.js"]
  ++ (components (shownLanguages page)).map
      (fun c => loadScript ("components/prism-" ++ c ++ ".min.js"))

theorem renderExample_eq (page : ExamplePage) :
  renderExample page
    = endLines (linesAbove page ++ tables page) ++ nextLine page.next ++ "\n"
      ++ endLines (linesBetween page) ++ endLines (keyScript page.prev page.next)
      ++ endLines ["</body>", "</html>"]
  := by
  rw [renderExample, exampleLines_eq, linesBelow]
  simp only [linesBetween, endLines_append, endLines_cons, endLines_nil, String.append_assoc,
    String.append_empty, List.append_assoc]

/-- The script has each link in one place. -/
theorem exists_endLines_keyScript :
  ∃ start between rest, ∀ prev next,
    endLines (keyScript prev next) = start ++ goTo prev ++ between ++ goTo next ++ rest
  := by
  use endLines ((keyScript none none).take 3) ++ "  if (e.key === \"ArrowLeft\") \x7b ",
    " \x7d" ++ "\n" ++ "  if (e.key === \"ArrowRight\") \x7b ",
    " \x7d" ++ "\n" ++ endLines ((keyScript none none).drop 5)
  intro prev next
  simp only [keyScript, List.take, List.drop, endLines_cons, endLines_nil, String.append_assoc,
    String.append_empty]

theorem exists_frame_next (page : ExamplePage) :
  ∃ frame, ∀ next,
    renderExample (page.withNext next) = fill frame (Format.nextTexts .html next)
  := by
  obtain ⟨start, between, rest, hscript⟩ := exists_endLines_keyScript
  use [endLines (linesAbove page ++ tables page),
    "\n" ++ endLines (linesBetween page) ++ start ++ goTo page.prev ++ between,
    rest ++ endLines ["</body>", "</html>"]]
  intro next
  have hpage : renderExample (page.withNext next)
      = endLines (linesAbove page ++ tables page) ++ nextLine next ++ "\n"
        ++ endLines (linesBetween page) ++ endLines (keyScript page.prev next)
        ++ endLines ["</body>", "</html>"] := renderExample_eq (page.withNext next)
  rw [hpage, hscript]
  simp only [Format.nextTexts, fill, String.join_cons, String.join_nil, String.append_assoc,
    String.append_empty]

theorem exists_frame_prev (page : ExamplePage) :
  ∃ frame, ∀ prev,
    renderExample (page.withPrev prev) = fill frame (Format.prevTexts .html prev)
  := by
  obtain ⟨start, between, rest, hscript⟩ := exists_endLines_keyScript
  use [endLines (linesAbove page ++ tables page) ++ nextLine page.next ++ "\n"
      ++ endLines (linesBetween page) ++ start,
    between ++ goTo page.next ++ rest ++ endLines ["</body>", "</html>"]]
  intro prev
  have hpage : renderExample (page.withPrev prev)
      = endLines (linesAbove page ++ tables page) ++ nextLine page.next ++ "\n"
        ++ endLines (linesBetween page) ++ endLines (keyScript prev page.next)
        ++ endLines ["</body>", "</html>"] := renderExample_eq (page.withPrev prev)
  rw [hpage, hscript]
  simp only [Format.prevTexts, fill, String.join_cons, String.join_nil, String.append_assoc,
    String.append_empty]

end Html

namespace Data

theorem prettyFields_append (depth : Nat) (fs gs : List (String × Json)) :
  Json.prettyFields depth (fs ++ gs) = Json.prettyFields depth fs ++ Json.prettyFields depth gs
  := by
  induction fs with
  | nil => rw [List.nil_append, Json.prettyFields, String.empty_append]
  | cons f fs ih =>
    obtain ⟨k, v⟩ := f
    simp only [List.cons_append, Json.prettyFields, ih, String.append_assoc]

/-- A field of an object behind the first one stands in one place of its written form. -/
theorem exists_frame_field (first : String × Json) (fs gs : List (String × Json)) (key : String) :
  ∃ frame, ∀ v : Json, (Json.obj (first :: (fs ++ (key, v) :: gs))).pretty 0 ++ "\n"
    = fill frame [v.pretty 1]
  := by
  obtain ⟨k, w⟩ := first
  use ["\x7b" ++ Json.newLine 1 ++ Json.quote k ++ ": " ++ w.pretty 1 ++ Json.prettyFields 1 fs
      ++ "," ++ Json.newLine 1 ++ Json.quote key ++ ": ",
    Json.prettyFields 1 gs ++ Json.newLine 0 ++ "\x7d" ++ "\n"]
  intro v
  simp only [Json.pretty, prettyFields_append, Json.prettyFields, fill, String.join_cons,
    String.join_nil, String.append_assoc, String.append_empty]

theorem exists_frame_next (page : ExamplePage) :
  ∃ frame, ∀ next,
    renderExample (page.withNext next) = fill frame (Format.nextTexts .json next)
  := by
  obtain ⟨frame, hframe⟩ := exists_frame_field ("name", .str page.content.name)
    ((exampleFields page.content).tail
      ++ [("language", .str page.site.language.name), ("prev", link? page.prev)]) [] "next"
  use frame
  intro next
  rw [Format.nextTexts, ← hframe, renderExample, examplePage]
  simp [ExamplePage.withNext, exampleFields]

theorem exists_frame_prev (page : ExamplePage) :
  ∃ frame, ∀ prev,
    renderExample (page.withPrev prev) = fill frame (Format.prevTexts .json prev)
  := by
  obtain ⟨frame, hframe⟩ := exists_frame_field ("name", .str page.content.name)
    ((exampleFields page.content).tail ++ [("language", .str page.site.language.name)])
    [("next", link? page.next)] "prev"
  use frame
  intro prev
  rw [Format.prevTexts, ← hframe, renderExample, examplePage]
  simp [ExamplePage.withPrev, exampleFields]

end Data

namespace Format

/-- The link to the next page stands in some places of the text of a page, and the rest of the text
does not depend on it. -/
theorem exists_frame_next (format : Format) (page : ExamplePage) :
  ∃ frame, ∀ next,
    format.renderExample (page.withNext next) = fill frame (format.nextTexts next)
  := by
  cases format with
  | html => apply Html.exists_frame_next
  | json => apply Data.exists_frame_next

/-- The link to the page before it stands in some places of the text of a page, and the rest of the
text does not depend on it. -/
theorem exists_frame_prev (format : Format) (page : ExamplePage) :
  ∃ frame, ∀ prev,
    format.renderExample (page.withPrev prev) = fill frame (format.prevTexts prev)
  := by
  cases format with
  | html => apply Html.exists_frame_prev
  | json => apply Data.exists_frame_prev

/-- The texts of two pages differ at most in the places of the link to the next page. -/
def SameButNext (format : Format) (page page' : ExamplePage) : Prop :=
  ∃ frame, format.renderExample page = fill frame (format.nextTexts page.next)
    ∧ format.renderExample page' = fill frame (format.nextTexts page'.next)

/-- The texts of two pages differ at most in the places of the link to the page before. -/
def SameButPrev (format : Format) (page page' : ExamplePage) : Prop :=
  ∃ frame, format.renderExample page = fill frame (format.prevTexts page.prev)
    ∧ format.renderExample page' = fill frame (format.prevTexts page'.prev)

theorem sameButNext_withNext (format : Format) (page : ExamplePage) (next : Option Link) :
  format.SameButNext page (page.withNext next)
  := by
  obtain ⟨frame, hframe⟩ := format.exists_frame_next page
  exact ⟨frame, hframe page.next, hframe next⟩

theorem sameButPrev_withPrev (format : Format) (page : ExamplePage) (prev : Option Link) :
  format.SameButPrev page (page.withPrev prev)
  := by
  obtain ⟨frame, hframe⟩ := format.exists_frame_prev page
  exact ⟨frame, hframe page.prev, hframe prev⟩

end Format

end Gallery

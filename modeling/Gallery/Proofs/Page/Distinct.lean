import Gallery.Page.Format

/-!
# The index is not the page of an example

In the title of an index the title of the site stands alone, in that of a page of the same site a
colon and a name follow; and the data of an index and of a page start with different fields.  So
the text of an index is never that of the page of an example.
-/

namespace Gallery

open Gallery.Text

namespace Html

/-- What stands before the title in a page. -/
def beforeTitle : String :=
  endLines ((head "").take 5) ++ "<title>"

/-- What stands after the title in a page with the given lines after its head. -/
def afterTitle (rest : List String) : String :=
  "</title>" ++ "\n" ++ endLines ((head "").drop 6 ++ rest)

theorem head_eq_append (title : String) :
  head title
    = (head "").take 5 ++ ("<title>" ++ Entity.encode title ++ "</title>") :: (head "").drop 6
  := rfl

theorem endLines_head (title : String) (rest : List String) :
  endLines (head title ++ rest) = beforeTitle ++ (Entity.encode title ++ afterTitle rest)
  := by
  rw [head_eq_append, List.append_assoc, endLines_append, List.cons_append, endLines_cons]
  simp only [beforeTitle, afterTitle, String.append_assoc]

/-- Pages of a site in whose titles the title of the site stands alone, or is followed by a colon,
are different. -/
theorem endLines_head_ne (title name : String) (rest rest' : List String) :
  endLines (head title ++ rest) ≠ endLines (head (title ++ ": " ++ name) ++ rest')
  := by
  intro h
  have hcolon : Entity.encode ": " = ": " := by
    decide +kernel
  rw [endLines_head, endLines_head, Entity.encode_append, Entity.encode_append, hcolon] at h
  simp only [String.append_assoc, String.append_right_inj, afterTitle] at h
  have hlist := congrArg String.toList h
  simp at hlist

/-- The index of a site and the page of an example have different titles. -/
theorem renderIndex_ne_renderExample {index : IndexPage} {page : ExamplePage}
    (h : index.site = page.site) :
  renderIndex index ≠ renderExample page
  := by
  rw [renderIndex, indexLines, renderExample, exampleLines, h]
  simp only [List.append_assoc]
  apply endLines_head_ne

end Html

namespace Data

/-- The data of an index and of the page of an example start with different fields. -/
theorem renderIndex_ne_renderExample (index : IndexPage) (page : ExamplePage) :
  renderIndex index ≠ renderExample page
  := by
  intro h
  have hlist := congrArg String.toList h
  simp [renderIndex, renderExample, indexPage, examplePage, exampleFields, Json.pretty,
    Json.quote, Json.encodeChar] at hlist

end Data

/-- In no format is the index of a site the page of an example. -/
theorem Format.renderIndex_ne_renderExample (format : Format) {index : IndexPage}
    {page : ExamplePage} (h : index.site = page.site) :
  format.renderIndex index ≠ format.renderExample page
  := by
  cases format with
  | html => apply Html.renderIndex_ne_renderExample h
  | json => apply Data.renderIndex_ne_renderExample

end Gallery

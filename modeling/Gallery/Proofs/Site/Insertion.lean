import Gallery.Proofs.Page.Neighbours
import Gallery.Proofs.Site.Pages

/-!
# One more page

When one more example takes its place among others, the pages of the others stay as they are, except
that the one before it is now linked to it, and so is the one behind it (`exists_pagesOf_insert`).
-/

namespace Gallery

/-- The pages with another link behind the last one. -/
def followedBy (next : Option Link) : List ExamplePage → List ExamplePage
  | [] => []
  | [page] => [page.withNext next]
  | page :: page' :: pages => page :: followedBy next (page' :: pages)

/-- The pages with another link before the first one. -/
def precededBy (prev : Option Link) : List ExamplePage → List ExamplePage
  | [] => []
  | page :: pages => page.withPrev prev :: pages

section Insert

variable (site : Site) (format : Format) (prev next : Option Link)

theorem followedBy_ne_nil (page : ExamplePage) (pages : List ExamplePage) :
  followedBy next (page :: pages) ≠ []
  := by
  cases pages <;> simp [followedBy]

theorem followedBy_followedBy (next' : Option Link) (pages : List ExamplePage) :
  followedBy next (followedBy next' pages) = followedBy next pages
  := by
  fun_induction followedBy next' pages with
  | case1 => rfl
  | case2 page => rfl
  | case3 page page' pages ih =>
    obtain ⟨q, qs, hcons⟩ := List.exists_cons_of_ne_nil (followedBy_ne_nil next' page' pages)
    rw [hcons, followedBy, ← hcons, ih, followedBy]

theorem map_content_followedBy (pages : List ExamplePage) :
  (followedBy next pages).map (·.content) = pages.map (·.content)
  := by
  fun_induction followedBy next pages with
  | case1 => rfl
  | case2 page => rfl
  | case3 page page' pages ih => simpa using ih

/-- The link to the last of some examples, or the given one if there are none. -/
def lastLink (prev : Option Link) : List Example → Option Link
  | [] => prev
  | e :: es => lastLink (some (linkTo format e)) es

/-- The pages of some examples and others behind them. -/
theorem pagesAfter_append_cons (es : List Example) (e : Example) (es' : List Example) :
  pagesAfter site format prev (es ++ e :: es')
    = followedBy (some (linkTo format e)) (pagesAfter site format prev es)
      ++ pagesAfter site format (lastLink format prev es) (e :: es')
  := by
  induction es generalizing prev with
  | nil => rfl
  | cons first es ih =>
    cases es with
    | nil => rfl
    | cons second es =>
      rw [List.cons_append, pagesAfter, ih]
      rfl

theorem precededBy_pagesAfter (prev' : Option Link) (es : List Example) :
  precededBy prev (pagesAfter site format prev' es) = pagesAfter site format prev es
  := by
  cases es <;> rfl

/-- Among some pages, only the last one is changed by another link behind it. -/
theorem exists_followedBy (pages : List ExamplePage) :
  ∃ (others : List ExamplePage) (last : Option ExamplePage), pages = others ++ last.toList
    ∧ ∀ next, followedBy next pages = others ++ (last.map (·.withNext next)).toList
  := by
  induction pages with
  | nil => exact ⟨[], none, rfl, fun _ => rfl⟩
  | cons page pages ih =>
    cases pages with
    | nil => exact ⟨[], some page, rfl, fun _ => rfl⟩
    | cons page' pages =>
      obtain ⟨others, last, hpages, hfollowed⟩ := ih
      use page :: others, last
      constructor
      · rw [hpages, List.cons_append]
      · intro next
        rw [followedBy, hfollowed, List.cons_append]

/-- Among some pages, only the first one is changed by another link before it. -/
theorem exists_precededBy (pages : List ExamplePage) :
  ∃ (first : Option ExamplePage) (others : List ExamplePage), pages = first.toList ++ others
    ∧ ∀ prev, precededBy prev pages = (first.map (·.withPrev prev)).toList ++ others
  := by
  cases pages with
  | nil => exact ⟨none, [], rfl, fun _ => rfl⟩
  | cons page pages => exact ⟨some page, pages, rfl, fun _ => rfl⟩

/-- The pages of some examples, and those with one more example among them. -/
theorem exists_pagesOf_eq (before : List Example) (e : Example) (after : List Example) :
  ∃ front page back, pagesOf site format (before ++ after) = front ++ back
    ∧ front.map (·.content) = before ∧ back.map (·.content) = after ∧ page.content = e
    ∧ pagesOf site format (before ++ e :: after)
      = followedBy (some (linkTo format e)) front
        ++ page :: precededBy (some (linkTo format e)) back
  := by
  have hfront : (pagesOf site format before).map (·.content) = before :=
    map_content_pagesOf site format before
  cases after with
  | nil =>
    use pagesOf site format before, ⟨site, e, lastLink format none before, none⟩, []
    rw [List.append_nil, List.append_nil]
    exact ⟨rfl, hfront, rfl, rfl, pagesAfter_append_cons site format none before e []⟩
  | cons first after =>
    use followedBy (some (linkTo format first)) (pagesOf site format before),
      ⟨site, e, lastLink format none before, some (linkTo format first)⟩,
      pagesAfter site format (lastLink format none before) (first :: after)
    rw [map_content_followedBy, followedBy_followedBy, precededBy_pagesAfter]
    use pagesAfter_append_cons site format none before first after, hfront
    use map_content_pagesAfter site format _ (first :: after), rfl
    apply pagesAfter_append_cons site format none before e (first :: after)

/-- The pages of some examples with one more among them.  The other pages are the same, but for the
link from the page before the new one, if there is one, and that from the page behind it. -/
theorem exists_pagesOf_insert (before : List Example) (e : Example) (after : List Example) :
  ∃ (front : List ExamplePage) (last : Option ExamplePage) (page : ExamplePage)
    (first : Option ExamplePage) (back : List ExamplePage),
    pagesOf site format (before ++ after) = (front ++ last.toList) ++ (first.toList ++ back)
    ∧ pagesOf site format (before ++ e :: after)
      = (front ++ (last.map (·.withNext (some (linkTo format e)))).toList)
        ++ page :: ((first.map (·.withPrev (some (linkTo format e)))).toList ++ back)
    ∧ (front ++ last.toList).map (·.content) = before ∧ page.content = e
    ∧ (first.toList ++ back).map (·.content) = after
  := by
  obtain ⟨pages, page, pages', hpages, hbefore, hafter, hpage, hinsert⟩ :=
    exists_pagesOf_eq site format before e after
  obtain ⟨front, last, rfl, hfollowed⟩ := exists_followedBy pages
  obtain ⟨first, back, rfl, hpreceded⟩ := exists_precededBy pages'
  rw [hfollowed, hpreceded] at hinsert
  use front, last, page, first, back

end Insert

end Gallery

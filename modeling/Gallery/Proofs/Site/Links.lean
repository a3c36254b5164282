import Gallery.Proofs.Site.Navigation
import Gallery.Proofs.Text.Percent

/-!
# Where links lead

Every link of a site belongs to a page (`exists_page_of_isLink`), and the file of that page is there
when the site has been built (`isFile_pagePath`).  The link leads to it unless there are tabulators
or line breaks in the name of the example: these are left out of the link, so that it leads to the
page of the example without them in its name, if there is one (`build_links`).
-/

namespace Gallery

open Files Text

variable {c : Config} {t t₁ t₂ t' : Tree} {es : List Example} {link : Link} {page : ExamplePage}

/-- The link stands in the index of a site, or it leads from a page to the one before or behind
it. -/
def IsLink (c : Config) (es : List Example) (link : Link) : Prop :=
  link ∈ (indexOf c.site c.format es).links
    ∨ ∃ page ∈ pagesOf c.site c.format es, page.prev = some link ∨ page.next = some link

/-! ### The page of a link -/

theorem mem_of_map_getElem? {α β : Type} {as : List α} {f : α → β} {i : Nat} {b : β}
    (h : as[i]?.map f = some b) :
  ∃ a ∈ as, f a = b
  := by
  obtain ⟨a, ha, rfl⟩ := Option.map_eq_some_iff.mp h
  exact ⟨a, List.mem_of_getElem? ha, rfl⟩

/-- The neighbours of a page are examples of the site. -/
theorem exists_linkTo_of_neighbour (hpage : page ∈ pagesOf c.site c.format es)
    (h : page.prev = some link ∨ page.next = some link) :
  ∃ e ∈ es, linkTo c.format e = link
  := by
  obtain ⟨i, hi⟩ := List.mem_iff_getElem?.mp hpage
  rw [pagesOf, getElem?_pagesAfter] at hi
  obtain ⟨e, -, rfl⟩ := Option.map_eq_some_iff.mp hi
  obtain hprev | hnext := h
  · dsimp only at hprev
    split at hprev
    · cases hprev
    · apply mem_of_map_getElem? hprev
  · apply mem_of_map_getElem? hnext

/-- A link is the one to a page of the site. -/
theorem exists_page_of_isLink (h : IsLink c es link) :
  ∃ page ∈ pagesOf c.site c.format es, linkTo c.format page.content = link
  := by
  have hexample : ∃ e ∈ es, linkTo c.format e = link := by
    obtain hindex | ⟨page, hpage, hlink⟩ := h
    · apply List.mem_map.mp hindex
    · apply exists_linkTo_of_neighbour hpage hlink
  obtain ⟨e, he, rfl⟩ := hexample
  rw [← map_content_pagesOf c.site c.format es] at he
  obtain ⟨page, hpage, rfl⟩ := List.mem_map.mp he
  use page, hpage

/-- After a build the file of every page is there, with the page or with the index in it. -/
theorem isFile_pagePath {u u' : Unit} (hload : (loadExamples c).Yields t es t₁)
    (hwrite : (writeFiles (outputFiles c es)).Yields t₁ u t₂)
    (hcopy : (copyStylesheet c).Yields t₂ u' t') (hpage : page ∈ pagesOf c.site c.format es) :
  t'.isFile (pagePath c page) = true
  := by
  have hread : ∃ content, t₂.read (pagePath c page) = .ok content := by
    by_cases hindex : page.content.name = "index"
    · use (c.format.renderIndex (indexOf c.site c.format es)).toUTF8
      rw [pagePath, hindex]
      apply read_index hwrite
    · use (c.format.renderExample page).toUTF8
      apply read_pagePath_of_ne hload hwrite hpage hindex
  obtain ⟨content, hread⟩ := hread
  apply Tree.isFile_of_read
  apply read_pagePath_of_copyStylesheet hload hpage hcopy hread

/-! ### The url of a link -/

theorem kept_pageFileName (format : Format) (name : String) :
  Percent.kept (pageFileName format name) = pageFileName format (Percent.kept name)
  := by
  have hend : Percent.kept ("." ++ format.extension) = "." ++ format.extension := by
    cases format <;> decide
  rw [pageFileName, pageFileName, String.append_assoc, String.append_assoc, Percent.kept_append,
    hend]

theorem pageFileName_inj {format : Format} {m n : String} :
  pageFileName format m = pageFileName format n ↔ m = n
  := by
  constructor
  · apply pageFileName_injective
  · rintro rfl
    rfl

/-- The url of a page stands for the name of its file, but for the characters that are left
out. -/
theorem decode?_pageUrl (format : Format) (name : String) :
  Percent.decode? (pageUrl format name) = some (pageFileName format (Percent.kept name))
  := by
  rw [pageUrl, Percent.decode?_encode, kept_pageFileName]

theorem pageUrl_eq_pageUrl_iff {format : Format} {m n : String} :
  pageUrl format m = pageUrl format n ↔ Percent.kept m = Percent.kept n
  := by
  rw [pageUrl, pageUrl, Percent.encode_eq_encode_iff, kept_pageFileName, kept_pageFileName,
    pageFileName_inj]

/-- When a site has been built, every link of the index and of the pages is the link to a page whose
file was written and is there.  The url of the link stands for the name of that file, without the
tabulators and line breaks of the name; so it stands for the very name if there are none, and two
links have the same url exactly when their names differ in tabulators and line breaks only. -/
theorem build_links {c : Config} {t : Tree} {s : Summary}
    (hbuild : ((build c).run t).result = .ok s) :
  ∃ es, ((loadExamples c).run t).result = .ok es
    ∧ (∀ link, IsLink c es link → ∃ page ∈ pagesOf c.site c.format es,
      page.content.name = link.name
      ∧ (outputPath c (pageFileName c.format link.name), c.format.renderExample page)
        ∈ outputFiles c es
      ∧ ((build c).run t).tree.isFile (outputPath c (pageFileName c.format link.name)) = true
      ∧ Percent.decode? link.url = some (pageFileName c.format (Percent.kept link.name))
      ∧ (Percent.decode? link.url = some (pageFileName c.format link.name)
        ↔ ∀ ch ∈ link.name.toList, ch ≠ '\t' ∧ ch ≠ '\n' ∧ ch ≠ '\r'))
    ∧ ∀ link link', IsLink c es link → IsLink c es link' →
      (link.url = link'.url ↔ Percent.kept link.name = Percent.kept link'.name)
  := by
  obtain ⟨es, t₁, t₂, hload, hwrite, hcopy, -⟩ :=
    build_yields_iff.mp (Action.yields_of_result hbuild)
  use es, hload.1
  constructor
  · intro link hlink
    obtain ⟨page, hpage, rfl⟩ := exists_page_of_isLink hlink
    use page, hpage, rfl
    constructor
    · apply List.mem_append_left
      apply List.mem_map_of_mem hpage
    · use isFile_pagePath hload hwrite hcopy hpage, decode?_pageUrl _ _
      rw [linkTo, decode?_pageUrl, Option.some_inj, pageFileName_inj, Percent.kept_eq_self_iff]
      simp [Percent.isDropped, and_assoc]
  · intro link link' hlink hlink'
    obtain ⟨page, -, rfl⟩ := exists_page_of_isLink hlink
    obtain ⟨page', -, rfl⟩ := exists_page_of_isLink hlink'
    apply pageUrl_eq_pageUrl_iff

/-! ### Names that differ in a tabulator -/

/-- Two examples whose names differ in a tabulator. -/
def tabbed : Tree where
  root := [(⟨"from", by decide +kernel⟩, .dir [
    (⟨"a\tb", by decide +kernel⟩, .dir [(⟨"a\tb.sh", by decide +kernel⟩, .file "ls".toUTF8)]),
    (⟨"ab", by decide +kernel⟩, .dir [(⟨"ab.sh", by decide +kernel⟩, .file "cd".toUTF8)])])]
  here := []

/-- A site of the two examples. -/
def tabbedSite : Config :=
  { twoPages with examplesDir := "from" }

theorem discover_tabbed :
  (discover "from" []).run tabbed = ⟨tabbed, [], .ok ["from/a\tb", "from/ab"]⟩
  := by
  have hdir : tabbed.isDir "from" = true := by
    decide +kernel
  have hnames : (dirNames tabbed "from").filter (isSelected []) = ["a\tb", "ab"] := by
    decide +kernel
  apply run_discover_of_sorted hdir hnames
  · decide +kernel
  · decide +kernel
  · simp

/-- The link to an example with a tabulator in its name leads to the page of another example. -/
theorem build_links_tabbed :
  ((build tabbedSite).run tabbed).result = .ok ⟨2, 0⟩
    ∧ ∃ es, ((loadExamples tabbedSite).run tabbed).result = .ok es
      ∧ IsLink tabbedSite es ⟨"a\tb", "ab.json"⟩ ∧ IsLink tabbedSite es ⟨"ab", "ab.json"⟩
      ∧ ((build tabbedSite).run tabbed).tree.isFile "out/a\tb.json" = true
      ∧ Percent.decode? "ab.json" = some "ab.json"
      ∧ Percent.decode? "ab.json" ≠ some "a\tb.json"
  := by
  have hsome : ((build tabbedSite).run tabbed).result.toOption = some ⟨2, 0⟩ := by
    rw [build, tabbedSite, twoPages, Action.run_bind_ok discover_tabbed]
    decide +kernel
  have hnames : ((loadExamples tabbedSite).run tabbed).result.toOption.map (·.map (·.name))
      = some ["a\tb", "ab"] := by
    rw [loadExamples, tabbedSite, twoPages, Action.run_bind_ok discover_tabbed]
    decide +kernel
  have hbuild := eq_ok_of_toOption hsome
  obtain ⟨es, hload, hlinks, -⟩ := build_links hbuild
  have hes : es.map (·.name) = ["a\tb", "ab"] := by
    simpa [hload, Except.toOption] using hnames
  have hindex : (indexOf tabbedSite.site tabbedSite.format es).links
      = [⟨"a\tb", "ab.json"⟩, ⟨"ab", "ab.json"⟩] := by
    have hmap : (indexOf tabbedSite.site tabbedSite.format es).links
        = (es.map (·.name)).map fun name => ⟨name, pageUrl .json name⟩ := by
      rw [List.map_map]
      rfl
    rw [hmap, hes]
    decide +kernel
  have hfirst : IsLink tabbedSite es ⟨"a\tb", "ab.json"⟩ := by
    left
    simp [hindex]
  have hsecond : IsLink tabbedSite es ⟨"ab", "ab.json"⟩ := by
    left
    simp [hindex]
  obtain ⟨-, -, -, -, hfile, hdecode, hiff⟩ := hlinks _ hfirst
  use hbuild, es, hload, hfirst, hsecond, hfile
  constructor
  · exact hdecode
  · intro hequal
    have hfree := hiff.mp hequal '\t'
    simp at hfree

end Gallery

import Gallery.Proofs.Page.Distinct
import Gallery.Proofs.Site.Phases

/-!
# The pages of a site that has been built

The file of a page is written before those of the later pages, the index and the stylesheet.
Pages have different names, so no other page takes its place, and neither does the stylesheet; but
the index does if the example is called `index`.
-/

namespace Gallery

open Files

/-! ### Names of files -/

theorem pageFileName_injective {format : Format} {m n : String}
    (h : pageFileName format m = pageFileName format n) :
  m = n
  := by
  simpa [pageFileName, String.append_left_inj] using h

theorem pageFileName_index (format : Format) :
  pageFileName format "index" = indexFileName format
  := by
  cases format <;> rfl

/-- A page file has a name that ends as its extension does. -/
theorem pageFileName_ne {format : Format} {s : String}
    (h : s.toList.getLast? ≠ format.extension.toList.getLast?) (name : String) :
  pageFileName format name ≠ s
  := by
  rintro rfl
  apply h
  cases format <;> simp [pageFileName, Format.extension]

theorem isPlain_pageFileName (format : Format) {name : String} (h : Path.IsPlain name) :
  Path.IsPlain (pageFileName format name)
  := by
  have hslash : '/' ∉ format.extension.toList := by
    cases format <;> decide
  have hempty : pageFileName format name ≠ "" :=
    pageFileName_ne (by cases format <;> decide) name
  have hdot : pageFileName format name ≠ "." :=
    pageFileName_ne (by cases format <;> decide) name
  constructor
  · simp [pageFileName, h.noSlash, hslash]
  · simp [Path.staysPut, hempty, hdot]
  · apply pageFileName_ne
    cases format <;> decide

theorem isPlain_indexFileName (format : Format) :
  Path.IsPlain (pageFileName format "index")
  := isPlain_pageFileName format (by decide)

theorem pageFileName_ne_stylesheet (format : Format) (name : String) :
  pageFileName format name ≠ "site.css"
  := by
  apply pageFileName_ne
  cases format <;> decide

/-! ### The list of pages -/

theorem map_content_pagesAfter (site : Site) (format : Format) (prev : Option Link)
    (es : List Example) :
  (pagesAfter site format prev es).map (·.content) = es
  := by
  induction es generalizing prev with
  | nil => simp [pagesAfter]
  | cons e es ih => simp [pagesAfter, ih]

theorem map_content_pagesOf (site : Site) (format : Format) (es : List Example) :
  (pagesOf site format es).map (·.content) = es
  := map_content_pagesAfter site format none es

theorem site_of_mem_pagesOf {site : Site} {format : Format} {es : List Example}
    {page : ExamplePage} (h : page ∈ pagesOf site format es) :
  page.site = site
  := by
  have hsite : ∀ prev, page ∈ pagesAfter site format prev es → page.site = site := by
    clear h
    induction es with
    | nil => simp [pagesAfter]
    | cons e es ih =>
      intro prev h
      obtain rfl | h := List.mem_cons.mp h
      · rfl
      · apply ih _ h
  apply hsite none h

section Built

variable {c : Config} {t t' : Tree} {es : List Example} {page : ExamplePage}

theorem content_mem_of_mem_pagesOf (h : page ∈ pagesOf c.site c.format es) :
  page.content ∈ es
  := by
  rw [← map_content_pagesOf c.site c.format es]
  apply List.mem_map_of_mem h

/-- The pages behind a page have other names. -/
theorem name_ne_of_mem_after {before after : List ExamplePage}
    (hnodup : (es.map (·.name)).Nodup)
    (hpages : pagesOf c.site c.format es = before ++ page :: after) {other : ExamplePage}
    (hother : other ∈ after) :
  other.content.name ≠ page.content.name
  := by
  rw [← map_content_pagesOf c.site c.format es, hpages, List.map_map, List.map_append,
    List.map_cons] at hnodup
  have hnotMem := (List.nodup_cons.mp (List.nodup_append.mp hnodup).2.1).1
  intro heq
  apply hnotMem
  rw [List.mem_map]
  use other, hother, heq

/-! ### What the files hold -/

/-- The path of the file of a page. -/
def pagePath (c : Config) (page : ExamplePage) : String :=
  outputPath c (pageFileName c.format page.content.name)

/-- The pages behind a page have files with other names. -/
theorem beside_pages (hload : (loadExamples c).Yields t es t') {before after : List ExamplePage}
    (hpages : pagesOf c.site c.format es = before ++ page :: after) :
  Beside c.outputDir (pageFileName c.format page.content.name) (after.map (pageFile c))
  := by
  intro file hfile
  obtain ⟨other, hother, rfl⟩ := List.mem_map.mp hfile
  have hmem : other ∈ pagesOf c.site c.format es := by
    simp [hpages, hother]
  use pageFileName c.format other.content.name
  constructor
  · apply isPlain_pageFileName
    apply isPlain_of_loadExamples hload (content_mem_of_mem_pagesOf hmem)
  · constructor
    · intro heq
      apply name_ne_of_mem_after (nodup_names_of_loadExamples hload) hpages hother
      apply pageFileName_injective heq
    · rfl

/-- The index has a file with another name than a page that is not called `index`. -/
theorem beside_index (hindex : page.content.name ≠ "index") :
  Beside c.outputDir (pageFileName c.format page.content.name) [indexFile c es]
  := by
  intro file hfile
  obtain rfl := List.mem_singleton.mp hfile
  use pageFileName c.format "index"
  constructor
  · apply isPlain_indexFileName
  · constructor
    · intro heq
      apply hindex (pageFileName_injective heq).symm
    · rw [indexFile, pageFileName_index]
      rfl

/-- The files behind that of a page have other names, unless the page is called `index`. -/
theorem beside_after (hload : (loadExamples c).Yields t es t') {before after : List ExamplePage}
    (hpages : pagesOf c.site c.format es = before ++ page :: after)
    (hindex : page.content.name ≠ "index") :
  Beside c.outputDir (pageFileName c.format page.content.name)
    (after.map (pageFile c) ++ [indexFile c es])
  := by
  intro file hfile
  obtain hfile | hfile := List.mem_append.mp hfile
  · apply beside_pages hload hpages file hfile
  · apply beside_index hindex file hfile

/-- A page that is not called `index` is in its file when all files have been written. -/
theorem read_pagePath_of_ne {t₁ t₂ : Tree} {u : Unit} (hload : (loadExamples c).Yields t es t₁)
    (hwrite : (writeFiles (outputFiles c es)).Yields t₁ u t₂)
    (hpage : page ∈ pagesOf c.site c.format es) (hindex : page.content.name ≠ "index") :
  t₂.read (pagePath c page) = .ok (c.format.renderExample page).toUTF8
  := by
  obtain ⟨before, after, hpages⟩ := List.append_of_mem hpage
  have hplain := isPlain_of_loadExamples hload (content_mem_of_mem_pagesOf hpage)
  rw [outputFiles, hpages, List.map_append, List.map_cons, List.append_assoc,
    List.cons_append] at hwrite
  apply read_of_writeFiles (isPlain_pageFileName c.format hplain) _ hwrite
  apply beside_after hload hpages hindex

/-- The index is in its file when all files have been written. -/
theorem read_index {t₁ t₂ : Tree} {u : Unit}
    (hwrite : (writeFiles (outputFiles c es)).Yields t₁ u t₂) :
  t₂.read (outputPath c (pageFileName c.format "index"))
    = .ok (c.format.renderIndex (indexOf c.site c.format es)).toUTF8
  := by
  rw [outputFiles, indexFile, ← pageFileName_index] at hwrite
  apply read_of_writeFiles _ _ hwrite
  · apply isPlain_indexFileName
  · simp [Beside]

/-- Copying the stylesheet leaves the file of a page as it is. -/
theorem read_pagePath_of_copyStylesheet {t₁ t₂ : Tree} {u : Unit} {content : ByteArray}
    (hload : (loadExamples c).Yields t es t₁) (hpage : page ∈ pagesOf c.site c.format es)
    (hcopy : (copyStylesheet c).Yields t₂ u t')
    (hread : t₂.read (pagePath c page) = .ok content) :
  t'.read (pagePath c page) = .ok content
  := by
  have hplain := isPlain_of_loadExamples hload (content_mem_of_mem_pagesOf hpage)
  apply read_of_copyStylesheet (isPlain_pageFileName c.format hplain) _ hcopy hread
  apply pageFileName_ne_stylesheet

end Built

/-- When a site has been built, the file of each page is there, and it holds the page unless the
example is called `index`: then the index has taken its place. -/
theorem build_read_pagePath {c : Config} {t : Tree} {s : Summary}
    (hbuild : ((build c).run t).result = .ok s) :
  ∃ es, ((loadExamples c).run t).result = .ok es ∧ s.pages = es.length
    ∧ (pagesOf c.site c.format es).map (·.content) = es
    ∧ ∀ page ∈ pagesOf c.site c.format es,
      ((build c).run t).tree.isFile (pagePath c page) = true
      ∧ (((build c).run t).tree.read (pagePath c page) = .ok (c.format.renderExample page).toUTF8
        ↔ page.content.name ≠ "index")
      ∧ (page.content.name = "index" → ((build c).run t).tree.read (pagePath c page)
        = .ok (c.format.renderIndex (indexOf c.site c.format es)).toUTF8)
  := by
  obtain ⟨es, t₁, t₂, hload, hwrite, hcopy, rfl⟩ :=
    build_yields_iff.mp (Action.yields_of_result hbuild)
  use es, hload.1, rfl, map_content_pagesOf c.site c.format es
  intro page hpage
  by_cases hindex : page.content.name = "index"
  · have hread : t₂.read (pagePath c page)
        = .ok (c.format.renderIndex (indexOf c.site c.format es)).toUTF8 := by
      rw [pagePath, hindex]
      apply read_index hwrite
    have hend := read_pagePath_of_copyStylesheet hload hpage hcopy hread
    have hne : c.format.renderIndex (indexOf c.site c.format es) ≠ c.format.renderExample page := by
      apply Format.renderIndex_ne_renderExample
      rw [site_of_mem_pagesOf hpage]
      rfl
    constructor
    · apply Tree.isFile_of_read hend
    · rw [hend]
      simp [hindex, hne, String.toByteArray_inj]
  · have hread := read_pagePath_of_ne hload hwrite hpage hindex
    have hend := read_pagePath_of_copyStylesheet hload hpage hcopy hread
    constructor
    · apply Tree.isFile_of_read hend
    · simp [hend, hindex]

/-! ### An example called `index` -/

/-- Two examples, one of them called `index`. -/
def twoExamples : Tree where
  root := [(⟨"in", by decide +kernel⟩, .dir [
    (⟨"a", by decide +kernel⟩, .dir [(⟨"a.sh", by decide +kernel⟩, .file "ls".toUTF8)]),
    (⟨"index", by decide +kernel⟩, .dir [(⟨"index.sh", by decide +kernel⟩, .file "cd".toUTF8)])])]
  here := []

/-- A site of the two examples. -/
def twoPages : Config where
  examplesDir := "in"
  outputDir := "out"
  site := ⟨"T", none, none, none, .shell⟩
  format := .json
  only := []
  stylesheet := none

theorem discover_twoExamples :
  (discover "in" []).run twoExamples = ⟨twoExamples, [], .ok ["in/a", "in/index"]⟩
  := by
  have hdir : twoExamples.isDir "in" = true := by
    decide +kernel
  have hnames : (dirNames twoExamples "in").filter (isSelected []) = ["a", "index"] := by
    decide +kernel
  apply run_discover_of_sorted hdir hnames
  · decide +kernel
  · decide +kernel
  · simp

theorem build_read_pagePath_twoPages :
  ((build twoPages).run twoExamples).result = .ok ⟨2, 0⟩
    ∧ ∃ es, ((loadExamples twoPages).run twoExamples).result = .ok es
      ∧ es.map (·.name) = ["a", "index"]
      ∧ ∀ page ∈ pagesOf twoPages.site twoPages.format es,
        ((build twoPages).run twoExamples).tree.read (pagePath twoPages page)
            = .ok (twoPages.format.renderExample page).toUTF8
          ↔ page.content.name ≠ "index"
  := by
  have hsome : ((build twoPages).run twoExamples).result.toOption = some ⟨2, 0⟩ := by
    rw [build, twoPages, Action.run_bind_ok discover_twoExamples]
    decide +kernel
  have hnames : ((loadExamples twoPages).run twoExamples).result.toOption.map (·.map (·.name))
      = some ["a", "index"] := by
    rw [loadExamples, twoPages, Action.run_bind_ok discover_twoExamples]
    decide +kernel
  have hbuild := eq_ok_of_toOption hsome
  obtain ⟨es, hload, -, -, hpages⟩ := build_read_pagePath hbuild
  use hbuild, es, hload
  constructor
  · simpa [hload, Except.toOption] using hnames
  · intro page hpage
    exact (hpages page hpage).2.1

end Gallery

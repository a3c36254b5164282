import Gallery.Proofs.Site.Pages

/-!
# The links between pages

The pages of a site are a chain over the directories that have been found and have a source file
(`Chain`): each is linked to the page of the directory before it and to that of the directory behind
it, whatever other directories lie between them.  The index lists the same directories in the same
order (`build_navigation`).
-/

namespace Gallery

open Files

variable {c : Config} {t : Tree} {es : List Example}

/-- The link to the page of the example of a directory. -/
def linkToDir (format : Format) (dir : String) : Link :=
  ⟨Path.baseName dir, pageUrl format (Path.baseName dir)⟩

/-- The pages show the examples of the directories, one for each and in the same order, and every
page is linked to the pages of the directories beside its own. -/
structure Chain (c : Config) (t : Tree) (dirs : List String) (pages : List ExamplePage) : Prop where
  length : pages.length = dirs.length
  site : ∀ page ∈ pages, page.site = c.site
  content : ∀ (i : Nat) (page : ExamplePage), pages[i]? = some page → ∃ dir, dirs[i]? = some dir
    ∧ ((load c.site.language dir).run t).result = .ok (some page.content)
  prev : ∀ (i : Nat) (page : ExamplePage), pages[i]? = some page →
    page.prev = if i = 0 then none else dirs[i - 1]?.map (linkToDir c.format)
  next : ∀ (i : Nat) (page : ExamplePage), pages[i]? = some page →
    page.next = dirs[i + 1]?.map (linkToDir c.format)
  /-- One page is the next one of another if that is the previous one of the first. -/
  next_iff_prev : ∀ (i j : Nat) (page page' : ExamplePage),
    pages[i]? = some page → pages[j]? = some page' → (page.next = dirs[j]?.map (linkToDir c.format)
      ↔ page'.prev = dirs[i]?.map (linkToDir c.format))

/-! ### Neighbours in a list -/

theorem getElem?_pagesAfter (site : Site) (format : Format) (prev : Option Link)
    (es : List Example) (i : Nat) :
  (pagesAfter site format prev es)[i]? = es[i]?.map fun e =>
    ⟨site, e, if i = 0 then prev else es[i - 1]?.map (linkTo format),
      es[i + 1]?.map (linkTo format)⟩
  := by
  induction es generalizing prev i with
  | nil => simp [pagesAfter]
  | cons e es ih =>
    rw [pagesAfter]
    rcases i with _ | i
    · simp [List.head?_eq_getElem?]
    · rw [List.getElem?_cons_succ, ih]
      rcases i with _ | i <;> simp

/-- In a list without repetitions, `j` comes after `i` if `i` comes before `j`. -/
theorem next_iff_prev {α : Type} {as : List α} (hnodup : as.Nodup) {i j : Nat}
    (hi : i < as.length) (hj : j < as.length) :
  as[i + 1]? = as[j]? ↔ (if j = 0 then none else as[j - 1]?) = as[i]?
  := by
  have hleft : as[i + 1]? = as[j]? ↔ j = i + 1 := by
    rw [eq_comm, List.getElem?_inj hj hnodup]
  have hright : as[j - 1]? = as[i]? ↔ i = j - 1 := by
    rw [eq_comm, List.getElem?_inj hi hnodup]
  have hfound : as[i]? ≠ none := by
    simpa using hi
  rw [hleft]
  split
  · simp [*]
  · rw [hright]
    omega

/-! ### Links to directories -/

theorem map_linkTo {language : Language} {dirs : List String} (format : Format)
    (h : List.Forall₂ (fun dir e => exampleIn t language dir = .ok (some e)) dirs es) :
  es.map (linkTo format) = dirs.map (linkToDir format)
  := by
  have hlinks := congrArg (List.map fun name => Link.mk name (pageUrl format name))
    (map_name_of_exampleIn h)
  rw [List.map_map, List.map_map] at hlinks
  apply hlinks

theorem nodup_map_linkToDir {base : String} {only : List Glob.Pattern} {dirs : List String}
    (format : Format) (h : dirs.Sublist (exampleDirs t base only)) :
  (dirs.map (linkToDir format)).Nodup
  := by
  have hnames : (dirs.map Path.baseName).Nodup :=
    (h.map Path.baseName).nodup (nodup_baseName_exampleDirs t base only)
  apply List.Nodup.of_map Link.name
  rw [List.map_map]
  apply hnames

/-- The pages of the examples of some directories are a chain over them. -/
theorem chain_pagesOf {dirs : List String}
    (hdirs : dirs.Sublist (exampleDirs t c.examplesDir c.only))
    (h : List.Forall₂ (fun dir e => exampleIn t c.site.language dir = .ok (some e)) dirs es) :
  Chain c t dirs (pagesOf c.site c.format es)
  := by
  have hpage : ∀ i, (pagesOf c.site c.format es)[i]? = es[i]?.map fun e =>
      (⟨c.site, e, if i = 0 then none else dirs[i - 1]?.map (linkToDir c.format),
        dirs[i + 1]?.map (linkToDir c.format)⟩ : ExamplePage) := by
    intro i
    simp only [pagesOf, getElem?_pagesAfter, ← List.getElem?_map, map_linkTo c.format h]
  have hlength : (pagesOf c.site c.format es).length = dirs.length := by
    rw [h.length_eq, ← List.length_map, map_content_pagesOf]
  have hprev : ∀ (i : Nat) (page : ExamplePage), (pagesOf c.site c.format es)[i]? = some page →
      page.prev = if i = 0 then none else dirs[i - 1]?.map (linkToDir c.format) := by
    intro i page hi
    rw [hpage] at hi
    obtain ⟨e, -, rfl⟩ := Option.map_eq_some_iff.mp hi
    rfl
  have hnext : ∀ (i : Nat) (page : ExamplePage), (pagesOf c.site c.format es)[i]? = some page →
      page.next = dirs[i + 1]?.map (linkToDir c.format) := by
    intro i page hi
    rw [hpage] at hi
    obtain ⟨e, -, rfl⟩ := Option.map_eq_some_iff.mp hi
    rfl
  constructor
  · apply hlength
  · intro page hmem
    apply site_of_mem_pagesOf hmem
  · intro i page hi
    rw [hpage] at hi
    obtain ⟨e, he, rfl⟩ := Option.map_eq_some_iff.mp hi
    obtain ⟨hlt, rfl⟩ := List.getElem?_eq_some_iff.mp he
    have hlt' : i < dirs.length := by
      rw [h.length_eq]
      apply hlt
    use dirs[i], List.getElem?_eq_getElem hlt'
    rw [(load_answers _ _ _).result_eq]
    apply List.Forall₂.get h hlt' hlt
  · apply hprev
  · apply hnext
  · intro i j page page' hi hj
    have hi' : i < dirs.length := hlength ▸ (List.getElem?_eq_some_iff.mp hi).1
    have hj' : j < dirs.length := hlength ▸ (List.getElem?_eq_some_iff.mp hj).1
    rw [hnext i page hi, hprev j page' hj]
    simp only [← List.getElem?_map]
    apply next_iff_prev (nodup_map_linkToDir c.format hdirs)
    · rw [List.length_map]
      apply hi'
    · rw [List.length_map]
      apply hj'

/-- When a site has been built, its pages are a chain over the directories that have been found and
have a source file, and its index has links to the same pages in the same order. -/
theorem build_navigation {c : Config} {t : Tree} {s : Summary}
    (hlanguage : c.site.language ∈ Language.all) (hbuild : ((build c).run t).result = .ok s) :
  ∃ found es t₁ t₂, ((discover c.examplesDir c.only).run t).result = .ok found
    ∧ s.pages = (found.filter (hasSource t c.site.language)).length
    ∧ s.pages + s.skipped = found.length
    ∧ Chain c t (found.filter (hasSource t c.site.language)) (pagesOf c.site c.format es)
    ∧ indexOf c.site c.format es
      = ⟨c.site, (found.filter (hasSource t c.site.language)).map (linkToDir c.format)⟩
    ∧ t.makeDirs c.outputDir = (t₁, .ok ())
    ∧ (writeFiles (outputFiles c es)).Yields t₁ () t₂
    ∧ (copyStylesheet c).Yields t₂ () ((build c).run t).tree
  := by
  have hyields := Action.yields_of_result hbuild
  have hcount := pages_add_skipped hyields
  obtain ⟨es, t₁, t₂, hload, hwrite, hcopy, rfl⟩ := build_yields_iff.mp hyields
  obtain ⟨hdir, hmake, -⟩ := loadExamples_yields_iff.mp hload
  have hes := exampleIn_of_loadExamples hlanguage hload
  use exampleDirs t c.examplesDir c.only, es, t₁, t₂
  constructor
  · rw [(discover_answers _ _ _).result_eq, if_pos hdir]
  · constructor
    · apply hes.length_eq.symm
    · constructor
      · apply hcount
      · constructor
        · apply chain_pagesOf List.filter_sublist hes
        · constructor
          · rw [indexOf, map_linkTo c.format hes]
          · exact ⟨hmake, hwrite, hcopy⟩

theorem build_navigation_threeDirs :
  ((build (threeDirsSite "out" none)).run threeDirs).result = .ok ⟨2, 1⟩
    ∧ ∃ es, Chain (threeDirsSite "out" none) threeDirs ["tour/b", "tour/d"]
        (pagesOf (threeDirsSite "out" none).site .json es)
      ∧ (indexOf (threeDirsSite "out" none).site .json es).links
        = [⟨"b", "b.json"⟩, ⟨"d", "d.json"⟩]
  := by
  have hsome : ((build (threeDirsSite "out" none)).run threeDirs).result.toOption
      = some ⟨2, 1⟩ := by
    rw [build, threeDirsSite, Action.run_bind_ok discover_threeDirs]
    decide +kernel
  have hbuild := eq_ok_of_toOption hsome
  have hsources : ["tour/b", "tour/c", "tour/d"].filter (hasSource threeDirs .shell)
      = ["tour/b", "tour/d"] := by
    decide +kernel
  have hlinks : ["tour/b", "tour/d"].map (linkToDir .json)
      = [⟨"b", "b.json"⟩, ⟨"d", "d.json"⟩] := by
    decide +kernel
  obtain ⟨found, es, -, -, hfound, -, -, hchain, hindex, -⟩ :=
    build_navigation (by decide) hbuild
  have heq : found = ["tour/b", "tour/c", "tour/d"] := by
    have hresult : ((discover "tour" []).run threeDirs).result = .ok found := hfound
    rw [discover_threeDirs] at hresult
    exact (Except.ok.inj hresult).symm
  subst heq
  use hbuild, es
  constructor
  · rw [← hsources]
    apply hchain
  · have hall : (indexOf (threeDirsSite "out" none).site .json es).links
        = (["tour/b", "tour/c", "tour/d"].filter (hasSource threeDirs .shell)).map
          (linkToDir .json) :=
      congrArg IndexPage.links hindex
    rw [hall, hsources, hlinks]

end Gallery

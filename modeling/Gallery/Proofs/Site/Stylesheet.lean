import Gallery.Proofs.Site.Pages

/-!
# The copy of the stylesheet

The stylesheet is copied when the pages and the index have been written, and the copy is emptied
before it is filled.  So what it holds depends on where the file of the stylesheet lies
(`build_read_stylesheetPath`): nothing, if it lies where the copy is made; a page or the index, if
one was written there; and otherwise what the stylesheet held before the build.
-/

namespace Gallery

open Files

/-- What the copy of the stylesheet holds after a build.  The path of the stylesheet leads to a
file; if this is the copy itself, nothing remains of it.  Otherwise the copy holds the text of the
page or index that was last written to this file, or, if there is none, what the file held before
the build. -/
theorem build_read_stylesheetPath {c : Config} {t : Tree} {s : Summary} {path : String}
    (hbuild : ((build c).run t).result = .ok s) (hstylesheet : c.stylesheet = some path) :
  ∃ es loc out, ((loadExamples c).run t).result = .ok es
    ∧ ((build c).run t).tree.locate path = .ok loc
    ∧ (∀ found, t.locate path = .ok found → found = loc)
    ∧ ((build c).run t).tree.locate (stylesheetPath c) = .ok out
    ∧ ∀ content, t.lookup loc = some (.file content) →
      ((build c).run t).tree.read (stylesheetPath c)
        = .ok (if out = loc then .empty else
          ((((build c).run t).tree.lastText? (outputFiles c es) loc).map String.toUTF8).getD
            content)
      ∧ (((build c).run t).tree.read (stylesheetPath c) = .ok content
        ↔ if out = loc then content = .empty else
          ∀ text ∈ ((build c).run t).tree.lastText? (outputFiles c es) loc, text.toUTF8 = content)
  := by
  obtain ⟨es, t₁, t₂, hload, hwrite, hcopy, -⟩ :=
    build_yields_iff.mp (Action.yields_of_result hbuild)
  have hnew := newDirs_of_loadExamples hload
  have hwritten := written_of_writeFiles hwrite
  generalize ((build c).run t).tree = t' at hcopy ⊢
  obtain ⟨hnone, -⟩ | ⟨source, hsource, hcopied⟩ := copyStylesheet_yields_iff.mp hcopy
  · rw [hnone] at hstylesheet
    cases hstylesheet
  · obtain rfl : source = path := Option.some.inj (hsource.symm.trans hstylesheet)
    obtain ⟨loc, out, copied, hloc, hfile, hout, hsame, hread⟩ := Tree.read_of_copy hcopied
    use es, loc, out, hload.1, hloc
    constructor
    · intro found hfound
      have hlater := (hwritten.sameDirs.trans hsame).locate_eq_ok.mpr
        (hnew.keepsDirs.locate hfound)
      exact Except.ok.inj (hlater.symm.trans hloc)
    · use hout
      intro content hbefore
      -- Nothing but the pages and the index is written before the stylesheet is copied.
      have hlookup := hwritten.lookup_file (hnew.lookup_file.mpr hbefore)
      rw [← hsame.lastText?, hfile] at hlookup
      obtain rfl := Entry.file.inj (Option.some.inj hlookup)
      rw [hread]
      constructor
      · rfl
      · split
        · rw [Except.ok.injEq, eq_comm]
        · rw [Except.ok.injEq]
          rcases t'.lastText? (outputFiles c es) loc with _ | text
          · simp
          · simp

/-! ### A stylesheet in its place -/

/-- An example, and a stylesheet that lies where its copy is made. -/
def stylesheetInPlace : Tree where
  root := [
    (⟨"examples", by decide +kernel⟩, .dir [
      (⟨"e", by decide +kernel⟩, .dir [(⟨"e.sh", by decide +kernel⟩, .file "ls".toUTF8)])]),
    (⟨"out", by decide +kernel⟩, .dir [
      (⟨"site.css", by decide +kernel⟩, .file "/* plain */".toUTF8)])]
  here := []

/-- A site of the example, with the stylesheet. -/
def stylesheetInPlaceSite : Config where
  examplesDir := "examples"
  outputDir := "out"
  site := ⟨"T", none, none, none, .shell⟩
  format := .json
  only := []
  stylesheet := some "out/site.css"

theorem discover_stylesheetInPlace :
  (discover "examples" []).run stylesheetInPlace = ⟨stylesheetInPlace, [], .ok ["examples/e"]⟩
  := by
  have hdir : stylesheetInPlace.isDir "examples" = true := by
    decide +kernel
  have hnames : (dirNames stylesheetInPlace "examples").filter (isSelected []) = ["e"] := by
    decide +kernel
  apply run_discover_of_sorted hdir hnames
  · decide +kernel
  · decide +kernel
  · simp

theorem build_read_stylesheetPath_inPlace :
  ((build stylesheetInPlaceSite).run stylesheetInPlace).result = .ok ⟨1, 0⟩
    ∧ stylesheetInPlace.read "out/site.css" = .ok "/* plain */".toUTF8
    ∧ ((build stylesheetInPlaceSite).run stylesheetInPlace).tree.read "out/site.css" = .ok .empty
  := by
  have hbuild : ((build stylesheetInPlaceSite).run stylesheetInPlace).result = .ok ⟨1, 0⟩ := by
    apply eq_ok_of_toOption
    rw [build, stylesheetInPlaceSite, Action.run_bind_ok discover_stylesheetInPlace]
    decide +kernel
  have hpath : stylesheetPath stylesheetInPlaceSite = "out/site.css" := by
    decide +kernel
  have hread : stylesheetInPlace.read "out/site.css" = .ok "/* plain */".toUTF8 := by
    apply eq_ok_of_toOption
    decide +kernel
  obtain ⟨_, loc, out, -, hloc, hfound, hout, hcopy⟩ := build_read_stylesheetPath hbuild rfl
  rw [hpath] at hout hcopy
  obtain rfl : out = loc := Except.ok.inj (hout.symm.trans hloc)
  obtain ⟨found, hlocate, hfile⟩ := Tree.read_eq_ok.mp hread
  obtain rfl := hfound found hlocate
  use hbuild, hread
  rw [(hcopy _ hfile).1, if_pos rfl]

end Gallery

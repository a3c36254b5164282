import Gallery.Proofs.Site.Insertion
import Gallery.Proofs.Site.Navigation
import Gallery.Proofs.Site.Rediscovery

/-!
# Changes beside the examples

What a site shows depends on the source files and the scripts in the directories of its examples,
and on nothing else in the tree.  If two trees differ beside them only, the same files are written
from both; if there is one more example in the second tree, then it takes its place among the others
by its name, and the pages of the others are the same, but for the link of each of its neighbours to
it (`build_local`).
-/

namespace Gallery

open Files

variable {c : Config} {t t' t₁ t₁' : Tree} {es es' : List Example} {dir : String}
  {dirs : List String}

/-! ### Trees that differ beside the examples -/

/-- The directories of the examples of a site: those that are selected and have a source file. -/
def sourceDirs (c : Config) (t : Tree) : List String :=
  (exampleDirs t c.examplesDir c.only).filter (hasSource t c.site.language)

/-- The location is that of the source file or of the script of an example; the script need not be
there. -/
def IsFileOf (c : Config) (t : Tree) (dir : String) (loc : Location) : Prop :=
  dir ∈ sourceDirs c t ∧ ∃ extension ∈ [c.site.language.extension, "sh"],
    t.locate (exampleFile dir extension) = .ok loc

/-- Two trees have the same working directory, and where they differ there is no source file and no
script of an example, except those of the given directories. -/
structure DifferBeside (c : Config) (dirs : List String) (t t' : Tree) : Prop where
  here : t'.here = t.here
  mem : ∀ loc dir, t'.lookup loc ≠ t.lookup loc → IsFileOf c t dir loc ∨ IsFileOf c t' dir loc →
    dir ∈ dirs

theorem DifferBeside.symm (h : DifferBeside c dirs t t') :
  DifferBeside c dirs t' t
  := by
  constructor
  · rw [h.here]
  · intro loc dir hne hfile
    apply h.mem loc dir hne.symm hfile.symm

/-! ### The examples -/

section Beside

variable (h : DifferBeside c dirs t t') (hlanguage : c.site.language ∈ Language.all)
  (hbase : t.isDir c.examplesDir = true) (hbase' : t'.isDir c.examplesDir = true)

include h hlanguage hbase hbase'

/-- The directories of other examples are there in the second tree, with the same files. -/
theorem sameFile_of_beside (hdir : dir ∈ sourceDirs c t) (hother : dir ∉ dirs) :
  t'.isDir dir = true
    ∧ Tree.SameFile t t' (exampleFile dir c.site.language.extension)
    ∧ Tree.SameFile t t' (exampleFile dir "sh")
  := by
  have hlookup : ∀ extension ∈ [c.site.language.extension, "sh"], ∀ loc,
      t.locate (exampleFile dir extension) = .ok loc → t'.lookup loc = t.lookup loc := by
    intro extension hextension loc hlocate
    by_contra hne
    apply hother (h.mem loc dir hne (.inl ⟨hdir, extension, hextension, hlocate⟩))
  have hplain : ∀ extension, IsExtension extension →
      Path.IsPlain (Path.baseName dir ++ "." ++ extension) :=
    fun extension => isPlain_append_extension (noSlash_baseName dir)
  obtain ⟨hmem, hsource⟩ := List.mem_filter.mp hdir
  have hthere := isDir_of_mem_exampleDirs hmem
  have hextension := isExtension_of_mem_all hlanguage
  -- The directory is found on the way to its source file.
  have hthere' : t'.isDir dir = true := by
    obtain ⟨-, name, hname, -, rfl⟩ :=
      (mem_exampleDirs (Tree.ne_empty_of_isDir hbase)).mp hmem
    apply Tree.isDir_of_lookup_file h.symm.here hbase' hbase hname (hplain _ hextension) _ hsource
    intro loc content hlocate hfile
    rw [hlookup c.site.language.extension (by simp) loc hlocate, hfile]
  have hsame : ∀ extension ∈ [c.site.language.extension, "sh"], IsExtension extension →
      Tree.SameFile t t' (exampleFile dir extension) := by
    intro extension hmem hextension
    apply Tree.sameFile_join h.here hthere hthere' (hplain _ hextension)
    intro loc content hlocate
    rw [hlookup extension hmem loc hlocate]
  use hthere'
  constructor
  · apply hsame _ (by simp) hextension
  · apply hsame _ (by simp) isExtension_sh

/-- Other examples are the same in the second tree. -/
theorem exampleIn_of_beside (hdir : dir ∈ sourceDirs c t) (hother : dir ∉ dirs) :
  exampleIn t' c.site.language dir = exampleIn t c.site.language dir
  := by
  obtain ⟨-, hsource, hscript⟩ := sameFile_of_beside h hlanguage hbase hbase' hdir hother
  apply exampleIn_congr hsource hscript

theorem mem_sourceDirs_of_beside (hdir : dir ∈ sourceDirs c t) (hother : dir ∉ dirs) :
  dir ∈ sourceDirs c t'
  := by
  obtain ⟨hthere, hsame, -⟩ := sameFile_of_beside h hlanguage hbase hbase' hdir hother
  obtain ⟨hmem, hsource⟩ := List.mem_filter.mp hdir
  have hne := Tree.ne_empty_of_isDir hbase
  apply List.mem_filter.mpr
  constructor
  · rw [mem_exampleDirs hne] at hmem ⊢
    exact ⟨hthere, hmem.2⟩
  · rw [hasSource, hsame.isFile]
    apply hsource

/-- The directories of other examples are the same, in the same order. -/
theorem filter_sourceDirs_of_beside :
  (sourceDirs c t').filter (· ∉ dirs) = (sourceDirs c t).filter (· ∉ dirs)
  := by
  simp only [sourceDirs, List.filter_filter]
  apply filter_exampleDirs_eq
  intro dir
  have hmem : ∀ s, (dir ∈ exampleDirs s c.examplesDir c.only
      ∧ (decide (dir ∉ dirs) && hasSource s c.site.language dir) = true)
      ↔ dir ∈ sourceDirs c s ∧ dir ∉ dirs := by
    intro s
    rw [sourceDirs, List.mem_filter, Bool.and_eq_true, decide_eq_true_eq]
    tauto
  rw [hmem, hmem]
  constructor
  · rintro ⟨hdir, hother⟩
    use mem_sourceDirs_of_beside h.symm hlanguage hbase' hbase hdir hother, hother
  · rintro ⟨hdir, hother⟩
    use mem_sourceDirs_of_beside h hlanguage hbase hbase' hdir hother, hother

end Beside

/-- If there is one more example in the second tree, its directory stands among the same others. -/
theorem sourceDirs_insert_of_beside (h : DifferBeside c [dir] t t')
    (hlanguage : c.site.language ∈ Language.all) (hbase : t.isDir c.examplesDir = true)
    (hbase' : t'.isDir c.examplesDir = true) (hnew : dir ∉ sourceDirs c t)
    (hdir : dir ∈ sourceDirs c t') :
  ∃ front back, sourceDirs c t' = front ++ dir :: back ∧ sourceDirs c t = front ++ back
  := by
  obtain ⟨front, back, hfront⟩ := List.append_of_mem hdir
  have hnodup : (front ++ dir :: back).Nodup := by
    rw [← hfront]
    apply ((ascending_exampleDirs t' c.examplesDir c.only).filter _).nodup
  have hothers : dir ∉ front ++ back := (List.nodup_middle.mp hnodup).notMem
  have hkeep : ∀ ds : List String, dir ∉ ds → ds.filter (· ∉ [dir]) = ds := by
    intro ds hds
    rw [List.filter_eq_self]
    intro d hd
    rw [decide_eq_true_eq, List.mem_singleton]
    rintro rfl
    apply hds hd
  have hfilter := filter_sourceDirs_of_beside h hlanguage hbase hbase'
  rw [hkeep _ hnew, hfront, List.filter_append, List.filter_cons_of_neg (by simp),
    ← List.filter_append, hkeep _ hothers] at hfilter
  exact ⟨front, back, hfront, hfilter.symm⟩

/-- The examples that are loaded are those of the directories with a source file, one by one. -/
theorem map_exampleIn_sourceDirs (hlanguage : c.site.language ∈ Language.all)
    (h : (loadExamples c).Yields t es t₁) :
  (sourceDirs c t).map (exampleIn t c.site.language) = es.map fun e => .ok (some e)
  := by
  rw [← List.forall₂_eq_eq_eq, List.forall₂_map_left_iff, List.forall₂_map_right_iff]
  apply exampleIn_of_loadExamples hlanguage h

/-- Examples are loaded in the order of their names. -/
theorem pairwise_name_lt (h : (loadExamples c).Yields t es t₁) :
  es.Pairwise fun e e' => e.name < e'.name
  := by
  rw [← List.pairwise_map]
  apply List.Pairwise.sublist (names_of_loadExamples h)
  apply pairwise_baseName_exampleDirs

theorem map_ok_some_injective {ε : Type} :
  Function.Injective (List.map fun e : Example => (.ok (some e) : Except ε (Option Example)))
  := by
  apply List.map_injective_iff.mpr
  intro e e' heq
  cases heq
  rfl

section Loaded

variable (hlanguage : c.site.language ∈ Language.all) (hload : (loadExamples c).Yields t es t₁)
  (hload' : (loadExamples c).Yields t' es' t₁')

include hlanguage hload hload'

/-- If the trees differ beside the examples only, the same ones are loaded. -/
theorem eq_of_beside (h : DifferBeside c [] t t') :
  es' = es
  := by
  have hbase := (loadExamples_yields_iff.mp hload).1
  have hbase' := (loadExamples_yields_iff.mp hload').1
  have hdirs : sourceDirs c t' = sourceDirs c t := by
    simpa using filter_sourceDirs_of_beside h hlanguage hbase hbase'
  apply map_ok_some_injective
  rw [← map_exampleIn_sourceDirs hlanguage hload, ← map_exampleIn_sourceDirs hlanguage hload',
    hdirs]
  apply List.map_congr_left
  intro dir hdir
  apply exampleIn_of_beside h hlanguage hbase hbase' hdir List.not_mem_nil

/-- If there is one more example in the second tree, the same ones are loaded and it among them. -/
theorem eq_insert_of_beside (hnew : dir ∉ sourceDirs c t) (hdir : dir ∈ sourceDirs c t')
    (h : DifferBeside c [dir] t t') :
  ∃ before e after, es = before ++ after ∧ es' = before ++ e :: after
    ∧ e.name = Path.baseName dir
  := by
  have hbase := (loadExamples_yields_iff.mp hload).1
  have hbase' := (loadExamples_yields_iff.mp hload').1
  obtain ⟨front, back, hdirs', hdirs⟩ :=
    sourceDirs_insert_of_beside h hlanguage hbase hbase' hnew hdir
  have hes := map_exampleIn_sourceDirs hlanguage hload
  have hes' := map_exampleIn_sourceDirs hlanguage hload'
  rw [hdirs', List.map_append, List.map_cons] at hes'
  obtain ⟨before, rest, rfl, hbefore, hrest⟩ := List.map_eq_append_iff.mp hes'.symm
  obtain ⟨e, after, rfl, he, hafter⟩ := List.map_eq_cons_iff.mp hrest
  use before, e, after
  constructor
  · apply map_ok_some_injective
    rw [← hes, List.map_append, hbefore, hafter, ← List.map_append, hdirs]
    apply List.map_congr_left
    intro d hd
    rw [← hdirs] at hd
    apply (exampleIn_of_beside h hlanguage hbase hbase' hd _).symm
    rw [List.mem_singleton]
    rintro rfl
    apply hnew hd
  · use rfl
    apply name_of_exampleIn he.symm

end Loaded

/-! ### The files -/

/-- A build of a site writes the files of some examples, and besides only the stylesheet. -/
def Writes (c : Config) (t : Tree) (es : List Example) : Prop :=
  ∃ t₁ t₂, (loadExamples c).Yields t es t₁ ∧ (writeFiles (outputFiles c es)).Yields t₁ () t₂
    ∧ (copyStylesheet c).Yields t₂ () ((build c).run t).tree

/-- What a build writes changes only with the examples.  If two trees differ beside them, the same
files are written from both.  If the second tree has one more example, then it takes its place among
the others by its name: all other pages are the same, except that those before it and behind it are
linked to it, and so is the index. -/
theorem build_local {c : Config} {t t' : Tree} {s s' : Summary}
    (hlanguage : c.site.language ∈ Language.all) (hbuild : ((build c).run t).result = .ok s)
    (hbuild' : ((build c).run t').result = .ok s') :
  (DifferBeside c [] t t' → ∃ es, Writes c t es ∧ Writes c t' es)
    ∧ ∀ dir, dir ∉ sourceDirs c t → dir ∈ sourceDirs c t' → DifferBeside c [dir] t t' →
      ∃ before e after, Writes c t (before ++ after) ∧ Writes c t' (before ++ e :: after)
        ∧ e.name = Path.baseName dir
        ∧ (∀ other ∈ before, other.name < e.name) ∧ (∀ other ∈ after, e.name < other.name)
        ∧ (indexOf c.site c.format (before ++ after)).links
          = before.map (linkTo c.format) ++ after.map (linkTo c.format)
        ∧ (indexOf c.site c.format (before ++ e :: after)).links
          = before.map (linkTo c.format) ++ linkTo c.format e :: after.map (linkTo c.format)
        ∧ ∃ (front : List ExamplePage) (last : Option ExamplePage) (page : ExamplePage)
          (first : Option ExamplePage) (back : List ExamplePage),
          pagesOf c.site c.format (before ++ after)
            = (front ++ last.toList) ++ (first.toList ++ back)
          ∧ pagesOf c.site c.format (before ++ e :: after)
            = (front ++ (last.map (·.withNext (some (linkTo c.format e)))).toList)
              ++ page :: ((first.map (·.withPrev (some (linkTo c.format e)))).toList ++ back)
          ∧ (front ++ last.toList).map (·.content) = before ∧ page.content = e
          ∧ (first.toList ++ back).map (·.content) = after
          ∧ (∀ p ∈ last, c.format.SameButNext p (p.withNext (some (linkTo c.format e))))
          ∧ ∀ p ∈ first, c.format.SameButPrev p (p.withPrev (some (linkTo c.format e)))
  := by
  obtain ⟨es, t₁, t₂, hload, hwrite, hcopy, -⟩ :=
    build_yields_iff.mp (Action.yields_of_result hbuild)
  obtain ⟨es', t₁', t₂', hload', hwrite', hcopy', -⟩ :=
    build_yields_iff.mp (Action.yields_of_result hbuild')
  constructor
  · intro h
    obtain rfl := eq_of_beside hlanguage hload hload' h
    exact ⟨es', ⟨t₁, t₂, hload, hwrite, hcopy⟩, ⟨t₁', t₂', hload', hwrite', hcopy'⟩⟩
  · intro dir hnew hdir h
    obtain ⟨before, e, after, rfl, rfl, hname⟩ :=
      eq_insert_of_beside hlanguage hload hload' hnew hdir h
    obtain ⟨-, hafter, hbefore⟩ := List.pairwise_append.mp (pairwise_name_lt hload')
    obtain ⟨front, last, page, first, back, hpages, hinsert, hcontents⟩ :=
      exists_pagesOf_insert c.site c.format before e after
    use before, e, after, ⟨t₁, t₂, hload, hwrite, hcopy⟩, ⟨t₁', t₂', hload', hwrite', hcopy'⟩, hname
    constructor
    · intro other hother
      apply hbefore other hother e List.mem_cons_self
    constructor
    · apply (List.pairwise_cons.mp hafter).1
    constructor
    · rw [indexOf, List.map_append]
    constructor
    · rw [indexOf, List.map_append, List.map_cons]
    use front, last, page, first, back, hpages, hinsert, hcontents.1, hcontents.2.1, hcontents.2.2
    constructor
    · intro p _
      apply Format.sameButNext_withNext
    · intro p _
      apply Format.sameButPrev_withPrev

/-! ### A file more in the gallery of three directories -/

/-- A tree with one more file differs from the tree beside all examples but those of which it is a
file. -/
theorem differBeside_set {loc : Location} {content : ByteArray}
    (hdir : t.lookup loc.dropLast = some .dir) (hloc : t.lookup loc ≠ some .dir)
    (hmem : ∀ dir, IsFileOf c t dir loc ∨ IsFileOf c (t.set loc (.file content)) dir loc →
      dir ∈ dirs) :
  DifferBeside c dirs t (t.set loc (.file content))
  := by
  constructor
  · rfl
  · intro other dir hne hfile
    rw [Tree.lookup_set _ hdir hloc] at hne
    obtain rfl : other = loc := by
      by_contra hother
      rw [if_neg hother] at hne
      apply hne rfl
    apply hmem dir hfile

/-- The location of a file in the directory without a source file. -/
def inThird (name : String) : Location :=
  ["tour", "c", name].filterMap Name.ofString?

/-- The three directories with a file more, which belongs to no example. -/
def threeDirsWithNotes : Tree :=
  threeDirs.set (inThird "notes") (.file "-".toUTF8)

/-- The three directories with a file more, which makes an example of the directory between the
others. -/
def threeDirsWithSource : Tree :=
  threeDirs.set (inThird "c.sh") (.file "mv".toUTF8)

theorem sourceDirs_of_three {sources : List String}
    (hnames : (dirNames t "tour").filter (isSelected []) = ["b", "c", "d"])
    (hsources : ["tour/b", "tour/c", "tour/d"].filter (hasSource t .shell) = sources) :
  sourceDirs (threeDirsSite "out" none) t = sources
  := by
  rw [← hsources, ← exampleDirs_of_three hnames]
  rfl

theorem sourceDirs_threeDirs :
  sourceDirs (threeDirsSite "out" none) threeDirs = ["tour/b", "tour/d"]
  := sourceDirs_of_three (by decide +kernel) (by decide +kernel)

theorem sourceDirs_threeDirsWithNotes :
  sourceDirs (threeDirsSite "out" none) threeDirsWithNotes = ["tour/b", "tour/d"]
  := sourceDirs_of_three (by decide +kernel) (by decide +kernel)

theorem sourceDirs_threeDirsWithSource :
  sourceDirs (threeDirsSite "out" none) threeDirsWithSource = ["tour/b", "tour/c", "tour/d"]
  := sourceDirs_of_three (by decide +kernel) (by decide +kernel)

/-- The file belongs to one of the directories if it belongs to none of the others. -/
theorem mem_of_isFileOf {loc : Location} {sources : List String}
    (hsources : sourceDirs c t = sources)
    (hall : ∀ d ∈ sources, ∀ extension ∈ [c.site.language.extension, "sh"],
      (t.locate (exampleFile d extension)).toOption = some loc → d ∈ dirs)
    (h : IsFileOf c t dir loc) :
  dir ∈ dirs
  := by
  obtain ⟨hdir, extension, hextension, hlocate⟩ := h
  rw [hsources] at hdir
  apply hall dir hdir extension hextension
  rw [hlocate]
  rfl

theorem differBeside_notes :
  DifferBeside (threeDirsSite "out" none) [] threeDirs threeDirsWithNotes
  := by
  apply differBeside_set
  · decide +kernel
  · decide +kernel
  · rintro dir (hfile | hfile)
    · apply mem_of_isFileOf sourceDirs_threeDirs _ hfile
      decide +kernel
    · apply mem_of_isFileOf sourceDirs_threeDirsWithNotes _ hfile
      decide +kernel

theorem differBeside_source :
  DifferBeside (threeDirsSite "out" none) ["tour/c"] threeDirs threeDirsWithSource
  := by
  apply differBeside_set
  · decide +kernel
  · decide +kernel
  · rintro dir (hfile | hfile)
    · apply mem_of_isFileOf sourceDirs_threeDirs _ hfile
      decide +kernel
    · apply mem_of_isFileOf sourceDirs_threeDirsWithSource _ hfile
      decide +kernel

theorem build_local_threeDirs :
  (∃ es, Writes (threeDirsSite "out" none) threeDirs es
    ∧ Writes (threeDirsSite "out" none) threeDirsWithNotes es)
    ∧ ∃ before e after, Writes (threeDirsSite "out" none) threeDirs (before ++ after)
      ∧ Writes (threeDirsSite "out" none) threeDirsWithSource (before ++ e :: after)
      ∧ e.name = "c"
  := by
  have hbuild : ((build (threeDirsSite "out" none)).run threeDirs).result = .ok ⟨2, 1⟩ := by
    apply eq_ok_of_toOption
    rw [build, threeDirsSite, Action.run_bind_ok (discover_of_three _ _)]
    all_goals decide +kernel
  have hnotes : ((build (threeDirsSite "out" none)).run threeDirsWithNotes).result
      = .ok ⟨2, 1⟩ := by
    apply eq_ok_of_toOption
    rw [build, threeDirsSite, Action.run_bind_ok (discover_of_three _ _)]
    all_goals decide +kernel
  have hsource : ((build (threeDirsSite "out" none)).run threeDirsWithSource).result
      = .ok ⟨3, 0⟩ := by
    apply eq_ok_of_toOption
    rw [build, threeDirsSite, Action.run_bind_ok (discover_of_three _ _)]
    all_goals decide +kernel
  constructor
  · apply (build_local (by decide) hbuild hnotes).1 differBeside_notes
  · obtain ⟨before, e, after, hwrites, hwrites', hname, -⟩ :=
      (build_local (by decide) hbuild hsource).2 "tour/c" (by rw [sourceDirs_threeDirs]; decide)
        (by rw [sourceDirs_threeDirsWithSource]; decide) differBeside_source
    use before, e, after, hwrites, hwrites'
    rw [hname]
    decide +kernel

end Gallery

import Gallery.Proofs.Files.MakeDirs

/-!
# Changes that are confined to some paths

A tree can be changed at some paths only, where files are put, and on the way along one path, where
directories are made (`Confined`).  Every change of this kind can follow another one
(`Confined.puts`), and a file to which none of the paths leads is read as before
(`Confined.read`).
-/

namespace Gallery.Files.Tree

variable {t t' t₁ : Tree} {loc : Location} {path dir : String} {paths : List String}
  {content : ByteArray}

/-- The second tree is the first one but for files at some paths, and for directories on the way
along a path where nothing was. -/
structure Confined (t : Tree) (paths : List String) (dir : String) (t' : Tree) : Prop where
  keepsDirs : KeepsDirs t t'
  lookup : ∀ loc, t'.lookup loc = t.lookup loc
    ∨ (∃ path ∈ paths, t'.locate path = .ok loc ∧ ∃ content, t'.lookup loc = some (.file content))
    ∨ t.lookup loc = none ∧ t'.lookup loc = some .dir ∧ OnWay t' dir loc

/-- Making directories is confined to the way along their path. -/
theorem NewDirs.confined (h : NewDirs t dir t') (paths : List String) :
  Confined t paths dir t'
  := by
  constructor
  · apply h.keepsDirs
  · intro loc
    obtain hsame | hnew := h.lookup loc
    · left
      apply hsame
    · right
      right
      apply hnew

namespace Confined

/-- One more file is put at one of the paths. -/
theorem puts (h : Confined t paths dir t₁) (hpath : path ∈ paths)
    (hlocate : t₁.locate path = .ok loc) (hputs : Puts t₁ loc content t') :
  Confined t paths dir t'
  := by
  have hsame := hputs.sameDirs
  constructor
  · apply h.keepsDirs.trans hsame.keepsDirs
  · intro other
    by_cases heq : other = loc
    · subst heq
      right
      left
      use path, hpath, hsame.locate_eq_ok.mpr hlocate, content
      rw [hputs.lookup, if_pos rfl]
    · rw [hputs.lookup, if_neg heq]
      obtain hother | ⟨path', hpath', hlocate', hfile⟩ | ⟨hnone, hdir, hway⟩ := h.lookup other
      · left
        apply hother
      · right
        left
        exact ⟨path', hpath', hsame.locate_eq_ok.mpr hlocate', hfile⟩
      · right
        right
        exact ⟨hnone, hdir, hsame.keepsDirs.onWay hway⟩

/-- At a location to which none of the paths leads, there is the same file as before, or none. -/
theorem lookup_file (h : Confined t paths dir t')
    (hpaths : ∀ path ∈ paths, t'.locate path ≠ .ok loc) :
  t'.lookup loc = some (.file content) ↔ t.lookup loc = some (.file content)
  := by
  obtain hsame | ⟨path, hpath, hlocate, -⟩ | ⟨hnone, hdir, -⟩ := h.lookup loc
  · rw [hsame]
  · cases hpaths path hpath hlocate
  · simp [hnone, hdir]

/-- A file is read as before if none of the paths leads to it. -/
theorem read (h : Confined t paths dir t') (hread : t.read path = .ok content)
    (hpaths : ∀ loc, t'.locate path = .ok loc → ∀ other ∈ paths, t'.locate other ≠ .ok loc) :
  t'.read path = .ok content
  := by
  obtain ⟨loc, hlocate, hlookup⟩ := read_eq_ok.mp hread
  have hlocate' := h.keepsDirs.locate hlocate
  rw [read_eq_ok]
  use loc, hlocate'
  rw [h.lookup_file (hpaths loc hlocate'), hlookup]

end Confined

end Gallery.Files.Tree

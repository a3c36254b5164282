import Gallery.Files.Tree.Change
import Gallery.Proofs.Files.Walk

/-!
# Files that are put in place

Writing and copying put a file at the location to which a path leads and leave everything else
as it was.  So the file can be read there, and files that were put in the same directory under
other names can still be read.
-/

namespace Gallery.Files.Tree

variable {t t' : Tree} {loc : Location} {path : String} {content : ByteArray}

/-- The second tree is the first one with a file at a location, in the place of none or of a
file. -/
structure Puts (t : Tree) (loc : Location) (content : ByteArray) (t' : Tree) : Prop where
  here : t'.here = t.here
  notDir : t.lookup loc ≠ some .dir
  lookup : ∀ other, t'.lookup other = if other = loc then some (.file content) else t.lookup other

theorem target_eq_ok :
  t.target path = .ok loc ↔ t.locate path = .ok loc ∧ t.lookup loc ≠ some .dir
  := by
  rw [target, bind_eq_ok]
  constructor
  · rintro ⟨found, hlocate, h⟩
    split at h
    · cases h
    · cases h
      exact ⟨hlocate, ‹_›⟩
  · rintro ⟨hlocate, hne⟩
    use loc, hlocate
    split
    · contradiction
    · rfl

theorem write_eq_ok :
  t.write path content = .ok t'
    ↔ ∃ loc, t.target path = .ok loc ∧ t' = t.set loc (.file content)
  := by
  rw [write, bind_eq_ok]
  simp [eq_comm]

/-- A file that is copied to itself is emptied. -/
theorem copy_eq_ok {source : String} :
  t.copy source path = .ok t'
    ↔ ∃ loc out content, t.locate source = .ok loc ∧ t.lookup loc = some (.file content)
      ∧ t.target path = .ok out
      ∧ t' = t.set out (.file (if out = loc then .empty else content))
  := by
  rw [copy, bind_eq_ok]
  constructor
  · rintro ⟨loc, hlocate, h⟩
    split at h
    · cases h
    · cases h
    · rename_i content hlookup
      obtain ⟨out, htarget, hset⟩ := bind_eq_ok.mp h
      cases hset
      exact ⟨loc, out, content, hlocate, hlookup, htarget, rfl⟩
  · rintro ⟨loc, out, content, hlocate, hlookup, htarget, rfl⟩
    use loc, hlocate
    rw [hlookup, htarget]
    rfl

theorem puts_set (h : t.target path = .ok loc) (content : ByteArray) :
  Puts t loc content (t.set loc (.file content))
  := by
  obtain ⟨hlocate, hne⟩ := target_eq_ok.mp h
  constructor
  · rfl
  · apply hne
  · apply lookup_set _ (lookup_dropLast_of_locate hlocate) hne

/-- Writing puts the content in place. -/
theorem puts_of_write (h : t.write path content = .ok t') :
  ∃ loc, t.locate path = .ok loc ∧ Puts t loc content t'
  := by
  obtain ⟨loc, htarget, rfl⟩ := write_eq_ok.mp h
  use loc, (target_eq_ok.mp htarget).1
  apply puts_set htarget

/-- Copying puts some content in place. -/
theorem puts_of_copy {source : String} (h : t.copy source path = .ok t') :
  ∃ loc content, t.locate path = .ok loc ∧ Puts t loc content t'
  := by
  obtain ⟨_, loc, _, -, -, htarget, rfl⟩ := copy_eq_ok.mp h
  exact ⟨loc, _, (target_eq_ok.mp htarget).1, puts_set htarget _⟩

theorem read_eq_ok :
  t.read path = .ok content ↔ ∃ loc, t.locate path = .ok loc ∧ t.lookup loc = some (.file content)
  := by
  rw [read, bind_eq_ok]
  constructor
  · rintro ⟨loc, hlocate, h⟩
    split at h
    · cases h
      exact ⟨loc, hlocate, ‹_›⟩
    · cases h
    · cases h
  · rintro ⟨loc, hlocate, hlookup⟩
    use loc, hlocate
    rw [hlookup]

/-- What can be read is a file. -/
theorem isFile_of_read (h : t.read path = .ok content) :
  t.isFile path = true
  := by
  obtain ⟨loc, hlocate, hlookup⟩ := read_eq_ok.mp h
  simp [isFile, find?, hlocate, hlookup]

namespace Puts

theorem sameDirs (h : Puts t loc content t') :
  SameDirs t t'
  := by
  constructor
  · apply h.here
  · intro other
    rw [h.lookup]
    by_cases heq : other = loc
    · subst heq
      simp [h.notDir]
    · rw [if_neg heq]

/-- A file that has been put in place is read there. -/
theorem read_self (h : Puts t loc content t') (hlocate : t.locate path = .ok loc) :
  t'.read path = .ok content
  := by
  rw [read_eq_ok]
  use loc, h.sameDirs.locate_eq_ok.mpr hlocate
  rw [h.lookup, if_pos rfl]

/-- A file is read as before when another one has been put in place. -/
theorem read_other (h : Puts t loc content t') {old : ByteArray} (hread : t.read path = .ok old)
    (hne : t.locate path ≠ .ok loc) :
  t'.read path = .ok old
  := by
  obtain ⟨other, hlocate, hlookup⟩ := read_eq_ok.mp hread
  rw [read_eq_ok]
  use other, h.sameDirs.locate_eq_ok.mpr hlocate
  rw [h.lookup, if_neg]
  · apply hlookup
  · rintro rfl
    apply hne hlocate

end Puts

/-- A copy holds what the file held from which it is made, unless it is this file. -/
theorem read_of_copy {source path : String} (h : t.copy source path = .ok t') :
  ∃ loc out content, t'.locate source = .ok loc ∧ t.lookup loc = some (.file content)
    ∧ t'.locate path = .ok out ∧ SameDirs t t'
    ∧ t'.read path = .ok (if out = loc then .empty else content)
  := by
  obtain ⟨loc, out, content, hsource, hfile, htarget, rfl⟩ := copy_eq_ok.mp h
  have hputs := puts_set htarget (if out = loc then .empty else content)
  have hsame := hputs.sameDirs
  obtain ⟨hpath, -⟩ := target_eq_ok.mp htarget
  use loc, out, content, hsame.locate_eq_ok.mpr hsource, hfile, hsame.locate_eq_ok.mpr hpath, hsame
  apply hputs.read_self hpath

/-- Paths to different plain names lead to different locations, whatever directories they are in. -/
theorem locate_join_ne {base base' m n : String} (hm : Path.IsPlain m) (hn : Path.IsPlain n)
    (hne : m ≠ n) (hlocate : t.locate (Path.join base m) = .ok loc) :
  t.locate (Path.join base' n) ≠ .ok loc
  := by
  intro hlocate'
  obtain ⟨dir, name, rfl, rfl⟩ := exists_locate_join hm hlocate
  obtain ⟨dir', name', heq, rfl⟩ := exists_locate_join hn hlocate'
  obtain ⟨-, rfl⟩ := List.append_inj' heq rfl |>.imp_right List.singleton_inj.mp
  apply hne rfl

end Gallery.Files.Tree

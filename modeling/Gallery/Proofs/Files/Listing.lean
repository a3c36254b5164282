import Gallery.Proofs.Files.Growth

/-!
# Listing directories

A directory lists the names under which something is found in it (`mem_namesAt`).  So a name by
which a path leads to a directory within another one is listed there (`mem_list_of_isDir`).
-/

namespace Gallery.Files

namespace Entries

variable {es es' : Entries} {loc : Location} {name : Name}

theorem child?_eq_none :
  es.child? name = none ↔ name ∉ es.map (·.1)
  := by
  induction es with
  | nil => simp [child?]
  | cons e es ih =>
    obtain ⟨other, node⟩ := e
    by_cases h : name = other
    · simp [child?, h]
    · simp [child?, h, ih]

/-- What is below a directory is found from there. -/
theorem lookup_append (h : es.nodeAt? loc = some (.dir es')) (names : Location) :
  es.lookup (loc ++ names) = lookup es' names
  := by
  induction loc generalizing es with
  | nil =>
    cases h
    rfl
  | cons first loc ih =>
    rw [nodeAt?] at h
    rw [List.cons_append, lookup_cons]
    rcases hc : es.child? first with _ | content | es₁
    · simp [hc] at h
    · simp only [hc] at h
      split at h <;> cases h
    · simp only [hc] at h
      apply ih h

theorem nodeAt?_of_lookup (h : es.lookup loc = some .dir) :
  ∃ es', es.nodeAt? loc = some (.dir es')
  := by
  obtain ⟨node, hnode, hentry⟩ := Option.map_eq_some_iff.mp h
  rcases node with content | es'
  · cases hentry
  · use es'

/-- A directory lists the names under which something is found. -/
theorem mem_namesAt (hdir : es.lookup loc = some .dir) :
  name ∈ es.namesAt loc ↔ es.lookup (loc ++ [name]) ≠ none
  := by
  obtain ⟨es', hnode⟩ := nodeAt?_of_lookup hdir
  have hchild : lookup es' [name] = none ↔ child? name es' = none := by
    rw [lookup_cons]
    rcases child? name es' with _ | content | es'' <;> simp [lookup_nil]
  rw [namesAt, hnode, List.mem_eraseDups, lookup_append hnode, Ne, hchild, child?_eq_none, not_not]

end Entries

namespace Tree

variable {t t' : Tree} {loc : Location} {path base s : String}

/-- A name by which a path leads to a directory within another one is listed there. -/
theorem mem_list_of_isDir (hbase : base ≠ "") (hs : Path.IsPlain s)
    (h : t.isDir (Path.join base s) = true) :
  ∃ name ∈ t.list base, name.text = s
  := by
  obtain ⟨loc, hlocate, hdir⟩ := isDir_eq_true.mp h
  obtain ⟨-, parent, name, hparent, hlookup, hname, rfl⟩ := (locate_join_eq_ok hbase hs).mp hlocate
  have hmem : name ∈ t.root.namesAt parent := by
    rw [Entries.mem_namesAt hlookup]
    apply ne_of_eq_of_ne hdir
    simp
  use name
  rw [list, hparent]
  exact ⟨hmem, text_of_ofString? hname⟩

/-- If a file that lies two levels below a directory is in the other tree too, so is the directory
between them. -/
theorem isDir_of_lookup_file (hhere : t'.here = t.here) (hpath : t.isDir path = true)
    (hpath' : t'.isDir path = true) (hbase : Path.IsPlain base) (hs : Path.IsPlain s)
    (hfile : ∀ loc content, t'.locate (Path.join (Path.join path base) s) = .ok loc →
      t'.lookup loc = some (.file content) → t.lookup loc = some (.file content))
    (hread : t'.isFile (Path.join (Path.join path base) s) = true) :
  t.isDir (Path.join path base) = true
  := by
  obtain ⟨content, hread⟩ := isFile_eq_true.mp hread
  obtain ⟨loc, hlocate, hlookup⟩ := read_eq_ok.mp hread
  have hold := hfile loc content hlocate hlookup
  have hne : Path.join path base ≠ "" := by
    obtain ⟨sep, hjoin⟩ := exists_join_eq path base
    simp [hjoin, ne_empty_of_isDir hpath]
  obtain ⟨-, dir, name, hdir, -, -, rfl⟩ := (locate_join_eq_ok hne hs).mp hlocate
  rw [isDir_eq_true]
  use dir, (locate_join_iff hhere hpath hpath' hbase).mp hdir
  have hfound : t.lookup (dir ++ [name]) ≠ none := by
    simp [hold]
  simpa using lookup_dropLast hfound

end Tree

end Gallery.Files

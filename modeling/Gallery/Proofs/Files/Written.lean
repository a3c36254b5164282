import Gallery.Proofs.Files.Put

/-!
# Files that are written one after another

When texts have been written one after another, each location to which the path of one leads holds
the last of those, and all other locations hold what they held before (`Written`).
-/

namespace Gallery.Files.Tree

variable {t t' t₁ : Tree} {loc : Location} {path text : String} {files : List (String × String)}

/-- The path leads to the location. -/
def leadsTo (t : Tree) (path : String) (loc : Location) : Bool :=
  match t.locate path with
  | .ok found => found = loc
  | .error _ => false

/-- The last of some texts whose paths lead to a location. -/
def lastText? (t : Tree) (files : List (String × String)) (loc : Location) : Option String :=
  (files.filter fun file => t.leadsTo file.1 loc).getLast?.map (·.2)

/-- The second tree is the first one with some texts at the locations to which their paths lead,
the last one where there are several. -/
structure Written (t : Tree) (files : List (String × String)) (t' : Tree) : Prop where
  sameDirs : SameDirs t t'
  located : ∀ file ∈ files, ∃ loc, t.locate file.1 = .ok loc
  lookup : ∀ loc, t'.lookup loc
    = ((t.lastText? files loc).map fun text => .file text.toUTF8).or (t.lookup loc)

theorem leadsTo_eq_true :
  t.leadsTo path loc = true ↔ t.locate path = .ok loc
  := by
  rw [leadsTo]
  rcases t.locate path with e | found <;> simp

theorem SameDirs.lastText? (h : SameDirs t t') (files : List (String × String)) (loc : Location) :
  t'.lastText? files loc = t.lastText? files loc
  := by
  have hleads : ∀ path, t'.leadsTo path loc = t.leadsTo path loc := by
    intro path
    rw [Bool.eq_iff_iff, leadsTo_eq_true, leadsTo_eq_true, h.locate_eq_ok]
  simp only [Tree.lastText?, hleads]

theorem lastText?_cons (path text : String) (files : List (String × String)) (loc : Location) :
  t.lastText? ((path, text) :: files) loc
    = (t.lastText? files loc).or (if t.leadsTo path loc then some text else none)
  := by
  rw [lastText?, List.filter_cons, lastText?]
  generalize files.filter (fun file => t.leadsTo file.1 loc) = later
  by_cases h : t.leadsTo path loc
  · simp only [h, if_true, List.getLast?_cons]
    rcases later.getLast? with _ | file <;> rfl
  · simp [h]

namespace Written

theorem nil (t : Tree) :
  Written t [] t
  := by
  constructor
  · apply SameDirs.refl
  · simp
  · intro loc
    rfl

/-- Writing one text and then others. -/
theorem cons (hlocate : t.locate path = .ok loc) (hputs : Puts t loc text.toUTF8 t₁)
    (h : Written t₁ files t') :
  Written t ((path, text) :: files) t'
  := by
  have hsame := hputs.sameDirs
  constructor
  · apply hsame.trans h.sameDirs
  · rw [List.forall_mem_cons]
    constructor
    · use loc
    · intro file hfile
      obtain ⟨other, hother⟩ := h.located file hfile
      use other, hsame.locate_eq_ok.mp hother
  · intro other
    rw [h.lookup, hputs.lookup, hsame.lastText?, lastText?_cons]
    -- Only where no later text goes to the location does the first one count.
    rcases t.lastText? files other with _ | later
    · by_cases heq : other = loc
      · subst heq
        simp [leadsTo_eq_true.mpr hlocate]
      · have hleads : t.leadsTo path other = false := by
          rw [Bool.eq_false_iff, Ne, leadsTo_eq_true, hlocate]
          intro h
          cases h
          apply heq rfl
        simp [heq, hleads]
    · rfl

/-- A file holds the last text that was written to it, or what it held before. -/
theorem lookup_file {content : ByteArray} (h : Written t files t')
    (hfile : t.lookup loc = some (.file content)) :
  t'.lookup loc = some (.file (((t'.lastText? files loc).map String.toUTF8).getD content))
  := by
  rw [h.lookup, h.sameDirs.lastText?, hfile]
  rcases t.lastText? files loc with _ | text <;> rfl

end Written

end Gallery.Files.Tree

import Gallery.Files.Path
import Gallery.Proofs.Text.Lines

/-!
# Paths within a directory

A path that is joined from a directory and a plain name has the steps of the directory, except
perhaps a last one that is empty, and then the name.  So the name of the path is the name that
was joined to it.
-/

namespace Gallery.Files.Path

/-- A text that is one step of a path and leads into a directory.  Other than a file name it can
be too long. -/
structure IsPlain (s : String) : Prop where
  noSlash : '/' ∉ s.toList
  leads : staysPut s = false
  notUp : s ≠ ".."

instance (s : String) : Decidable (IsPlain s) :=
  decidable_of_iff ('/' ∉ s.toList ∧ staysPut s = false ∧ s ≠ "..")
    ⟨fun ⟨hslash, hleads, hup⟩ => ⟨hslash, hleads, hup⟩, fun h => ⟨h.noSlash, h.leads, h.notUp⟩⟩

theorem isPlain_text (n : Name) :
  IsPlain n.text
  := by
  have h := n.isFileName_text
  simp only [isFileName, Bool.and_eq_true, decide_eq_true_eq, Bool.not_eq_true',
    List.contains_eq_mem, decide_eq_false_iff_not] at h
  obtain ⟨⟨⟨⟨⟨hne, hdot⟩, hup⟩, hslash⟩, -⟩, -⟩ := h
  constructor
  · apply hslash
  · simp [staysPut, hne, hdot]
  · apply hup

theorem steps_eq_singleton {s : String} (h : '/' ∉ s.toList) :
  steps s = [s]
  := Text.splitOn_of_not_mem h

theorem steps_append_slash (s t : String) :
  steps (s ++ "/" ++ t) = steps s ++ steps t
  := Text.splitOn_append '/' s t

theorem eq_append_of_getLast?_eq_slash {s : String} (h : s.toList.getLast? = some '/') :
  ∃ t, s = t ++ "/"
  := by
  obtain ⟨cs, hcs⟩ := List.getLast?_eq_some_iff.mp h
  use String.ofList cs
  apply String.ext
  rw [hcs]
  simp

/-- Joining a name adds it as a step, in the place of an empty last one. -/
theorem exists_steps_join (base : String) {s : String} (hs : IsPlain s) :
  ∃ ss, steps (join base s) = ss ++ [s] ∧ (steps base = ss ∨ steps base = ss ++ [""])
  := by
  by_cases hempty : base = ""
  · subst hempty
    use []
    constructor
    · simp [join, steps_eq_singleton hs.noSlash]
    · right
      rfl
  · by_cases hlast : base.toList.getLast? = some '/'
    · obtain ⟨t, rfl⟩ := eq_append_of_getLast?_eq_slash hlast
      use steps t
      constructor
      · have hjoin : join (t ++ "/") s = t ++ "/" ++ s := by
          simp [join]
        rw [hjoin, steps_append_slash, steps_eq_singleton hs.noSlash]
      · right
        rw [← String.append_empty (s := t ++ "/"), steps_append_slash]
        rfl
    · use steps base
      constructor
      · have hjoin : join base s = base ++ "/" ++ s := by
          simp [join, hempty, hlast]
        rw [hjoin, steps_append_slash, steps_eq_singleton hs.noSlash]
      · left
        rfl

theorem names_join (base : String) {s : String} (hs : IsPlain s) :
  names (join base s) = names base ++ [s]
  := by
  obtain ⟨ss, hjoin, hbase | hbase⟩ := exists_steps_join base hs
  · simp [names, hjoin, hbase, hs.leads]
  · have hempty : staysPut "" = true := rfl
    simp [names, hjoin, hbase, hs.leads, hempty]

/-- What lies in a directory under some name has that name. -/
theorem baseName_join (base : String) {s : String} (hs : IsPlain s) :
  baseName (join base s) = s
  := by
  rw [baseName, fileName?, names_join base hs]
  simp [Option.filter, hs.notUp]

end Gallery.Files.Path

import Gallery.Proofs.Text.Percent
import Gallery.Text.Basic
import Gallery.Text.Entity

/-!
# The markup of a text

`markup s` are the characters of `s` that delimit tags and attribute values, in order.  A text that
is written with entities has none of them, and neither has a link segment (`markup_entity`,
`markup_percent`); in a quoted literal there are those of its text.
-/

namespace Gallery.Text

/-- A character that delimits tags or attribute values. -/
def isMarkup (c : Char) : Bool :=
  c = '<' || c = '>' || c = '"'

/-- The text without all characters but those that delimit tags and attribute values. -/
def markup (s : String) : String :=
  String.ofList (s.toList.filter isMarkup)

@[simp]
theorem toList_markup (s : String) :
  (markup s).toList = s.toList.filter isMarkup
  := String.toList_ofList

@[simp]
theorem markup_empty :
  markup "" = ""
  := rfl

@[simp]
theorem markup_append (s t : String) :
  markup (s ++ t) = markup s ++ markup t
  := by
  rw [← String.toList_inj]
  simp

theorem markup_eq_empty {s : String} (h : ∀ c ∈ s.toList, isMarkup c = false) :
  markup s = ""
  := by
  rw [← String.toList_inj, toList_markup, String.toList_empty, List.filter_eq_nil_iff]
  intro c hc
  simp [h c hc]

/-! ### Written forms of texts -/

theorem filter_entity (c : Char) :
  (Entity.encodeChar c).filter isMarkup = []
  := by
  fun_cases Entity.encodeChar c with
  | case1 => decide
  | case2 => decide
  | case3 => decide
  | case4 => decide
  | case5 => decide
  | case6 c _ hless hgreater hquote _ => simp_all [isMarkup]

/-- A text that is written with entities has no markup. -/
@[simp]
theorem markup_entity (s : String) :
  markup (Entity.encode s) = ""
  := by
  rw [← String.toList_inj, toList_markup, Entity.toList_encode, List.filter_flatMap]
  simp [filter_entity]

theorem filter_quoted (c : Char) :
  (Quoted.encodeChar c).filter isMarkup = [c].filter isMarkup
  := by
  fun_cases Quoted.encodeChar c with
  | case1 => decide
  | case2 => decide
  | case3 => rfl

/-- The body of a literal has the markup of its text. -/
@[simp]
theorem markup_quoted (s : String) :
  markup (Quoted.encode s) = markup s
  := by
  rw [← String.toList_inj, toList_markup, toList_markup, Quoted.toList_encode,
    List.filter_flatMap]
  simp only [filter_quoted, ← List.filter_flatMap, List.flatMap_singleton']

theorem isMarkup_of_isPlain {c : Char} (h : Percent.isPlain c = true) :
  isMarkup c = false
  := by
  rw [Bool.eq_false_iff]
  intro hmarkup
  simp only [isMarkup, Bool.or_eq_true, decide_eq_true_eq] at hmarkup
  obtain (rfl | rfl) | rfl := hmarkup
  · exact absurd h (by decide)
  · exact absurd h (by decide)
  · exact absurd h (by decide)

/-- A link segment has no markup. -/
@[simp]
theorem markup_percent (s : String) :
  markup (Percent.encode s) = ""
  := by
  apply markup_eq_empty
  intro c hc
  obtain hplain | rfl := Percent.isPlain_or_eq_percent_of_mem_encode hc
  · apply isMarkup_of_isPlain hplain
  · decide

/-! ### Texts that are put together -/

/-- The markup of lines is that of each line; line feeds are none. -/
theorem markup_endLines (ls : List String) :
  markup (endLines ls) = String.join (ls.map markup)
  := by
  have hbreak : markup "\n" = "" := by
    decide +kernel
  induction ls with
  | nil => rfl
  | cons l ls ih => simp [ih, hbreak, String.join_cons]

theorem markup_intercalate (sep : String) (ss : List String) :
  markup (sep.intercalate ss) = (markup sep).intercalate (ss.map markup)
  := by
  induction ss with
  | nil => rfl
  | cons s ss ih =>
    by_cases hnil : ss = []
    · subst hnil
      simp
    · have hmap : ss.map markup ≠ [] := by
        simpa using hnil
      rw [List.map_cons, String.intercalate_cons_of_ne_nil hnil,
        String.intercalate_cons_of_ne_nil hmap, markup_append, markup_append, ih]

end Gallery.Text

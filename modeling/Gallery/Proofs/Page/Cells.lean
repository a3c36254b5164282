import Gallery.Page.Html
import Gallery.Proofs.Text.Search

/-!
# The cells of a table

A table is read by its marks: the code is what stands between the tags of its cells, and the rows
are what stands between theirs.  If there are no tags in the documentation, then what is read are
the segments that are not blank, in order (`table_shows`): the code of each, character for
character, and whether there is room below it; the button and the leading cell are in the first row
only.  Code is written with entities, so no tag starts in it.
-/

namespace Gallery

open Text Annotated

/-- The segments that are not blank. -/
def Annotated.File.shown (file : File) : List Segment :=
  file.segments.filter fun s => !s.isBlank

namespace Html

/-! ### Rows -/

/-- The class of a row, in quotes. -/
def rowClass (s : Segment) : String :=
  if s.spaced then "\"spaced\"" else "\"\""

/-- The cell of documentation. -/
def docsCell (s : Segment) : String :=
  "\n    <td class=\"docs\">\n      <p>" ++ s.docs ++ "</p>\n    </td>\n"

/-- The tags in front of code. -/
def codeStart (highlightClass : String) : String :=
  "<pre><code class=\"" ++ highlightClass ++ "\">"

/-- The code in its cell, and the end of the cell. -/
def codeContent (highlightClass : String) (s : Segment) : String :=
  "      " ++ (codeStart highlightClass ++ Entity.encode s.code ++ "</code></pre>"
    ++ "\n    </td>\n  ")

/-- The cells of a row. -/
def cells (highlightClass : String) (leading : Bool) (s : Segment) : String :=
  docsCell s ++ (endLines (codeCell leading) ++ codeContent highlightClass s)

/-- What stands between the marks of a row. -/
def insideRow (highlightClass : String) (leading : Bool) (s : Segment) : String :=
  rowClass s ++ ">" ++ cells highlightClass leading s

theorem endLines_row (highlightClass : String) (leading : Bool) (s : Segment) :
  endLines (row highlightClass leading s)
    = "  " ++ ("<tr class=" ++ insideRow highlightClass leading s ++ "</tr>" ++ "\n")
  := by
  have hclass : rowClass s = "\"" ++ (if s.spaced then "spaced" else "") ++ "\"" := by
    rw [rowClass]
    split
    · rfl
    · rfl
  have hdocs : docsCell s = "\n" ++ "    <td class=\"docs\">" ++ "\n" ++ "      <p>" ++ s.docs
      ++ ("</p>" ++ "\n" ++ "    </td>" ++ "\n") := rfl
  have hcontent : codeContent highlightClass s
      = "      " ++ ("<pre><code class=\"" ++ highlightClass ++ ("\"" ++ ">")
        ++ Entity.encode s.code ++ "</code></pre>" ++ ("\n" ++ "    </td>" ++ "\n" ++ "  ")) := rfl
  have hrow : "  <tr class=\"" = "  " ++ ("<tr class=" ++ "\"") := rfl
  have hcode : "      <pre><code class=\"" = "      " ++ "<pre><code class=\"" := rfl
  have hquote : "\">" = "\"" ++ ">" := rfl
  have hend : "  </tr>" = "  " ++ "</tr>" := rfl
  rw [row, insideRow, cells, hclass, hdocs, hcontent, hrow, hcode, hquote, hend]
  simp only [endLines_append, endLines_cons, endLines_nil, String.append_assoc, String.append_empty]

theorem codeStart_eq (highlightClass : String) :
  codeStart highlightClass = "<pre>" ++ ("<code class=\"" ++ highlightClass ++ "\">")
  := by
  have hsplit : "<pre><code class=\"" = "<pre>" ++ "<code class=\"" := rfl
  have hstart : codeStart highlightClass = "<pre><code class=\"" ++ highlightClass ++ "\">" := rfl
  rw [hstart, hsplit]
  simp only [String.append_assoc]

/-! ### Marks in rows -/

/-- The tags of a cell of documentation. -/
def docsTags : List String :=
  ["\n    <td class=\"docs\">\n      <p>", "</p>\n    </td>\n"]

/-- The tags around code. -/
def codeTags : List String :=
  ["<pre><code class=\"", "</code></pre>", "\n    </td>\n  "]

/-- The tags of a table. -/
def tableTags : List String :=
  ["<table>", "</table>"]

/-- The marks of a row. -/
def rowMarks : List String :=
  ["<tr class=", "</tr>"]

/-- What stands in the first row only: the leading cell and the button. -/
def leadingMarks : List String :=
  ["<td class=\"code leading\">", "<button class=\"copy\""]

/-- The marks are tags that are not among those of a table and of the cells of its rows, but for the
leading cell. -/
theorem clear_tags_of_mem :
  ∀ mark ∈ rowMarks ++ leadingMarks, mark.toList.head? = some '<' ∧ IsMark mark
    ∧ (∀ tag ∈ docsTags, Clear mark tag) ∧ (∀ tag ∈ codeTags, Clear mark tag)
    ∧ (∀ line ∈ codeCell false, Clear mark line) ∧ ∀ tag ∈ tableTags, Clear mark tag
  := by
  decide

section

variable {mark highlightClass : String} {leading : Bool} {s : Segment}

theorem clear_rowClass (hmark : mark.toList.head? = some '<') (s : Segment) :
  Clear mark (rowClass s ++ ">")
  := by
  have hless : '<' ∉ (rowClass s).toList := by
    rw [rowClass]
    split
    · decide
    · decide
  have hbracket : Clear mark ">" := clear_of_not_mem hmark (by decide)
  exact (clear_of_not_mem hmark hless).append hbracket

theorem clear_docsCell (hmark : mark.toList.head? = some '<') (hdocs : '<' ∉ s.docs.toList)
    (htags : ∀ tag ∈ docsTags, Clear mark tag) :
  Clear mark (docsCell s)
  := by
  have hstart := htags "\n    <td class=\"docs\">\n      <p>" (by decide)
  have hend := htags "</p>\n    </td>\n" (by decide)
  exact (hstart.append (clear_of_not_mem hmark hdocs)).append hend

theorem clear_codeContent (hmark : mark.toList.head? = some '<')
    (hclass : '<' ∉ highlightClass.toList) (htags : ∀ tag ∈ codeTags, Clear mark tag)
    (s : Segment) :
  Clear mark (codeContent highlightClass s)
  := by
  have hroom : Clear mark "      " := clear_of_not_mem hmark (by decide)
  have htag := htags "<pre><code class=\"" (by decide)
  have hquote : Clear mark "\">" := clear_of_not_mem hmark (by decide)
  have hstart : Clear mark (codeStart highlightClass) :=
    (htag.append (clear_of_not_mem hmark hclass)).append hquote
  have hend := htags "</code></pre>" (by decide)
  have hbelow := htags "\n    </td>\n  " (by decide)
  exact hroom.append (((hstart.append (clear_entity hmark s.code)).append hend).append hbelow)

theorem clear_codeCell (hmark : mark.toList.head? = some '<')
    (h : ∀ line ∈ codeCell leading, Clear mark line) :
  Clear mark (endLines (codeCell leading))
  := clear_endLines (clear_of_not_mem hmark (by decide)) h

theorem clear_tableTags (hmark : mark.toList.head? = some '<')
    (h : ∀ tag ∈ tableTags, Clear mark tag) :
  ∀ tag ∈ tableTags, Clear mark (endLines [tag])
  := by
  intro tag htag
  apply clear_endLines (clear_of_not_mem hmark (by decide))
  simpa using h tag htag

/-- The marks of a row do not occur in its cells. -/
theorem clear_cells (hmark : mark ∈ rowMarks) (hdocs : '<' ∉ s.docs.toList)
    (hclass : '<' ∉ highlightClass.toList) (leading : Bool) :
  Clear mark (cells highlightClass leading s)
  := by
  obtain ⟨hhead, -, hdocsTags, hcodeTags, hcell, -⟩ :=
    clear_tags_of_mem mark (List.mem_append_left _ hmark)
  have hleading : ∀ mark ∈ rowMarks, ∀ line ∈ codeCell true, Clear mark line := by
    decide
  have hline : ∀ line ∈ codeCell leading, Clear mark line := by
    cases leading with
    | false => exact hcell
    | true => exact hleading mark hmark
  exact (clear_docsCell hhead hdocs hdocsTags).append
    ((clear_codeCell hhead hline).append (clear_codeContent hhead hclass hcodeTags s))

end

/-! ### What is read in a row -/

section

variable {highlightClass : String} {s : Segment}

theorem encloses_insideRow (hdocs : '<' ∉ s.docs.toList) (hclass : '<' ∉ highlightClass.toList)
    (leading : Bool) :
  Encloses "<tr class=" "</tr>" (insideRow highlightClass leading s)
    (endLines (row highlightClass leading s))
  := by
  have hclear : ∀ mark ∈ rowMarks, Clear mark (insideRow highlightClass leading s) := by
    intro mark hmark
    obtain ⟨hhead, -⟩ := clear_tags_of_mem mark (List.mem_append_left _ hmark)
    exact (clear_rowClass hhead s).append (clear_cells hmark hdocs hclass leading)
  have hend : Clear "<tr class=" "</tr>" := by
    decide
  constructor
  · use "  ", "\n", endLines_row highlightClass leading s
    exact ⟨by decide, (hclear "<tr class=" (by decide)).append hend, by decide⟩
  · exact hclear "</tr>" (by decide)

/-- The first thing in a row is its class. -/
theorem encloses_rowClass (hdocs : '<' ∉ s.docs.toList) (hclass : '<' ∉ highlightClass.toList)
    (leading : Bool) :
  Encloses "<tr class=" ">" (rowClass s) (endLines (row highlightClass leading s))
  := by
  have hcells : Clear "<tr class=" (cells highlightClass leading s) :=
    clear_cells (by decide) hdocs hclass leading
  constructor
  · use "  ", cells highlightClass leading s ++ "</tr>" ++ "\n"
    constructor
    · rw [endLines_row, insideRow]
      simp only [String.append_assoc]
    · exact ⟨by decide, clear_rowClass rfl s, (hcells.append (by decide)).append (by decide)⟩
  · rw [rowClass]
    split
    · decide
    · decide

theorem isMark_codeStart (hclass : '<' ∉ highlightClass.toList) :
  IsMark (codeStart highlightClass)
  := by
  have hmark : IsMark "<pre>" := by
    decide
  have htag : Clear "<pre>" "<code class=\"" := by
    decide
  have hend : Clear "<pre>" "\">" := by
    decide
  rw [codeStart_eq]
  exact hmark.append ((htag.append (clear_of_not_mem rfl hclass)).append hend)

/-- The first tag in front of code is a mark of its own: what is clear of it is clear of all. -/
theorem clear_codeStart {text : String} (h : Clear "<pre>" text) (highlightClass : String) :
  Clear (codeStart highlightClass) text
  := by
  rw [codeStart_eq]
  exact h.mark_append _

/-- What stands between the tags of code is the code, written with entities. -/
theorem encloses_code (hdocs : '<' ∉ s.docs.toList) (leading : Bool) :
  Encloses (codeStart highlightClass) "</code></pre>" (Entity.encode s.code)
    (endLines (row highlightClass leading s))
  := by
  -- No other tag of a row starts like the first one in front of code, whatever the class there.
  have hall : (∀ tag ∈ docsTags, Clear "<pre>" tag)
      ∧ (∀ b, ∀ line ∈ codeCell b, Clear "<pre>" line)
      ∧ Clear "<pre>" "  <tr class=" ∧ Clear "<pre>" "</code></pre>"
      ∧ Clear "<pre>" "\n    </td>\n  </tr>\n" := by
    decide
  obtain ⟨htags, hcell, hrow, hend, hbelow⟩ := hall
  constructor
  · use "  " ++ "<tr class=" ++ (rowClass s ++ ">") ++ docsCell s
        ++ (endLines (codeCell leading) ++ "      "),
      "\n    </td>\n  " ++ "</tr>" ++ "\n"
    constructor
    · rw [endLines_row, insideRow, cells, codeContent]
      simp only [String.append_assoc]
    · have habove := (hrow.append (clear_rowClass rfl s)).append (clear_docsCell rfl hdocs htags)
      have hroom : Clear "<pre>" "      " := clear_of_not_mem rfl (by decide)
      exact ⟨clear_codeStart (habove.append ((clear_codeCell rfl (hcell leading)).append hroom)) _,
        clear_codeStart ((clear_entity rfl s.code).append hend) _, clear_codeStart hbelow _⟩
  · apply clear_entity rfl

end

/-! ### The button -/

theorem codeCell_leading :
  ∀ mark ∈ leadingMarks, ∃ before behind, endLines (codeCell true) = before ++ mark ++ behind
    ∧ Clear mark before ∧ Clear mark behind
  := by
  simp only [leadingMarks, List.forall_mem_cons]
  constructor
  · use "    ", "\n      <button class=\"copy\" title=\"Copy code\">copy</button>\n"
    decide
  · constructor
    · use "    <td class=\"code leading\">\n      ", " title=\"Copy code\">copy</button>\n"
      decide
    · simp

section

variable {mark highlightClass : String} {s : Segment}

theorem occurrences_cells (hmark : mark ∈ leadingMarks) (hdocs : '<' ∉ s.docs.toList)
    (hclass : '<' ∉ highlightClass.toList) (leading : Bool) (t : String) :
  occurrences mark (cells highlightClass leading s ++ t)
    = (if leading then 1 else 0) + occurrences mark t
  := by
  obtain ⟨hhead, hIsMark, hdocsTags, hcodeTags, hcell, -⟩ :=
    clear_tags_of_mem mark (List.mem_append_right _ hmark)
  have hcontent := clear_codeContent hhead hclass hcodeTags s
  rw [cells, String.append_assoc,
    occurrences_append_of_clear (clear_docsCell hhead hdocs hdocsTags), String.append_assoc]
  cases leading with
  | false =>
    rw [occurrences_append_of_clear (clear_codeCell hhead hcell),
      occurrences_append_of_clear hcontent]
    simp
  | true =>
    obtain ⟨before, behind, heq, hbefore, hbehind⟩ := codeCell_leading mark hmark
    rw [heq, occurrences_append hIsMark hbefore hbehind, occurrences_append_of_clear hcontent]
    simp [Nat.add_comm]

theorem occurrences_insideRow (hmark : mark ∈ leadingMarks) (hdocs : '<' ∉ s.docs.toList)
    (hclass : '<' ∉ highlightClass.toList) (leading : Bool) (t : String) :
  occurrences mark (insideRow highlightClass leading s ++ t)
    = (if leading then 1 else 0) + occurrences mark t
  := by
  obtain ⟨hhead, -⟩ := clear_tags_of_mem mark (List.mem_append_right _ hmark)
  rw [insideRow, String.append_assoc, occurrences_append_of_clear (clear_rowClass hhead s),
    occurrences_cells hmark hdocs hclass]

theorem occurrences_row (hmark : mark ∈ leadingMarks) (hdocs : '<' ∉ s.docs.toList)
    (hclass : '<' ∉ highlightClass.toList) (leading : Bool) (t : String) :
  occurrences mark (endLines (row highlightClass leading s) ++ t)
    = (if leading then 1 else 0) + occurrences mark t
  := by
  have hall : ∀ mark ∈ leadingMarks, Clear mark "  <tr class="
      ∧ Clear mark "</tr>\n" := by
    decide
  obtain ⟨hstart, hend⟩ := hall mark hmark
  have hrow : endLines (row highlightClass leading s) ++ t
      = "  <tr class=" ++ (insideRow highlightClass leading s ++ ("</tr>\n" ++ t)) := by
    rw [endLines_row]
    simp only [String.append_assoc]
    rfl
  rw [hrow, occurrences_append_of_clear hstart, occurrences_insideRow hmark hdocs hclass,
    occurrences_append_of_clear hend]

end

/-! ### Tables -/

/-- What is in the rows of the given segments, the first of them the leading one. -/
def inRows {α : Type} (inside : Bool → Segment → α) : List Segment → List α
  | [] => []
  | s :: rest => inside true s :: rest.map (inside false)

/-- The text of a table, row by row. -/
theorem endLines_table (file : File) (language : Language) :
  endLines (table file language)
    = endLines ["<table>"] ++ (endLines (rows language.highlightClass file.shown)
      ++ endLines ["</table>"])
  := by
  rw [table, endLines_append, endLines_append, String.append_assoc, File.shown]

section

variable {opening closing highlightClass : String} {inside : Bool → Segment → String}
  {ss : List Segment}

theorem between?_flatMap_row (hopening : IsMark opening)
    (h : ∀ s ∈ ss,
      Encloses opening closing (inside false s) (endLines (row highlightClass false s)))
    (t : String) :
  between? opening closing (endLines (ss.flatMap (row highlightClass false)) ++ t)
    = (between? opening closing t).map (ss.map (inside false) ++ ·)
  := by
  rw [endLines_flatMap, between?_join hopening h]

theorem between?_rows (hopening : IsMark opening)
    (h : ∀ leading, ∀ s ∈ ss,
      Encloses opening closing (inside leading s) (endLines (row highlightClass leading s)))
    (t : String) :
  between? opening closing (endLines (rows highlightClass ss) ++ t)
    = (between? opening closing t).map (inRows inside ss ++ ·)
  := by
  cases ss with
  | nil => simp [rows, inRows]
  | cons s ss =>
    obtain ⟨hs, -⟩ := List.forall_mem_cons.mp (h true)
    obtain ⟨-, hss⟩ := List.forall_mem_cons.mp (h false)
    rw [rows, endLines_append, String.append_assoc, hs.between?_append hopening,
      between?_flatMap_row hopening hss, Option.map_map]
    rfl

/-- The first text in every row is read, and nothing else. -/
theorem between?_table {file : File} {language : Language} (hopening : IsMark opening)
    (hends : ∀ tag ∈ tableTags, Clear opening (endLines [tag]))
    (h : ∀ leading, ∀ s ∈ file.shown, Encloses opening closing (inside leading s)
      (endLines (row language.highlightClass leading s))) :
  between? opening closing (endLines (table file language)) = some (inRows inside file.shown)
  := by
  have hbelow := between?_of_clear hopening.ne_empty (hends "</table>" (by decide)) closing
  rw [endLines_table, between?_append_of_clear (hends "<table>" (by decide)),
    between?_rows hopening h, hbelow, Option.map_some, List.append_nil]

end

theorem inRows_const {α : Type} (f : Segment → α) (ss : List Segment) :
  inRows (fun _ => f) ss = ss.map f
  := by
  cases ss with
  | nil => rfl
  | cons s ss => rfl

theorem length_inRows {α : Type} (inside : Bool → Segment → α) (ss : List Segment) :
  (inRows inside ss).length = ss.length
  := by
  cases ss with
  | nil => rfl
  | cons s ss => simp [inRows]

theorem getElem?_inRows {α : Type} (inside : Bool → Segment → α) (ss : List Segment) (k : Nat) :
  (inRows inside ss)[k]? = ss[k]?.map (inside (k = 0))
  := by
  cases ss with
  | nil => rfl
  | cons s ss =>
    cases k with
    | zero => rfl
    | succ k => simp [inRows]

/-- The marks of the leading cell are in the first row, and in no other. -/
theorem occurrences_of_getElem? {mark highlightClass inside : String} {ss : List Segment} {k : Nat}
    (hmark : mark ∈ leadingMarks) (hdocs : ∀ s ∈ ss, '<' ∉ s.docs.toList)
    (hclass : '<' ∉ highlightClass.toList)
    (h : (inRows (insideRow highlightClass) ss)[k]? = some inside) :
  occurrences mark inside = if k = 0 then 1 else 0
  := by
  obtain ⟨-, hIsMark, -⟩ := clear_tags_of_mem mark (List.mem_append_right _ hmark)
  have hempty := occurrences_of_clear hIsMark.ne_empty (clear_empty mark)
  rw [getElem?_inRows] at h
  obtain ⟨s, hs, rfl⟩ := Option.map_eq_some_iff.mp h
  have hcount := occurrences_insideRow hmark (hdocs s (List.mem_of_getElem? hs)) hclass (k = 0) ""
  rw [String.append_empty, hempty, Nat.add_zero] at hcount
  rw [hcount]
  simp

theorem occurrences_flatMap_row {mark highlightClass : String} {ss : List Segment}
    (hmark : mark ∈ leadingMarks) (hdocs : ∀ s ∈ ss, '<' ∉ s.docs.toList)
    (hclass : '<' ∉ highlightClass.toList) (t : String) :
  occurrences mark (endLines (ss.flatMap (row highlightClass false)) ++ t) = occurrences mark t
  := by
  induction ss with
  | nil => simp
  | cons s ss ih =>
    obtain ⟨hs, hss⟩ := List.forall_mem_cons.mp hdocs
    rw [List.flatMap_cons, endLines_append, String.append_assoc, occurrences_row hmark hs hclass,
      ih hss]
    simp

theorem occurrences_table {mark : String} {file : File} {language : Language}
    (hmark : mark ∈ leadingMarks) (hdocs : ∀ s ∈ file.shown, '<' ∉ s.docs.toList)
    (hclass : '<' ∉ language.highlightClass.toList) :
  occurrences mark (endLines (table file language)) = if file.shown = [] then 0 else 1
  := by
  obtain ⟨hhead, hIsMark, -, -, -, htags⟩ :=
    clear_tags_of_mem mark (List.mem_append_right _ hmark)
  have hends := clear_tableTags hhead htags
  have hbelow := occurrences_of_clear hIsMark.ne_empty (hends "</table>" (by decide))
  rw [endLines_table, occurrences_append_of_clear (hends "<table>" (by decide))]
  cases hshown : file.shown with
  | nil => rw [rows, endLines_nil, String.empty_append, hbelow, if_pos rfl]
  | cons s rest =>
    rw [hshown] at hdocs
    obtain ⟨hs, hrest⟩ := List.forall_mem_cons.mp hdocs
    rw [rows, endLines_append, String.append_assoc, occurrences_row hmark hs hclass,
      occurrences_flatMap_row hmark hrest hclass, hbelow, if_neg (List.cons_ne_nil s rest)]
    rfl

/-- The code that is read in the text of a table. -/
def readCode? (language : Language) (text : String) : Option (List String) :=
  (between? (codeStart language.highlightClass) "</code></pre>" text).map (·.map Entity.decode)

/-- The text that the button of a table copies. -/
def copied? (language : Language) (text : String) : Option String :=
  (readCode? language text).map joinLines

theorem less_notMem_highlightClass {language : Language} (h : language ∈ Language.all) :
  '<' ∉ language.highlightClass.toList
  := by
  have hall : ∀ l ∈ Language.all, '<' ∉ l.highlightClass.toList := by
    decide
  exact hall language h

theorem readCode?_table {file : File} {language : Language}
    (hdocs : ∀ s ∈ file.shown, '<' ∉ s.docs.toList)
    (hclass : '<' ∉ language.highlightClass.toList) :
  readCode? language (endLines (table file language)) = some (file.shown.map (·.code))
  := by
  have hpre : ∀ tag ∈ tableTags, Clear "<pre>" tag := by
    decide
  have hends : ∀ tag ∈ tableTags,
      Clear (codeStart language.highlightClass) (endLines [tag]) :=
    fun tag htag => clear_codeStart (clear_tableTags rfl hpre tag htag) _
  have hread := between?_table (isMark_codeStart hclass) hends
    (fun leading s hs => encloses_code (hdocs s hs) leading)
  rw [readCode?, hread, inRows_const, Option.map_some, List.map_map]
  simp

end Html

open Html

/-- A table whose documentation has no tags shows the segments that are not blank, and nothing else:
the code between its tags is theirs, in order and character for character, and so is the code that
its button copies; the k-th row has room below it exactly if the k-th segment has.  If there is a
row then the first one has the leading cell and the button, and no other has. -/
theorem table_shows {language : Language} (hlanguage : language ∈ Language.all) {file : File}
    (hdocs : ∀ s ∈ file.segments, '<' ∉ s.docs.toList) :
  readCode? language (endLines (table file language)) = some (file.shown.map (·.code))
    ∧ between? "<tr class=" ">" (endLines (table file language))
      = some (file.shown.map fun s => if s.spaced then "\"spaced\"" else "\"\"")
    ∧ (∃ insides, between? "<tr class=" "</tr>" (endLines (table file language)) = some insides
      ∧ insides.length = file.shown.length
      ∧ ∀ mark ∈ leadingMarks,
        occurrences mark (endLines (table file language)) = (if file.shown = [] then 0 else 1)
        ∧ ∀ k inside, insides[k]? = some inside →
          occurrences mark inside = if k = 0 then 1 else 0)
    ∧ copied? language (endLines (table file language))
      = some (joinLines (file.shown.map (·.code)))
  := by
  have hclass := less_notMem_highlightClass hlanguage
  have hshown : ∀ s ∈ file.shown, '<' ∉ s.docs.toList :=
    fun s hs => hdocs s (List.mem_of_mem_filter hs)
  have hcode := readCode?_table hshown hclass
  obtain ⟨hhead, hmark, -, -, -, htags⟩ := clear_tags_of_mem "<tr class=" (by decide)
  have hends := clear_tableTags hhead htags
  have hclasses : between? "<tr class=" ">" (endLines (table file language))
      = some (inRows (fun _ => rowClass) file.shown) :=
    between?_table hmark hends fun leading s hs => encloses_rowClass (hshown s hs) hclass leading
  have hrows := between?_table hmark hends
    fun leading s hs => encloses_insideRow (hshown s hs) hclass leading
  use hcode
  constructor
  · rw [hclasses, inRows_const]
    rfl
  · constructor
    · use inRows (insideRow language.highlightClass) file.shown, hrows, length_inRows _ _
      intro mark hleading
      use occurrences_table hleading hshown hclass
      exact fun k inside hinside => occurrences_of_getElem? hleading hshown hclass hinside
    · rw [copied?, hcode]
      rfl

/-- A file with blank segments before and between the others, and code that looks like markup. -/
def fileOfTags : File :=
  ⟨"", [⟨"", "\n", true⟩, ⟨"Tags.", "x < y;</code></pre>", true⟩, ⟨" ", "", false⟩,
    ⟨"", "&lt;", false⟩]⟩

theorem table_shows_tags :
  (∀ s ∈ fileOfTags.segments, '<' ∉ s.docs.toList)
    ∧ readCode? .shell (endLines (table fileOfTags .shell))
      = some ["x < y;</code></pre>", "&lt;"]
    ∧ between? "<tr class=" ">" (endLines (table fileOfTags .shell))
      = some ["\"spaced\"", "\"\""]
    ∧ occurrences "<button class=\"copy\"" (endLines (table fileOfTags .shell)) = 1
    ∧ copied? .shell (endLines (table fileOfTags .shell)) = some "x < y;</code></pre>\n&lt;"
  := by
  have hdocs : ∀ s ∈ fileOfTags.segments, '<' ∉ s.docs.toList := by
    decide
  have hshown : fileOfTags.shown
      = [⟨"Tags.", "x < y;</code></pre>", true⟩, ⟨"", "&lt;", false⟩] := by
    decide
  have hshell : Language.shell ∈ Language.all := by
    decide
  obtain ⟨hcode, hclasses, ⟨_, -, -, hleading⟩, hcopied⟩ := table_shows hshell hdocs
  obtain ⟨hbutton, -⟩ := hleading "<button class=\"copy\"" (by decide)
  rw [hshown] at hcode hclasses hbutton hcopied
  exact ⟨hdocs, hcode, hclasses, hbutton, hcopied⟩

end Gallery

import Gallery.Page.Format
import Gallery.Proofs.Json.Reading

/-!
# What a page tells in JSON

The page of an example in JSON is made for other programs.  What they find in it is a `PageRecord`:
it is read from the fields of an object, whatever their order, and only from an object with exactly
the keys of a page, each once.  The text of a page is read as the record of the page, so two pages
have the same text exactly when they have the same record (`read?_renderExample`).
-/

namespace Gallery

open Json

/-! ### Fields -/

namespace Json

/-- The object has the given keys and no others. -/
def hasKeys (fields : List (String × Json)) (keys : List String) : Bool :=
  (fields.map Prod.fst).isPerm keys

/-- The value is a text. -/
def text? : Json → Option String
  | .str s => some s
  | _ => none

/-- The value is true or false. -/
def flag? : Json → Option Bool
  | .bool b => some b
  | _ => none

/-- The value is a list of values that can be read. -/
def list? {α : Type} (read : Json → Option α) : Json → Option (List α)
  | .arr items => items.mapM read
  | _ => none

/-- The value can be read, or it is null. -/
def orNull? {α : Type} (read : Json → Option α) : Json → Option (Option α)
  | .null => some none
  | v => (read v).map some

/-- The value under a key. -/
def get? {α : Type} (read : Json → Option α) (key : String) (fields : List (String × Json)) :
    Option α :=
  (fields.lookup key).bind read

/-- The value under a key that may be missing. -/
def getOptional? {α : Type} (read : Json → Option α) (key : String)
    (fields : List (String × Json)) : Option (Option α) :=
  match fields.lookup key with
  | some v => (read v).map some
  | none => some none

end Json

/-! ### Records -/

/-- The segment that a value describes. -/
def Annotated.Segment.ofJson? : Json → Option Annotated.Segment
  | .obj fields =>
    if hasKeys fields ["docs", "code", "add_blank_after"] then do
      return {
        docs := ← get? text? "docs" fields
        code := ← get? text? "code" fields
        spaced := ← get? flag? "add_blank_after" fields }
    else none
  | _ => none

/-- The annotated file that a value describes. -/
def Annotated.File.ofJson? : Json → Option Annotated.File
  | .obj fields =>
    if hasKeys fields ["header", "segments"] then do
      return {
        header := ← get? text? "header" fields
        segments := ← get? (list? Annotated.Segment.ofJson?) "segments" fields }
    else none
  | _ => none

/-- The link that a value describes. -/
def Link.ofJson? : Json → Option Link
  | .obj fields =>
    if hasKeys fields ["name", "url"] then do
      return { name := ← get? text? "name" fields, url := ← get? text? "url" fields }
    else none
  | _ => none

/-- What the page of an example tells. -/
structure PageRecord where
  name : String
  id : String
  sourceFile : String
  source : Annotated.File
  scriptFile : Option String
  script : Option Annotated.File
  /-- The name of the language. -/
  language : String
  prev : Option Link
  next : Option Link
  deriving DecidableEq, Repr

namespace PageRecord

/-- The record of a page. -/
def ofPage (page : ExamplePage) : PageRecord where
  name := page.content.name
  id := page.content.id
  sourceFile := page.content.sourceFile
  source := page.content.source
  scriptFile := page.content.scriptFile
  script := page.content.script
  language := page.site.language.name
  prev := page.prev
  next := page.next

/-- The keys of the page of an example, with those of a script if it has one. -/
def keys (r : PageRecord) : List String :=
  ["name", "id", "source_file", "source"]
    ++ (if r.scriptFile.isSome then ["script_file"] else [])
    ++ (if r.script.isSome then ["script"] else [])
    ++ ["language", "prev", "next"]

/-- The record that the fields of an object describe. -/
def ofFields? (fields : List (String × Json)) : Option PageRecord := do
  let r := {
    name := ← get? text? "name" fields
    id := ← get? text? "id" fields
    sourceFile := ← get? text? "source_file" fields
    source := ← get? Annotated.File.ofJson? "source" fields
    scriptFile := ← getOptional? text? "script_file" fields
    script := ← getOptional? Annotated.File.ofJson? "script" fields
    language := ← get? text? "language" fields
    prev := ← get? (orNull? Link.ofJson?) "prev" fields
    next := ← get? (orNull? Link.ofJson?) "next" fields }
  if hasKeys fields r.keys then some r else none

end PageRecord

/-! ### Reading what has been written -/

/-- What is written one by one is read as it was. -/
theorem mapM_map_of_read {α β : Type} {read : β → Option α} {write : α → β}
    (h : ∀ a, read (write a) = some a) (as : List α) :
  (as.map write).mapM read = some as
  := by
  induction as with
  | nil => rfl
  | cons a as ih =>
    rw [List.map_cons, List.mapM_cons, h, ih]
    rfl

theorem list?_map {α : Type} {read : Json → Option α} {write : α → Json}
    (h : ∀ a, read (write a) = some a) (as : List α) :
  list? read (.arr (as.map write)) = some as
  := mapM_map_of_read h as

theorem ofJson?_segment (s : Annotated.Segment) :
  Annotated.Segment.ofJson? (Data.segment s) = some s
  := rfl

theorem ofJson?_link (l : Link) :
  Link.ofJson? (Data.link l) = some l
  := rfl

theorem ofJson?_file (f : Annotated.File) :
  Annotated.File.ofJson? (Data.file f) = some f
  := by
  let fields : List (String × Json) :=
    [("header", .str f.header), ("segments", .arr (f.segments.map Data.segment))]
  have hkeys : hasKeys fields ["header", "segments"] = true := rfl
  have hheader : get? text? "header" fields = some f.header := rfl
  have hsegments : get? (list? Annotated.Segment.ofJson?) "segments" fields = some f.segments :=
    list?_map ofJson?_segment f.segments
  rw [Data.file, Annotated.File.ofJson?, if_pos hkeys, hheader, hsegments]
  rfl

theorem orNull?_link? (l : Option Link) :
  orNull? Link.ofJson? (Data.link? l) = some l
  := by
  cases l <;> rfl

namespace PageRecord

/-- The fields of the page of an example. -/
def fieldsOf (page : ExamplePage) : List (String × Json) :=
  Data.exampleFields page.content
    ++ [("language", .str page.site.language.name), ("prev", Data.link? page.prev),
      ("next", Data.link? page.next)]

theorem map_fst_fieldsOf (page : ExamplePage) :
  (fieldsOf page).map Prod.fst = (ofPage page).keys
  := by
  obtain ⟨site, ⟨name, id, sourceFile, source, scriptFile, script⟩, prev, next⟩ := page
  cases scriptFile <;> cases script <;> rfl

theorem nodup_keys (r : PageRecord) :
  r.keys.Nodup
  := by
  rw [keys]
  cases r.scriptFile.isSome <;> cases r.script.isSome <;> decide

theorem mem_keys (r : PageRecord) (key : String) :
  key ∈ r.keys
    ↔ key ∈ ["name", "id", "source_file", "source", "language", "prev", "next"]
      ∨ (key = "script_file" ∧ r.scriptFile.isSome) ∨ (key = "script" ∧ r.script.isSome)
  := by
  simp only [keys, List.mem_append, List.mem_ite_nil_right, List.mem_cons, List.not_mem_nil,
    or_false]
  grind

theorem hasKeys_fieldsOf (page : ExamplePage) :
  hasKeys (fieldsOf page) (ofPage page).keys = true
  := by
  rw [hasKeys, map_fst_fieldsOf, List.isPerm_iff]

theorem getOptional?_script (page : ExamplePage) :
  getOptional? text? "script_file" (fieldsOf page) = some page.content.scriptFile
    ∧ getOptional? Annotated.File.ofJson? "script" (fieldsOf page) = some page.content.script
  := by
  obtain ⟨site, ⟨name, id, sourceFile, source, scriptFile, script⟩, prev, next⟩ := page
  cases scriptFile with
  | none =>
    cases script with
    | none => exact ⟨rfl, rfl⟩
    | some file => exact ⟨rfl, congrArg (Option.map some) (ofJson?_file file)⟩
  | some path =>
    cases script with
    | none => exact ⟨rfl, rfl⟩
    | some file => exact ⟨rfl, congrArg (Option.map some) (ofJson?_file file)⟩

/-- The script does not hide the fields behind it. -/
theorem lookup_behind_script (page : ExamplePage) :
  (fieldsOf page).lookup "language" = some (.str page.site.language.name)
    ∧ (fieldsOf page).lookup "prev" = some (Data.link? page.prev)
    ∧ (fieldsOf page).lookup "next" = some (Data.link? page.next)
  := by
  obtain ⟨site, ⟨name, id, sourceFile, source, scriptFile, script⟩, prev, next⟩ := page
  cases scriptFile <;> cases script <;> exact ⟨rfl, rfl, rfl⟩

/-- The fields of a page describe the record of the page. -/
theorem ofFields?_fieldsOf (page : ExamplePage) :
  ofFields? (fieldsOf page) = some (ofPage page)
  := by
  have hname : get? text? "name" (fieldsOf page) = some page.content.name := rfl
  have hid : get? text? "id" (fieldsOf page) = some page.content.id := rfl
  have hsourceFile : get? text? "source_file" (fieldsOf page) = some page.content.sourceFile := rfl
  have hsource : get? Annotated.File.ofJson? "source" (fieldsOf page) = some page.content.source :=
    ofJson?_file page.content.source
  obtain ⟨hscriptFile, hscript⟩ := getOptional?_script page
  obtain ⟨hlanguage, hprev, hnext⟩ := lookup_behind_script page
  have hlanguage' : get? text? "language" (fieldsOf page) = some page.site.language.name := by
    rw [get?, hlanguage]
    rfl
  have hprev' : get? (orNull? Link.ofJson?) "prev" (fieldsOf page) = some page.prev := by
    rw [get?, hprev, Option.bind_some, orNull?_link?]
  have hnext' : get? (orNull? Link.ofJson?) "next" (fieldsOf page) = some page.next := by
    rw [get?, hnext, Option.bind_some, orNull?_link?]
  have hkeys := hasKeys_fieldsOf page
  rw [ofPage] at hkeys ⊢
  simp only [ofFields?, hname, hid, hsourceFile, hsource, hscriptFile, hscript, hlanguage', hprev',
    hnext', Option.bind_eq_bind, Option.bind_some, hkeys, if_true]

/-- Pages with one record have the same fields. -/
theorem fieldsOf_congr {page other : ExamplePage} (h : ofPage other = ofPage page) :
  fieldsOf other = fieldsOf page
  := by
  simp only [ofPage, PageRecord.mk.injEq] at h
  obtain ⟨hname, hid, hsourceFile, hsource, hscriptFile, hscript, hlanguage, hprev, hnext⟩ := h
  simp only [fieldsOf, Data.exampleFields, hname, hid, hsourceFile, hsource, hscriptFile, hscript,
    hlanguage, hprev, hnext]

end PageRecord

theorem renderExample_eq_pretty (page : ExamplePage) :
  Data.renderExample page = (Json.obj (PageRecord.fieldsOf page)).pretty 0 ++ "\n"
  := rfl

/-- The text of a page is read as the fields of the page. -/
theorem read?_renderExample_eq (page : ExamplePage) :
  read? (Data.renderExample page) = some (.obj (PageRecord.fieldsOf page))
  := by
  rw [renderExample_eq_pretty, read?_pretty]

/-- The text of the page of an example is that of an object without double keys: those of a page,
with those of a script exactly when there is one.  Its fields describe the record of the page, so
two pages have the same text exactly when they have the same record. -/
theorem read?_renderExample (page : ExamplePage) :
  ∃ fields, read? (Data.renderExample page) = some (.obj fields)
    ∧ (fields.map Prod.fst).Nodup
    ∧ (∀ key, key ∈ fields.map Prod.fst
      ↔ key ∈ ["name", "id", "source_file", "source", "language", "prev", "next"]
        ∨ (key = "script_file" ∧ page.content.scriptFile.isSome)
        ∨ (key = "script" ∧ page.content.script.isSome))
    ∧ PageRecord.ofFields? fields = some (PageRecord.ofPage page)
    ∧ ∀ other, Data.renderExample other = Data.renderExample page
      ↔ PageRecord.ofPage other = PageRecord.ofPage page
  := by
  use PageRecord.fieldsOf page, read?_renderExample_eq page
  rw [PageRecord.map_fst_fieldsOf]
  use PageRecord.nodup_keys _
  constructor
  · apply PageRecord.mem_keys (PageRecord.ofPage page)
  · use PageRecord.ofFields?_fieldsOf page
    intro other
    constructor
    · intro h
      have hread := read?_renderExample_eq other
      rw [h, read?_renderExample_eq, Option.some_inj, Json.obj.injEq] at hread
      have hrecord := PageRecord.ofFields?_fieldsOf other
      rw [← hread, PageRecord.ofFields?_fieldsOf] at hrecord
      exact (Option.some.inj hrecord).symm
    · intro h
      rw [renderExample_eq_pretty, renderExample_eq_pretty, PageRecord.fieldsOf_congr h]

end Gallery

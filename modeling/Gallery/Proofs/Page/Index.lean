import Gallery.Proofs.Page.Distinct
import Gallery.Proofs.Page.Footer
import Gallery.Proofs.Page.Record

/-!
# The links of an index

An index is read in either format.  In HTML the links are the items between the marks of the last
list of the page, and each is read between its tags; in JSON they are a field of the index, whose
value is an `IndexRecord`.  Both formats list the links of the index (`renderIndex_lists`), whatever
their names and addresses are, since no tag starts in what is written with entities.
-/

namespace Gallery

open Text

/-! ### Reading an index -/

namespace Html

/-- The link that stands between the tags of an item: the address ends where the tag of the link
does. -/
def readLink? (inside : String) : Option Link := do
  let url ← before? "\">" inside
  let name ← behind? (url ++ "\">") inside
  return ⟨Entity.decode name, Entity.decode url⟩

/-- The links of an index.  There may be lists in the introduction as well, so those of the last one
are read. -/
def readLinks? (text : String) : Option (List Link) := do
  let list ← ((behindEach "<ul>" text).getLast?).bind (before? "</ul>")
  let items ← between? "<li><a href=\"" "</a></li>" list
  items.mapM readLink?

end Html

/-- What an index tells. -/
structure IndexRecord where
  title : String
  intro : Option String
  links : List Link
  deriving DecidableEq, Repr

namespace IndexRecord

/-- The record of an index. -/
def ofPage (page : IndexPage) : IndexRecord where
  title := page.site.title
  intro := page.site.intro
  links := page.links

/-- The keys of an index, with that of an introduction if it has one. -/
def keys (r : IndexRecord) : List String :=
  ["title"] ++ (if r.intro.isSome then ["intro"] else []) ++ ["examples"]

/-- The record that a value describes. -/
def ofJson? : Json → Option IndexRecord
  | .obj fields => do
    let r := {
      title := ← Json.get? Json.text? "title" fields
      intro := ← Json.getOptional? Json.text? "intro" fields
      links := ← Json.get? (Json.list? Link.ofJson?) "examples" fields }
    if Json.hasKeys fields r.keys then some r else none
  | _ => none

end IndexRecord

/-- The links of an index in JSON. -/
def Data.readLinks? (text : String) : Option (List Link) :=
  ((Json.read? text).bind IndexRecord.ofJson?).map (·.links)

/-- The links of an index. -/
def Format.readLinks? : Format → String → Option (List Link)
  | .html => Html.readLinks?
  | .json => Data.readLinks?

/-! ### Items -/

namespace Html

/-- The address and the name of a link, written with entities. -/
def written (link : Link) : String × String :=
  (Entity.encode link.url, Entity.encode link.name)

/-- What stands between the tags of an item. -/
def insideItem (link : Link) : String :=
  (written link).1 ++ "\">" ++ (written link).2

theorem item_eq (link : Link) :
  item link = "  " ++ ("<li><a href=\"" ++ insideItem link ++ "</a></li>")
  := by
  have hroom : "  <li>" = "  " ++ "<li>" := rfl
  have hstart : "<li><a href=\"" = "<li>" ++ "<a href=\"" := rfl
  have hend : "</a></li>" = "</a>" ++ "</li>" := rfl
  rw [item, anchor, insideItem, written, hroom, hstart, hend]
  simp only [String.append_assoc]

theorem map_item (links : List Link) :
  links.map item = (links.map written).map fun (url, name) =>
    "  <li><a href=\"" ++ url ++ "\">" ++ name ++ "</a></li>"
  := by
  have hstart : "  <li><a href=\"" = "  " ++ "<li><a href=\"" := rfl
  rw [List.map_map]
  apply List.map_congr_left
  intro link _
  rw [item_eq, insideItem, Function.comp_apply, hstart]
  simp only [String.append_assoc]

/-- There are no quotes and no tags in what is written. -/
theorem notMem_written {c : Char} (hc : c ∈ ['<', '>', '"']) (link : Link) :
  c ∉ (written link).1.toList ∧ c ∉ (written link).2.toList
  := by
  have hmarkup : ['<', '>', '"'].all
      (fun d => d ∈ ['&', '<', '>', '"', '\''] ∧ d ≠ '&') = true := by
    decide
  rw [List.all_eq_true] at hmarkup
  obtain ⟨hmem, hne⟩ := of_decide_eq_true (hmarkup c hc)
  constructor
  · intro hurl
    exact hne (Entity.eq_ampersand_of_mem_encode hurl hmem)
  · intro hname
    exact hne (Entity.eq_ampersand_of_mem_encode hname hmem)

theorem map_decode_written (links : List Link) :
  (links.map written).map (fun (url, name) => ⟨Entity.decode name, Entity.decode url⟩) = links
  := by
  rw [List.map_map]
  apply List.map_id''
  intro link
  simp [written]

theorem clear_insideItem {mark : String} (hmark : mark.toList.head? = some '<') (link : Link) :
  Clear mark (insideItem link)
  := by
  have hquote : Clear mark "\">" := clear_of_not_mem hmark (by decide)
  exact ((clear_entity hmark link.url).append hquote).append (clear_entity hmark link.name)

theorem encloses_insideItem (link : Link) :
  Encloses "<li><a href=\"" "</a></li>" (insideItem link) (item link ++ "\n")
  := by
  have hend : Clear "<li><a href=\"" "</a></li>" := by
    decide
  constructor
  · use "  ", "\n"
    constructor
    · rw [item_eq, String.append_assoc]
    · exact ⟨by decide, (clear_insideItem rfl link).append hend, by decide⟩
  · apply clear_insideItem rfl

/-- The link of an item is read as it was. -/
theorem readLink?_insideItem (link : Link) :
  readLink? (insideItem link) = some link
  := by
  have hquote : '"' ∉ (Entity.encode link.url).toList := (notMem_written (by decide) link).1
  rw [readLink?, insideItem, written, before?_append (clear_of_not_mem rfl hquote)]
  simp only [Option.bind_eq_bind, Option.bind_some, behind?_append, Entity.decode_encode]
  rfl

/-! ### The list -/

/-- The lines above the list. -/
def indexAbove (page : IndexPage) : List String :=
  head page.site.title
  ++ ["<body>",
      "<div class=\"example\" id=\"intro\">",
      "<h2><a href=\"./\">" ++ Entity.encode page.site.title ++ "</a></h2>"]
  ++ introLine page.site.intro

/-- The lines below the list. -/
def indexBelow (page : IndexPage) : List String :=
  footer page.site ++ ["</div>", "</body>", "</html>"]

/-- What stands between the marks of the list. -/
def insideList (page : IndexPage) : String :=
  "\n" ++ endLines (page.links.map item)

theorem renderIndex_eq_append (page : IndexPage) :
  renderIndex page = endLines (indexAbove page)
    ++ ("<ul>" ++ (insideList page ++ "</ul>" ++ ("\n" ++ endLines (indexBelow page))))
  := by
  simp only [renderIndex, indexLines, indexAbove, indexBelow, insideList, endLines_append,
    endLines_cons, endLines_nil, String.append_assoc, String.append_empty]

/-- The marks of a list do not occur in its items. -/
theorem clear_insideList (page : IndexPage) :
  ∀ mark ∈ ["<ul>", "</ul>"], Clear mark (insideList page)
  := by
  have hfixed : ∀ mark ∈ ["<ul>", "</ul>"], mark.toList.head? = some '<'
      ∧ Clear mark "<li><a href=\"" ∧ Clear mark "</a></li>" := by
    decide
  intro mark hmark
  obtain ⟨hhead, hstart, hend⟩ := hfixed mark hmark
  have hbreak : Clear mark "\n" := clear_of_not_mem hhead (by decide)
  have hroom : Clear mark "  " := clear_of_not_mem hhead (by decide)
  apply hbreak.append (clear_endLines hbreak _)
  intro line hline
  obtain ⟨link, -, rfl⟩ := List.mem_map.mp hline
  rw [item_eq]
  exact hroom.append ((hstart.append (clear_insideItem hhead link)).append hend)

theorem clear_indexBelow (page : IndexPage) :
  Clear "<ul>" (endLines (indexBelow page))
  := by
  have hfixed : ∀ line ∈ ["</div>", "</body>", "</html>"], Clear "<ul>" line := by
    decide
  apply clear_endLines (by decide)
  rw [indexBelow, List.forall_mem_append]
  exact ⟨clear_footer rfl (by decide) page.site, hfixed⟩

theorem clear_head (title : String) :
  ∀ line ∈ head title, Clear "<ul>" line
  := by
  have hfixed : ∀ text ∈ (head "").take 5 ++ ["<title>", "</title>"] ++ (head "").drop 6,
      Clear "<ul>" text := by
    decide
  simp only [List.forall_mem_append, List.forall_mem_cons] at hfixed
  obtain ⟨⟨habove, hstart, hend, -⟩, hbelow⟩ := hfixed
  rw [head_eq_append, List.forall_mem_append, List.forall_mem_cons]
  exact ⟨habove, (hstart.append (clear_entity rfl title)).append hend, hbelow⟩

/-- No list starts above the list if none does in the introduction. -/
theorem clear_indexAbove {page : IndexPage}
    (hintro : ∀ intro ∈ page.site.intro, '<' ∉ intro.toList) :
  Clear "<ul>" (endLines (indexAbove page))
  := by
  have hfixed : ∀ text ∈ ["<body>", "<div class=\"example\" id=\"intro\">",
      "<h2><a href=\"./\">", "</a></h2>", "<p>", "</p>"], Clear "<ul>" text := by
    decide
  simp only [List.forall_mem_cons] at hfixed
  obtain ⟨hbody, hdiv, hstart, hend, hopen, hclose, -⟩ := hfixed
  have htitle := (hstart.append (clear_entity rfl page.site.title)).append hend
  have hintroLine : ∀ line ∈ introLine page.site.intro, Clear "<ul>" line := by
    intro line hline
    rcases hpage : page.site.intro with _ | intro
    · rw [hpage] at hline
      cases hline
    · rw [hpage] at hline
      obtain rfl := List.mem_singleton.mp hline
      exact (hopen.append (clear_of_not_mem rfl (hintro intro hpage))).append hclose
  apply clear_endLines (by decide)
  simp only [indexAbove, List.forall_mem_append, List.forall_mem_cons]
  exact ⟨⟨clear_head page.site.title, hbody, hdiv, htitle, by simp⟩, hintroLine⟩

/-- There is one list in an index, unless there is another one in the introduction. -/
theorem encloses_insideList {page : IndexPage}
    (hintro : ∀ intro ∈ page.site.intro, '<' ∉ intro.toList) :
  Encloses "<ul>" "</ul>" (insideList page) (renderIndex page)
  := by
  have hbreak : Clear "<ul>" "\n" := by
    decide
  have hend : Clear "<ul>" "</ul>" := by
    decide
  constructor
  · use endLines (indexAbove page), "\n" ++ endLines (indexBelow page)
    constructor
    · rw [renderIndex_eq_append]
      simp only [String.append_assoc]
    · exact ⟨clear_indexAbove hintro, (clear_insideList page _ (by decide)).append hend,
        hbreak.append (clear_indexBelow page)⟩
  · exact clear_insideList page _ (by decide)

/-- The links of an index are read, whatever there is in its introduction. -/
theorem readLinks?_renderIndex (page : IndexPage) :
  readLinks? (renderIndex page) = some page.links
  := by
  have hbreak : ∀ mark ∈ ["<ul>", "<li><a href=\""], Clear mark "\n" := by
    decide
  have hend : Clear "<ul>" "</ul>" := by
    decide
  have hlist : (behindEach "<ul>" (renderIndex page)).getLast?
      = some (insideList page ++ "</ul>" ++ ("\n" ++ endLines (indexBelow page))) := by
    rw [renderIndex_eq_append]
    apply getLast?_behindEach (by decide)
    exact ((clear_insideList page _ (by decide)).append hend).append
      ((hbreak _ (by decide)).append (clear_indexBelow page))
  have hitems : between? "<li><a href=\"" "</a></li>" (insideList page)
      = some (page.links.map insideItem) := by
    have hnone : between? "<li><a href=\"" "</a></li>" "" = some [] :=
      between?_of_clear (by decide) (clear_empty _) _
    rw [insideList, between?_append_of_clear (hbreak _ (by decide)), endLines_map,
      ← String.append_empty (s := String.join _),
      between?_join (by decide) (fun link _ => encloses_insideItem link), hnone, Option.map_some,
      List.append_nil]
  rw [readLinks?, hlist, Option.bind_some, before?_append (clear_insideList page _ (by decide))]
  simp only [Option.bind_eq_bind, Option.bind_some, hitems]
  apply mapM_map_of_read readLink?_insideItem

end Html

/-! ### The record -/

namespace IndexRecord

/-- The fields of an index. -/
def fieldsOf (page : IndexPage) : List (String × Json) :=
  [("title", .str page.site.title)]
    ++ Data.field? "intro" .str page.site.intro
    ++ [("examples", .arr (page.links.map Data.link))]

theorem hasKeys_fieldsOf (page : IndexPage) :
  Json.hasKeys (fieldsOf page) (ofPage page).keys = true
  := by
  obtain ⟨⟨title, intro, sourceUrl, licenseUrl, language⟩, links⟩ := page
  cases intro <;> rfl

theorem getOptional?_intro (page : IndexPage) :
  Json.getOptional? Json.text? "intro" (fieldsOf page) = some page.site.intro
  := by
  obtain ⟨⟨title, intro, sourceUrl, licenseUrl, language⟩, links⟩ := page
  cases intro <;> rfl

/-- The introduction does not hide the links behind it. -/
theorem get?_links (page : IndexPage) :
  Json.get? (Json.list? Link.ofJson?) "examples" (fieldsOf page) = some page.links
  := by
  have hlookup : (fieldsOf page).lookup "examples" = some (.arr (page.links.map Data.link)) := by
    obtain ⟨⟨title, intro, sourceUrl, licenseUrl, language⟩, links⟩ := page
    cases intro <;> rfl
  rw [Json.get?, hlookup, Option.bind_some]
  apply list?_map ofJson?_link

/-- The value of an index describes the record of the index. -/
theorem ofJson?_indexPage (page : IndexPage) :
  ofJson? (Data.indexPage page) = some (ofPage page)
  := by
  have hfields : Data.indexPage page = .obj (fieldsOf page) := rfl
  have htitle : Json.get? Json.text? "title" (fieldsOf page) = some page.site.title := rfl
  have hkeys := hasKeys_fieldsOf page
  rw [ofPage] at hkeys ⊢
  simp only [hfields, ofJson?, htitle, getOptional?_intro, get?_links, Option.bind_eq_bind,
    Option.bind_some, hkeys, if_true]

/-- The text of an index is read as the record of the index. -/
theorem read?_renderIndex (page : IndexPage) :
  (Json.read? (Data.renderIndex page)).bind ofJson? = some (ofPage page)
  := by
  rw [Data.renderIndex, Json.read?_pretty, Option.bind_some, ofJson?_indexPage]

end IndexRecord

/-! ### Both formats -/

theorem readLinks?_renderIndex (format : Format) (page : IndexPage) :
  format.readLinks? (format.renderIndex page) = some page.links
  := by
  cases format with
  | html => apply Html.readLinks?_renderIndex
  | json =>
    change Data.readLinks? (Data.renderIndex page) = some page.links
    rw [Data.readLinks?, IndexRecord.read?_renderIndex, Option.map_some, IndexRecord.ofPage]

/-- The text of an index determines its links.  In HTML there is one list, unless the introduction
has tags, and what stands in it is an item for each link in order, on a line of its own: the address
and the name, written so that they contain no quotes and no tags, are decoded as those of the link.
In JSON the text is read as the title, the introduction, if there is one, and the links.  So the
same links are read in both formats, whatever the introduction. -/
theorem renderIndex_lists (page : IndexPage) :
  ((∀ intro ∈ page.site.intro, '<' ∉ intro.toList) →
      ∃ written : List (String × String),
        between? "<ul>" "</ul>" (Html.renderIndex page)
            = some ["\n" ++ endLines (written.map fun (url, name) =>
              "  <li><a href=\"" ++ url ++ "\">" ++ name ++ "</a></li>")]
          ∧ (∀ c ∈ ['<', '>', '"'], ∀ w ∈ written, c ∉ w.1.toList ∧ c ∉ w.2.toList)
          ∧ written.map (fun (url, name) => ⟨Entity.decode name, Entity.decode url⟩) = page.links)
    ∧ (Json.read? (Data.renderIndex page)).bind IndexRecord.ofJson?
      = some ⟨page.site.title, page.site.intro, page.links⟩
    ∧ ∀ format : Format, format.readLinks? (format.renderIndex page) = some page.links
  := by
  constructor
  · intro hintro
    use page.links.map Html.written
    constructor
    · have hmark : IsMark "<ul>" := by
        decide
      rw [(Html.encloses_insideList hintro).between? hmark, Html.insideList,
        Html.map_item]
    · constructor
      · intro c hc w hw
        obtain ⟨link, -, rfl⟩ := List.mem_map.mp hw
        apply Html.notMem_written hc link
      · apply Html.map_decode_written
  · use IndexRecord.read?_renderIndex page
    intro format
    apply readLinks?_renderIndex

/-- An index with an introduction and with links whose names and addresses look like markup. -/
def indexWithIntro : IndexPage where
  site := ⟨"T", some "a > b", some "</ul>", none, .shell⟩
  links := [⟨"</ul>\n\"<li>&lt;", "x\">y</a>"⟩, ⟨"", ""⟩]

theorem renderIndex_lists_indexWithIntro :
  (∀ intro ∈ indexWithIntro.site.intro, '<' ∉ intro.toList)
    ∧ (∃ list, between? "<ul>" "</ul>" (Html.renderIndex indexWithIntro) = some [list])
    ∧ Html.readLinks? (Html.renderIndex indexWithIntro)
      = some [⟨"</ul>\n\"<li>&lt;", "x\">y</a>"⟩, ⟨"", ""⟩]
    ∧ Data.readLinks? (Data.renderIndex indexWithIntro)
      = some [⟨"</ul>\n\"<li>&lt;", "x\">y</a>"⟩, ⟨"", ""⟩]
  := by
  have hintro : ∀ intro ∈ indexWithIntro.site.intro, '<' ∉ intro.toList := by
    intro intro h
    obtain rfl := Option.some.inj h
    decide
  obtain ⟨hlist, -, hlinks⟩ := renderIndex_lists indexWithIntro
  obtain ⟨written, hbetween, -, -⟩ := hlist hintro
  exact ⟨hintro, ⟨_, hbetween⟩, hlinks .html, hlinks .json⟩

end Gallery

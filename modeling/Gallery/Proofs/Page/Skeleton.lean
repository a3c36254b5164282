import Gallery.Proofs.Page.Tables
import Gallery.Proofs.Text.Markup
import Gallery.Site.Build
import Mathlib.Data.List.Forall2

/-!
# The skeleton of a page

Titles, names, ids, links and code are text, and no text can change the markup of a page in HTML:
two pages of one shape, that is, which differ in such texts at most, have the same characters that
delimit tags and attribute values (`markup_render_of_sameShape`).  Texts are written with entities,
and the links to the neighbours, which are written into a script, are link segments.
-/

namespace Gallery

open Text Annotated

/-! ### Shapes -/

namespace Annotated

/-- The segments differ in their code at most, and both are blank or neither is. -/
structure Segment.SameShape (s t : Segment) : Prop where
  docs : s.docs = t.docs
  spaced : s.spaced = t.spaced
  isBlank : s.isBlank = t.isBlank

/-- The files differ in the code of their segments at most. -/
structure File.SameShape (f g : File) : Prop where
  header : f.header = g.header
  segments : List.Forall₂ Segment.SameShape f.segments g.segments

end Annotated

/-- The sites have the same links in their footers, up to the addresses. -/
structure Site.SameShape (s t : Site) : Prop where
  sourceUrl : s.sourceUrl.isSome = t.sourceUrl.isSome
  licenseUrl : s.licenseUrl.isSome = t.licenseUrl.isSome

/-- The pages differ in their texts at most: in titles, names, ids, code and addresses.  A page
before them there may be or not, as its link stands in a script only. -/
structure ExamplePage.SameShape (p q : ExamplePage) : Prop where
  site : p.site.SameShape q.site
  language : p.site.language = q.site.language
  source : p.content.source.SameShape q.content.source
  script : Option.Rel File.SameShape p.content.script q.content.script
  next : p.next.isSome = q.next.isSome

/-- The neighbours of the page are linked by the names of page files. -/
def ExamplePage.LinksFiles (page : ExamplePage) : Prop :=
  ∀ link ∈ page.prev.toList ++ page.next.toList, ∃ format name, link.url = pageUrl format name

/-- The indexes differ in their texts at most: in titles, names and addresses. -/
structure IndexPage.SameShape (p q : IndexPage) : Prop where
  site : p.site.SameShape q.site
  intro : p.site.intro = q.site.intro
  links : p.links.length = q.links.length

namespace Html

/-! ### Lines with texts -/

private theorem none_or_some_of_isSome_eq {α : Type} {a b : Option α} (h : a.isSome = b.isSome) :
  (a = none ∧ b = none) ∨ ∃ x y, a = some x ∧ b = some y
  := by
  cases a with
  | none =>
    left
    exact ⟨rfl, Option.isSome_eq_false_iff.mp h.symm |> Option.isNone_iff_eq_none.mp⟩
  | some x =>
    right
    obtain ⟨y, rfl⟩ := Option.isSome_iff_exists.mp h.symm
    exact ⟨x, y, rfl, rfl⟩

theorem map_markup_head (title title' : String) :
  (head title).map markup = (head title').map markup
  := by
  simp [head]

theorem markup_anchor (link link' : Link) :
  markup (anchor link) = markup (anchor link')
  := by
  simp [anchor]

theorem markup_nextLine {next next' : Option Link} (h : next.isSome = next'.isSome) :
  markup (nextLine next) = markup (nextLine next')
  := by
  obtain ⟨rfl, rfl⟩ | ⟨link, link', rfl, rfl⟩ := none_or_some_of_isSome_eq h
  · rfl
  · rw [nextLine_some, nextLine_some]
    simp [markup_anchor link link']

/-- The links of the footer. -/
def footerLinks (site : Site) : List String :=
  (site.sourceUrl.map (footerLink "source")).toList
    ++ (site.licenseUrl.map (footerLink "license")).toList

theorem map_markup_footerLink {label : String} {url url' : Option String}
    (h : url.isSome = url'.isSome) :
  (url.map (footerLink label)).toList.map markup = (url'.map (footerLink label)).toList.map markup
  := by
  obtain ⟨rfl, rfl⟩ | ⟨text, text', rfl, rfl⟩ := none_or_some_of_isSome_eq h
  · rfl
  · simp [footerLink]

theorem map_markup_footerLinks {s t : Site} (h : s.SameShape t) :
  (footerLinks s).map markup = (footerLinks t).map markup
  := by
  rw [footerLinks, footerLinks, List.map_append, List.map_append,
    map_markup_footerLink h.sourceUrl, map_markup_footerLink h.licenseUrl]

theorem footer_eq (site : Site) :
  footer site = if footerLinks site = [] then []
    else ["<p class=\"footer\">" ++ " | ".intercalate (footerLinks site) ++ "</p>"]
  := by
  rw [footer, footerLinks]
  split
  · rename_i h
    rw [if_pos h]
  · rename_i h
    rw [if_neg h]

theorem map_markup_footer {s t : Site} (h : s.SameShape t) :
  (footer s).map markup = (footer t).map markup
  := by
  have hlinks := map_markup_footerLinks h
  have hnil : footerLinks s = [] ↔ footerLinks t = [] := by
    rw [← List.map_eq_nil_iff (f := markup), hlinks, List.map_eq_nil_iff]
  rw [footer_eq, footer_eq]
  by_cases hs : footerLinks s = []
  · rw [if_pos hs, if_pos (hnil.mp hs)]
  · rw [if_neg hs, if_neg (mt hnil.mpr hs)]
    simp [markup_intercalate, hlinks]

/-! ### Tables -/

theorem map_markup_row {s t : Segment} (h : s.SameShape t) (highlightClass : String)
    (leading : Bool) :
  (row highlightClass leading s).map markup = (row highlightClass leading t).map markup
  := by
  simp [row, h.docs, h.spaced]

theorem map_markup_flatMap_row {ss ts : List Segment} (h : List.Forall₂ Segment.SameShape ss ts)
    (highlightClass : String) :
  (ss.flatMap (row highlightClass false)).map markup
    = (ts.flatMap (row highlightClass false)).map markup
  := by
  induction h with
  | nil => rfl
  | cons hst _ ih =>
    rw [List.flatMap_cons, List.flatMap_cons, List.map_append, List.map_append,
      map_markup_row hst, ih]

theorem map_markup_rows {ss ts : List Segment} (h : List.Forall₂ Segment.SameShape ss ts)
    (highlightClass : String) :
  (rows highlightClass ss).map markup = (rows highlightClass ts).map markup
  := by
  cases h with
  | nil => rfl
  | cons hst hrest =>
    rw [rows, rows, List.map_append, List.map_append, map_markup_row hst,
      map_markup_flatMap_row hrest]

/-- The segments that are shown have the same shape, too. -/
theorem sameShape_filter {ss ts : List Segment} (h : List.Forall₂ Segment.SameShape ss ts) :
  List.Forall₂ Segment.SameShape (ss.filter fun s => !s.isBlank) (ts.filter fun t => !t.isBlank)
  := by
  apply List.rel_filter _ h
  intro s t hst
  simp [hst.isBlank]

theorem map_markup_table {f g : File} (h : f.SameShape g) (language : Language) :
  (table f language).map markup = (table g language).map markup
  := by
  simp only [table, List.map_append, map_markup_rows (sameShape_filter h.segments)]

theorem any_shown_of_sameShape {ss ts : List Segment}
    (h : List.Forall₂ Segment.SameShape ss ts) :
  (ss.any fun s => !s.isBlank) = ts.any fun t => !t.isBlank
  := by
  induction h with
  | nil => rfl
  | cons hst _ ih => rw [List.any_cons, List.any_cons, hst.isBlank, ih]

theorem hasContent_of_sameShape {f g : File} (h : f.SameShape g) :
  f.hasContent = g.hasContent
  := any_shown_of_sameShape h.segments

/-- Scripts of one shape are both shown, with one shape, or neither is. -/
theorem shownScript_of_sameShape {e e' : Example}
    (h : Option.Rel File.SameShape e.script e'.script) :
  Option.Rel File.SameShape (shownScript e) (shownScript e')
  := by
  rw [shownScript, shownScript]
  generalize e.script = script, e'.script = script' at h
  cases h with
  | none => exact .none
  | some hfile =>
    simp only [Option.filter_some, hasContent_of_sameShape hfile]
    split
    · exact .some hfile
    · exact .none

theorem map_markup_tables {p q : ExamplePage} (h : p.SameShape q) :
  (tables p).map markup = (tables q).map markup
  := by
  have hscript := shownScript_of_sameShape h.script
  rw [tables, tables, h.language, List.map_append, List.map_append, map_markup_table h.source]
  generalize shownScript p.content = script, shownScript q.content = script' at hscript
  cases hscript with
  | none => rfl
  | some hfile => simp [map_markup_table hfile]

theorem shownLanguages_of_sameShape {p q : ExamplePage} (h : p.SameShape q) :
  shownLanguages p = shownLanguages q
  := by
  have hscript := shownScript_of_sameShape h.script
  rw [shownLanguages, shownLanguages, h.language]
  generalize shownScript p.content = script, shownScript q.content = script' at hscript
  cases hscript with
  | none => rfl
  | some _ => rfl

/-! ### Scripts -/

theorem goTo_some (link : Link) :
  goTo (some link) = "window.location.href = '" ++ Quoted.encode link.url ++ "';"
  := rfl

/-- The statement that goes to a page has no markup, since the link to the page has none. -/
theorem markup_goTo {target : Option Link}
    (h : ∀ link ∈ target, ∃ format name, link.url = pageUrl format name) :
  markup (goTo target) = ""
  := by
  cases target with
  | none => rfl
  | some link =>
    obtain ⟨format, name, hurl⟩ := h link rfl
    have hbefore : markup "window.location.href = '" = "" := by
      decide +kernel
    have hafter : markup "';" = "" := by
      decide +kernel
    rw [goTo_some, hurl, pageUrl]
    simp [hbefore, hafter]

theorem map_markup_keyScript {p q : ExamplePage} (hp : p.LinksFiles) (hq : q.LinksFiles) :
  (keyScript p.prev p.next).map markup = (keyScript q.prev q.next).map markup
  := by
  have hgo : ∀ page : ExamplePage, page.LinksFiles →
      markup (goTo page.prev) = "" ∧ markup (goTo page.next) = "" := by
    intro page hpage
    constructor
    · apply markup_goTo
      exact fun link hlink => hpage link (List.mem_append_left _ (Option.mem_toList.mpr hlink))
    · apply markup_goTo
      exact fun link hlink => hpage link (List.mem_append_right _ (Option.mem_toList.mpr hlink))
  simp [keyScript, hgo p hp, hgo q hq]

/-! ### Pages -/

theorem map_markup_linesAbove {p q : ExamplePage} (h : p.SameShape q) :
  (linesAbove p).map markup = (linesAbove q).map markup
  := by
  have hhead := map_markup_head (p.site.title ++ ": " ++ p.content.name)
    (q.site.title ++ ": " ++ q.content.name)
  simp [linesAbove, hhead, h.source.header]

theorem map_markup_linesBelow {p q : ExamplePage} (h : p.SameShape q) (hp : p.LinksFiles)
    (hq : q.LinksFiles) :
  (linesBelow p).map markup = (linesBelow q).map markup
  := by
  simp only [linesBelow, List.map_append, List.map_cons, List.map_nil, markup_nextLine h.next,
    map_markup_footer h.site, shownLanguages_of_sameShape h, map_markup_keyScript hp hq]

theorem markup_item (link link' : Link) :
  markup (item link) = markup (item link')
  := by
  simp [item, markup_anchor link link']

theorem map_markup_items (links : List Link) :
  (links.map item).map markup = List.replicate links.length (markup (item ⟨"", ""⟩))
  := by
  rw [List.map_map, List.eq_replicate_iff, List.length_map]
  use rfl
  intro line hline
  obtain ⟨link, -, rfl⟩ := List.mem_map.mp hline
  apply markup_item

theorem map_markup_exampleLines {p q : ExamplePage} (h : p.SameShape q) (hp : p.LinksFiles)
    (hq : q.LinksFiles) :
  (exampleLines p).map markup = (exampleLines q).map markup
  := by
  simp only [exampleLines_eq, List.map_append, map_markup_linesAbove h, map_markup_tables h,
    map_markup_linesBelow h hp hq]

theorem map_markup_indexLines {p q : IndexPage} (h : p.SameShape q) :
  (indexLines p).map markup = (indexLines q).map markup
  := by
  have hhead := map_markup_head p.site.title q.site.title
  have hitems : (p.links.map item).map markup = (q.links.map item).map markup := by
    rw [map_markup_items, map_markup_items, h.links]
  simp only [indexLines, List.map_append, hhead, hitems, h.intro, map_markup_footer h.site]
  simp

end Html

/-- No text changes the markup of a page: pages of one shape have the same characters that delimit
tags and attribute values, and so have indexes of one shape. -/
theorem markup_render_of_sameShape :
  (∀ p q : ExamplePage, p.SameShape q → p.LinksFiles → q.LinksFiles →
      markup (Html.renderExample p) = markup (Html.renderExample q))
    ∧ ∀ p q : IndexPage, p.SameShape q →
      markup (Html.renderIndex p) = markup (Html.renderIndex q)
  := by
  constructor
  · intro p q h hp hq
    rw [Html.renderExample, Html.renderExample, markup_endLines, markup_endLines,
      Html.map_markup_exampleLines h hp hq]
  · intro p q h
    rw [Html.renderIndex, Html.renderIndex, markup_endLines, markup_endLines,
      Html.map_markup_indexLines h]

/-- A page that has the given text wherever a page has text. -/
def pageWithText (text : String) : ExamplePage where
  site := ⟨text, none, some text, none, .shell⟩
  content := ⟨text, text, "", ⟨"A header.", [⟨"Documentation.", text, true⟩]⟩, none, none⟩
  prev := none
  next := some ⟨text, pageUrl .html text⟩

/-- An index that has the given text wherever an index has text. -/
def indexWithText (text : String) : IndexPage where
  site := ⟨text, none, some text, none, .shell⟩
  links := [⟨text, text⟩]

theorem markup_render_of_sameShape_tags :
  (pageWithText "x").SameShape (pageWithText "</code><script>\"'\\")
    ∧ markup (Html.renderExample (pageWithText "x"))
      = markup (Html.renderExample (pageWithText "</code><script>\"'\\"))
    ∧ (indexWithText "x").SameShape (indexWithText "</ul><script>\"'\\")
    ∧ markup (Html.renderIndex (indexWithText "x"))
      = markup (Html.renderIndex (indexWithText "</ul><script>\"'\\"))
  := by
  have hpages : ∀ s t, (pageWithText s).SameShape (pageWithText t) := by
    intro s t
    have hblank : ∀ text, Segment.isBlank ⟨"Documentation.", text, true⟩ = false := by
      intro text
      have hdocs : isBlank "Documentation." = false := by
        decide +kernel
      rw [Segment.isBlank, hdocs, Bool.false_and]
    have hsegments : List.Forall₂ Segment.SameShape [⟨"Documentation.", s, true⟩]
        [⟨"Documentation.", t, true⟩] :=
      .cons ⟨rfl, rfl, by rw [hblank, hblank]⟩ .nil
    exact ⟨⟨rfl, rfl⟩, rfl, ⟨rfl, hsegments⟩, .none, rfl⟩
  have hindexes : ∀ s t, (indexWithText s).SameShape (indexWithText t) :=
    fun s t => ⟨⟨rfl, rfl⟩, rfl, rfl⟩
  have hlinks : ∀ s, (pageWithText s).LinksFiles := by
    intro s link hlink
    obtain rfl := List.mem_singleton.mp hlink
    exact ⟨.html, s, rfl⟩
  use hpages _ _
  constructor
  · apply markup_render_of_sameShape.1 _ _ (hpages _ _) (hlinks _) (hlinks _)
  · use hindexes _ _
    apply markup_render_of_sameShape.2 _ _ (hindexes _ _)

end Gallery

import Gallery.Proofs.Page.Footer
import Gallery.Proofs.Page.Neighbours
import Gallery.Proofs.Text.Escapes
import Gallery.Proofs.Text.Literals

/-!
# Links and keys

The address of the link to the next page is read in the paragraph of this link, and what the arrow
keys do is read in the script.  Both go to the same page, and so does the other key with the page
before (`keys_follow_links`): the address is a link segment, so it comes through the entities of the
link and the literals of the script unchanged, and it ends neither of them.
-/

namespace Gallery

open Text

/-- The mark of the paragraph with the link to the next page. -/
def nextMark : String :=
  "<p class=\"next\">"

/-- The address of the link to the next page.  There may be such a paragraph in the documentation as
well, so it is the last one that is read. -/
def nextHref? (text : String) : Option String :=
  (behindEach nextMark text).getLast?
    |>.bind (behind? "Next example: <a href=\"")
    |>.bind (before? "\"")
    |>.map Entity.decode

/-- What stands in front of what is done on a key. -/
def keyMark (key : String) : String :=
  "\n  if (e.key === \"" ++ key ++ "\") \x7b "

/-- What is done on a key, in the last script of the page. -/
def handler? (key text : String) : Option String :=
  (behindEach "<script>" text).getLast?
    |>.bind (fun script => (behindEach (keyMark key) script).head?)
    |>.bind (before? " \x7d")

/-- The handler goes to the page of the link, if there is one: the browser is given the address of
the page as a literal.  Otherwise there is nothing in the handler. -/
def LeadsTo (handler : String) : Option Link → Prop
  | some link => ∃ body, handler = "window.location.href = '" ++ body ++ "';"
      ∧ Quoted.Spells body link.url
  | none => handler = ""

/-- The link, if there is one, is to the file of a page. -/
def IsPageLink (target : Option Link) : Prop :=
  ∀ link ∈ target, ∃ format name, link.url = pageUrl format name

theorem ExamplePage.LinksFiles.isPageLink {page : ExamplePage} (h : page.LinksFiles) :
  IsPageLink page.prev ∧ IsPageLink page.next
  := by
  constructor
  · exact fun link hlink => h link (List.mem_append_left _ (Option.mem_toList.mpr hlink))
  · exact fun link hlink => h link (List.mem_append_right _ (Option.mem_toList.mpr hlink))

/-! ### Addresses -/

/-- In the address of a page there are no blanks, no ends of lines and no tags. -/
theorem notMem_pageUrl {c : Char} (h : c ∈ ' ' :: Quoted.lineEnds ++ Quoted.delimiters)
    (format : Format) (name : String) :
  c ∉ (pageUrl format name).toList
  := by
  have hall : (' ' :: Quoted.lineEnds ++ Quoted.delimiters).all
      (fun d => d.toNat < 0x20 ∨ 0x7E < d.toNat ∨ (d ∈ Percent.reserved ∧ d ≠ '%')) = true := by
    decide
  rw [List.all_eq_true] at hall
  intro hmem
  obtain ⟨hlow, hhigh, hreserved⟩ := Percent.printable_of_mem_encode hmem
  obtain hlt | hlt | ⟨hc, hpercent⟩ := of_decide_eq_true (hall c h)
  · omega
  · omega
  · exact hpercent (hreserved hc)

namespace Html

section

variable {target : Option Link}

theorem leadsTo_goTo (h : IsPageLink target) :
  LeadsTo (goTo target) target
  := by
  cases target with
  | none => rfl
  | some link =>
    obtain ⟨format, name, hurl⟩ := h link rfl
    use Quoted.encode link.url, goTo_some link
    rw [hurl]
    apply Quoted.spells_encode
    · intro c hc
      apply notMem_pageUrl
      simp [hc]
    · intro c hc
      apply notMem_pageUrl
      simp [hc]

/-- There are no tags and no ends of lines in what is done on a key. -/
theorem notMem_goTo {c : Char} (hc : c ∈ ['<', '\n']) (h : IsPageLink target) :
  c ∉ (goTo target).toList
  := by
  have hleads := leadsTo_goTo h
  cases target with
  | none =>
    rw [LeadsTo] at hleads
    rw [hleads]
    simp
  | some link =>
    obtain ⟨body, heq, hspells⟩ := hleads
    have hfixed : ['<', '\n'].all
        (fun d => d ∉ "window.location.href = '".toList ∧ d ∉ "';".toList) = true := by
      decide
    rw [List.all_eq_true] at hfixed
    obtain ⟨hstart, hend⟩ := of_decide_eq_true (hfixed c hc)
    have hbody : c ∉ body.toList := by
      simp only [List.mem_cons, List.not_mem_nil, or_false] at hc
      obtain rfl | rfl := hc
      · exact hspells.noTag '<' (by decide)
      · exact hspells.oneLine '\n' (by decide)
    rw [heq, String.toList_append, String.toList_append, List.mem_append, List.mem_append]
    simp only [hstart, hbody, hend, or_self, not_false_eq_true]

/-- What is done on a key ends where the handler does. -/
theorem clear_goTo (h : IsPageLink target) :
  Clear " \x7d" (goTo target)
  := by
  cases target with
  | none => apply clear_empty
  | some link =>
    obtain ⟨format, name, hurl⟩ := h link rfl
    have hstart : Clear " \x7d" "window.location.href = '" := by
      decide
    have hend : Clear " \x7d" "';" := by
      decide
    have hbody : ' ' ∉ (Quoted.encode link.url).toList := by
      intro hmem
      obtain hbackslash | hmem := Quoted.eq_backslash_or_mem_of_mem_encode hmem
      · exact absurd hbackslash (by decide)
      · rw [hurl] at hmem
        exact notMem_pageUrl (by decide) format name hmem
    rw [goTo_some]
    exact (hstart.append (clear_of_not_mem rfl hbody)).append hend

end

/-! ### The script -/

/-- The lines of the script in front of what is done on keys. -/
def aboveKeys : String :=
  "\nwindow.onkeydown = (e) => \x7b"
    ++ "\n  if (e.ctrlKey || e.altKey || e.shiftKey || e.metaKey) return;"

/-- The lines of the script behind what is done on keys. -/
def belowKeys : List String :=
  (keyScript none none).drop 5

/-- The script behind its first tag. -/
def keys (prev next : Option Link) : String :=
  aboveKeys ++ (keyMark "ArrowLeft" ++ (goTo prev ++ " \x7d" ++ (keyMark "ArrowRight"
    ++ (goTo next ++ " \x7d" ++ ("\n" ++ endLines belowKeys)))))

theorem endLines_keyScript (prev next : Option Link) :
  endLines (keyScript prev next) = "<script>" ++ keys prev next
  := by
  have habove : aboveKeys = "\n" ++ "window.onkeydown = (e) => \x7b" ++ "\n"
      ++ "  if (e.ctrlKey || e.altKey || e.shiftKey || e.metaKey) return;" := by
    decide
  have hleft : keyMark "ArrowLeft" = "\n" ++ "  if (e.key === \"ArrowLeft\") \x7b " := by
    decide
  have hright : keyMark "ArrowRight" = "\n" ++ "  if (e.key === \"ArrowRight\") \x7b " := by
    decide
  rw [keys, habove, hleft, hright, belowKeys, keyScript, keyScript]
  simp only [List.drop, endLines_cons, endLines_nil, String.append_assoc, String.append_empty]

/-- What stands between the mark of a key and the end of its handler is what is done on the key. -/
theorem handler_of_clear {key above : String} {target : Option Link} (hmark : IsMark (keyMark key))
    (habove : Clear (keyMark key) above) (h : IsPageLink target) (t : String) :
  ((behindEach (keyMark key) (above ++ (keyMark key ++ (goTo target ++ " \x7d" ++ t)))).head?).bind
      (before? " \x7d")
    = some (goTo target)
  := by
  rw [head?_behindEach hmark habove, Option.bind_some, before?_append (clear_goTo h)]

theorem isMark_keyMark :
  ∀ key ∈ ["ArrowLeft", "ArrowRight"], IsMark (keyMark key)
  := by
  decide

theorem clear_aboveKeys :
  ∀ key ∈ ["ArrowLeft", "ArrowRight"], Clear (keyMark key) aboveKeys
  := by
  decide

section

variable {prev next : Option Link}

theorem handler_left (hprev : IsPageLink prev) (t : String) :
  ((behindEach (keyMark "ArrowLeft") (keys prev next ++ t)).head?).bind (before? " \x7d")
    = some (goTo prev)
  := by
  rw [keys, String.append_assoc, String.append_assoc, String.append_assoc]
  apply handler_of_clear (isMark_keyMark _ (by decide)) (clear_aboveKeys _ (by decide)) hprev

theorem handler_right (hprev : IsPageLink prev) (hnext : IsPageLink next) (t : String) :
  ((behindEach (keyMark "ArrowRight") (keys prev next ++ t)).head?).bind (before? " \x7d")
    = some (goTo next)
  := by
  have hleft : Clear (keyMark "ArrowRight") (keyMark "ArrowLeft") := by
    decide
  -- The mark starts with a line feed, and there is none in what is done on the other key.
  have hgo : Clear (keyMark "ArrowRight") (goTo prev ++ " \x7d") := by
    have hend : Clear (keyMark "ArrowRight") " \x7d" := by
      decide
    have hhead : (keyMark "ArrowRight").toList.head? = some '\n' := by
      decide
    exact (clear_of_not_mem hhead (notMem_goTo (by decide) hprev)).append hend
  have habove := ((clear_aboveKeys _ (by decide)).append hleft).append hgo
  have hkeys : keys prev next ++ t
      = aboveKeys ++ keyMark "ArrowLeft" ++ (goTo prev ++ " \x7d") ++ (keyMark "ArrowRight"
        ++ (goTo next ++ " \x7d" ++ ("\n" ++ endLines belowKeys ++ t))) := by
    rw [keys]
    simp only [String.append_assoc]
  rw [hkeys]
  apply handler_of_clear (isMark_keyMark _ (by decide)) habove hnext

end

/-! ### What stands below the tables -/

/-- The mark of the link to the next page, and that of the script. -/
def pageMarks : List String :=
  [nextMark, "<script>"]

theorem isMark_of_mem_pageMarks :
  ∀ mark ∈ pageMarks, mark.toList.head? = some '<' ∧ IsMark mark
  := by
  decide

/-- The lines behind the script. -/
def linesEnd : List String :=
  ["</body>", "</html>"]

/-- The texts of the script, and what stands behind it, that do not depend on the page. -/
theorem clear_fixed :
  ∀ mark ∈ pageMarks,
    ∀ text ∈ [aboveKeys, keyMark "ArrowLeft", keyMark "ArrowRight", " \x7d", "\n"] ++ belowKeys
      ++ linesEnd, Clear mark text
  := by
  decide

/-- No mark occurs behind the first tag of the script. -/
theorem clear_keys {mark : String} (hmark : mark ∈ pageMarks) {prev next : Option Link}
    (hprev : IsPageLink prev) (hnext : IsPageLink next) :
  Clear mark (keys prev next ++ endLines linesEnd)
  := by
  obtain ⟨hhead, -⟩ := isMark_of_mem_pageMarks mark hmark
  have hfixed := clear_fixed mark hmark
  rw [List.forall_mem_append, List.forall_mem_append] at hfixed
  obtain ⟨⟨htexts, hbelow⟩, hlines⟩ := hfixed
  have hbreak := htexts "\n" (by simp)
  have hgo : ∀ {target}, IsPageLink target → Clear mark (goTo target ++ " \x7d") := fun h =>
    (clear_of_not_mem hhead (notMem_goTo (by decide) h)).append (htexts _ (by simp))
  have hright := (htexts (keyMark "ArrowRight") (by simp)).append
    ((hgo hnext).append (hbreak.append (clear_endLines hbreak hbelow)))
  have hleft := (htexts (keyMark "ArrowLeft") (by simp)).append ((hgo hprev).append hright)
  exact ((htexts aboveKeys (by simp)).append hleft).append (clear_endLines hbreak hlines)

/-! ### The lines between the tables and the script -/

theorem less_notMem_component {languages : List Language}
    (h : ∀ language ∈ languages, language ∈ Language.all) :
  ∀ c ∈ components languages, '<' ∉ c.toList
  := by
  have hall : ∀ language ∈ Language.all, ∀ c ∈ language.requires ++ [language.name],
      '<' ∉ c.toList := by
    decide
  intro c hc
  rw [components, List.mem_eraseDups, List.mem_flatMap] at hc
  obtain ⟨language, hlanguage, hc⟩ := hc
  exact hall language (h language hlanguage) c hc

theorem mem_all_of_mem_shownLanguages {page : ExamplePage}
    (hlanguage : page.site.language ∈ Language.all) :
  ∀ language ∈ shownLanguages page, language ∈ Language.all
  := by
  have hshell : Language.shell ∈ Language.all := by
    decide
  intro language h
  rw [shownLanguages] at h
  split at h
  · simp only [List.mem_cons, List.not_mem_nil, or_false] at h
    obtain rfl | rfl := h
    · exact hlanguage
    · exact hshell
  · obtain rfl := List.mem_singleton.mp h
    exact hlanguage

theorem clear_loadScript {file : String} (h : '<' ∉ file.toList) :
  Clear nextMark (loadScript file)
  := by
  have hstart : Clear nextMark ("<script src=\"" ++ highlighter ++ "/") := by
    decide
  have hend : Clear nextMark "\"></script>" := by
    decide
  exact (hstart.append (clear_of_not_mem rfl h)).append hend

theorem clear_linesBetween {page : ExamplePage} (hlanguage : page.site.language ∈ Language.all) :
  ∀ line ∈ linesBetween page, Clear nextMark line
  := by
  intro line hline
  simp only [linesBetween, List.mem_append, List.mem_map] at hline
  obtain (hfooter | hfixed) | ⟨c, hc, rfl⟩ := hline
  · exact clear_footer rfl (by decide) page.site line hfooter
  · simp only [List.mem_cons, List.not_mem_nil, or_false] at hfixed
    obtain rfl | rfl := hfixed
    · decide
    · exact clear_loadScript (by decide)
  · apply clear_loadScript
    have hcomponent := less_notMem_component (mem_all_of_mem_shownLanguages hlanguage) c hc
    simp only [String.toList_append, List.mem_append, hcomponent, or_false]
    decide

/-! ### The link -/

/-- The paragraph of the link to the next page, behind its mark. -/
def nextContent : Option Link → String
  | some link => "Next example: <a href=\"" ++ (Entity.encode link.url ++ "\""
      ++ (">" ++ Entity.encode link.name ++ "</a>.</p>"))
  | none => "</p>"

theorem nextContent_none :
  nextContent none = "</p>"
  := rfl

theorem nextContent_some (link : Link) :
  nextContent (some link) = "Next example: <a href=\"" ++ (Entity.encode link.url ++ "\""
    ++ (">" ++ Entity.encode link.name ++ "</a>.</p>"))
  := rfl

theorem nextLine_eq (next : Option Link) :
  nextLine next = nextMark ++ nextContent next
  := by
  cases next with
  | none =>
    rw [nextLine_none]
    decide
  | some link =>
    have hmark : "<p class=\"next\">Next example: " = nextMark ++ "Next example: " := by
      decide
    have hstart : "Next example: <a href=\"" = "Next example: " ++ "<a href=\"" := rfl
    have hquote : "\">" = "\"" ++ ">" := rfl
    have hend : "</a>.</p>" = "</a>" ++ ".</p>" := rfl
    rw [nextLine_some, anchor, nextContent_some, hmark, hstart, hquote, hend]
    simp only [String.append_assoc]

/-- The address that is read in the paragraph of a link is that of the link. -/
theorem href_nextContent (next : Option Link) (t : String) :
  (((behind? "Next example: <a href=\"" (nextContent next ++ t)).bind (before? "\"")).map
      Entity.decode)
    = next.map (·.url)
  := by
  cases next with
  | none =>
    have hclear : Clear "Next example: <a href=\"" "</p>" := by
      decide
    rw [nextContent_none, behind?_append_of_clear hclear (by decide)]
    rfl
  | some link =>
    have hquote : '"' ∉ (Entity.encode link.url).toList := by
      intro hmem
      have hampersand := Entity.eq_ampersand_of_mem_encode hmem (by decide)
      exact absurd hampersand (by decide)
    rw [nextContent_some, String.append_assoc, behind?_append, Option.bind_some,
      String.append_assoc, before?_append (clear_of_not_mem rfl hquote), Option.map_some,
      Entity.decode_encode, Option.map_some]

theorem clear_nextContent (next : Option Link) :
  Clear nextMark (nextContent next)
  := by
  cases next with
  | none => decide
  | some link =>
    have hfixed : ∀ text ∈ ["Next example: <a href=\"", "\"", ">", "</a>.</p>"],
        Clear nextMark text := by
      decide
    have hurl := (clear_entity rfl link.url).append (hfixed "\"" (by simp))
    have hname := (hfixed ">" (by simp)).append (clear_entity rfl link.name)
    exact (hfixed _ (by simp)).append (hurl.append (hname.append (hfixed _ (by simp))))

/-! ### Pages -/

/-- The text of a page is that of its link to the next page behind the tables, of the lines in
between, and of its script. -/
theorem renderExample_eq_append (page : ExamplePage) :
  renderExample page = endLines (linesAbove page ++ tables page) ++ (nextMark
    ++ (nextContent page.next ++ ("\n" ++ endLines (linesBetween page) ++ ("<script>"
      ++ (keys page.prev page.next ++ endLines linesEnd)))))
  := by
  rw [renderExample_eq, nextLine_eq, endLines_keyScript, linesEnd]
  simp only [String.append_assoc]

section

variable {page : ExamplePage}

theorem getLast?_nextMark (hlanguage : page.site.language ∈ Language.all)
    (hlinks : page.LinksFiles) :
  (behindEach nextMark (renderExample page)).getLast?
    = some (nextContent page.next ++ ("\n" ++ endLines (linesBetween page) ++ ("<script>"
      ++ (keys page.prev page.next ++ endLines linesEnd))))
  := by
  have hbreak : Clear nextMark "\n" := by
    decide
  have hscript : Clear nextMark "<script>" := by
    decide
  obtain ⟨-, hmark⟩ := isMark_of_mem_pageMarks nextMark (by decide)
  have hbetween := hbreak.append (clear_endLines hbreak (clear_linesBetween hlanguage))
  have hkeys := hscript.append (clear_keys (by decide) hlinks.isPageLink.1 hlinks.isPageLink.2)
  rw [renderExample_eq_append]
  exact getLast?_behindEach hmark ((clear_nextContent page.next).append (hbetween.append hkeys)) _

theorem getLast?_script (hlinks : page.LinksFiles) :
  (behindEach "<script>" (renderExample page)).getLast?
    = some (keys page.prev page.next ++ endLines linesEnd)
  := by
  obtain ⟨-, hmark⟩ := isMark_of_mem_pageMarks "<script>" (by decide)
  rw [renderExample_eq_append, ← String.append_assoc, ← String.append_assoc, ← String.append_assoc]
  exact getLast?_behindEach hmark
    (clear_keys (by decide) hlinks.isPageLink.1 hlinks.isPageLink.2) _

end

end Html

open Html

/-- The link to the next page and the arrow keys go to the same pages.  The address that is read in
the link is that of the next page; the right key goes to this address, and the left key to that of
the page before.  Both are given as literals that end neither by a quote, nor with their line, nor
with the script.  Without a page to go to, nothing is done on a key. -/
theorem keys_follow_links {page : ExamplePage} (hlanguage : page.site.language ∈ Language.all)
    (hlinks : page.LinksFiles) :
  nextHref? (renderExample page) = page.next.map (·.url)
    ∧ (∃ handler, handler? "ArrowRight" (renderExample page) = some handler
      ∧ LeadsTo handler page.next)
    ∧ ∃ handler, handler? "ArrowLeft" (renderExample page) = some handler
      ∧ LeadsTo handler page.prev
  := by
  obtain ⟨hprev, hnext⟩ := hlinks.isPageLink
  have hscript := getLast?_script hlinks
  constructor
  · rw [nextHref?, getLast?_nextMark hlanguage hlinks, Option.bind_some, href_nextContent]
  · constructor
    · use goTo page.next
      constructor
      · rw [handler?, hscript, Option.bind_some, handler_right hprev hnext]
      · exact leadsTo_goTo hnext
    · use goTo page.prev
      constructor
      · rw [handler?, hscript, Option.bind_some, handler_left hprev]
      · exact leadsTo_goTo hprev

/-- A first page, and one behind it with a quote and a backslash in its name. -/
theorem keys_follow_links_quote :
  (pageWithText "it's a\\b").LinksFiles
    ∧ nextHref? (renderExample (pageWithText "it's a\\b")) = some "it's%20a%5Cb.html"
    ∧ (∃ body, handler? "ArrowRight" (renderExample (pageWithText "it's a\\b"))
        = some ("window.location.href = '" ++ body ++ "';")
      ∧ Quoted.Spells body "it's%20a%5Cb.html")
    ∧ handler? "ArrowLeft" (renderExample (pageWithText "it's a\\b")) = some ""
  := by
  have hshell : Language.shell ∈ Language.all := by
    decide
  have hlinks : (pageWithText "it's a\\b").LinksFiles := by
    intro link hlink
    obtain rfl := List.mem_singleton.mp hlink
    exact ⟨.html, "it's a\\b", rfl⟩
  have hurl : pageUrl .html "it's a\\b" = "it's%20a%5Cb.html" := by
    decide
  obtain ⟨hhref, ⟨right, hright, body, rfl, hspells⟩, left, hleft, rfl⟩ :=
    keys_follow_links hshell hlinks
  rw [hurl] at hspells
  use hlinks
  constructor
  · rw [hhref]
    exact congrArg some hurl
  · exact ⟨⟨body, hright, hspells⟩, hleft⟩

end Gallery

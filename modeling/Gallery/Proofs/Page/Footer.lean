import Gallery.Proofs.Page.Skeleton
import Gallery.Proofs.Text.Search

/-!
# The footer has no marks

The footer of a page is written below what is read on the page, and there are addresses in it that
could be anything.  They are written with entities, so a tag occurs in the footer only if it occurs
among the tags of the footer (`clear_footer`).
-/

namespace Gallery.Html

open Text

/-- The tags of the footer. -/
def footerTags : List String :=
  ["<p class=\"footer\">", "<a href=\"", "</a>", "</p>"]

variable {mark : String}

theorem clear_footerLink (hmark : mark.toList.head? = some '<')
    (htags : ∀ tag ∈ footerTags, Clear mark tag) {label : String} (hlabel : '<' ∉ label.toList)
    (url : String) :
  Clear mark (footerLink label url)
  := by
  have hstart := htags "<a href=\"" (by decide)
  have hquote : Clear mark "\">" := clear_of_not_mem hmark (by decide)
  have hend := htags "</a>" (by decide)
  have htag := (hstart.append (clear_entity hmark url)).append hquote
  exact (htag.append (clear_of_not_mem hmark hlabel)).append hend

theorem clear_footer (hmark : mark.toList.head? = some '<')
    (htags : ∀ tag ∈ footerTags, Clear mark tag) (site : Site) :
  ∀ line ∈ footer site, Clear mark line
  := by
  have hlinks : ∀ link ∈ footerLinks site, Clear mark link := by
    intro link hlink
    rw [footerLinks, List.mem_append, Option.mem_toList, Option.mem_toList] at hlink
    obtain hlink | hlink := hlink
    · obtain ⟨url, -, rfl⟩ := Option.map_eq_some_iff.mp hlink
      apply clear_footerLink hmark htags (by decide)
    · obtain ⟨url, -, rfl⟩ := Option.map_eq_some_iff.mp hlink
      apply clear_footerLink hmark htags (by decide)
  have hstart := htags "<p class=\"footer\">" (by decide)
  have hbar : Clear mark " | " := clear_of_not_mem hmark (by decide)
  have hend := htags "</p>" (by decide)
  intro line hline
  rw [footer_eq] at hline
  split at hline
  · cases hline
  · obtain rfl := List.mem_singleton.mp hline
    exact (hstart.append (clear_intercalate hbar hlinks)).append hend

end Gallery.Html

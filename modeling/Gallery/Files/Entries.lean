import Gallery.Files.Path

/-!
# Entries of a directory

A directory has entries under names; an entry is a file with its content or a directory of its
own.  What is found below a directory is found by location, the list of the names that lead
there: `lookup` tells a file from a directory.  Setting an entry changes what is found at its own
location only (`lookup_set`), and whatever is found lies in a directory (`lookup_dropLast`).
-/

namespace Gallery.Files

/-- A file with its content, or a directory with its entries. -/
inductive Node where
  | file (content : ByteArray)
  | dir (entries : List (Name × Node))
  deriving Inhabited

/-- The entries of a directory.  Of several entries with one name the first counts. -/
abbrev Entries := List (Name × Node)

/-- What is found at a location: a file with its content, or a directory. -/
inductive Entry where
  | file (content : ByteArray)
  | dir
  deriving Inhabited

instance : DecidableEq Entry
  | .file c, .file d =>
    match ByteArray.instDecidableEq c d with
    | isTrue h => isTrue (congrArg Entry.file h)
    | isFalse h => isFalse fun heq => h (Entry.file.inj heq)
  | .file _, .dir => isFalse nofun
  | .dir, .file _ => isFalse nofun
  | .dir, .dir => isTrue rfl

/-- What a node is found as. -/
def Node.entry : Node → Entry
  | .file content => .file content
  | .dir _ => .dir

/-- The node of a file, or of a directory without entries. -/
def Entry.node : Entry → Node
  | .file content => .file content
  | .dir => .dir []

/-- The names that lead from the root to an entry. -/
abbrev Location := List Name

namespace Entries

/-- The entry with a name. -/
def child? (name : Name) : Entries → Option Node
  | [] => none
  | (other, node) :: rest => if name = other then some node else child? name rest

/-- The entries with `node` under a name, instead of what was there or after all others. -/
def put (name : Name) (node : Node) : Entries → Entries
  | [] => [(name, node)]
  | (other, old) :: rest =>
    if name = other then (name, node) :: rest else (other, old) :: put name node rest

/-- The node at a location. -/
def nodeAt? (es : Entries) : Location → Option Node
  | [] => some (.dir es)
  | name :: names =>
    match es.child? name with
    | some (.dir es') => nodeAt? es' names
    | some (.file content) => if names = [] then some (.file content) else none
    | none => none

/-- What is found at a location. -/
def lookup (es : Entries) (loc : Location) : Option Entry :=
  (es.nodeAt? loc).map Node.entry

/-- The names of the entries in the directory at a location. -/
def namesAt (es : Entries) (loc : Location) : List Name :=
  match es.nodeAt? loc with
  | some (.dir es') => (es'.map (·.1)).eraseDups
  | _ => []

/-- The entries with a new one at a location, instead of what was there; nothing changes if the
location does not lie in a directory. -/
def set (entry : Entry) (es : Entries) : Location → Entries
  | [] => es
  | [name] => es.put name entry.node
  | name :: names =>
    match es.child? name with
    | some (.dir es') => es.put name (.dir (set entry es' names))
    | _ => es

/-- The entries without the one at a location. -/
def remove (es : Entries) : Location → Entries
  | [] => es
  | [name] => es.filter (·.1 ≠ name)
  | name :: names =>
    match es.child? name with
    | some (.dir es') => es.put name (.dir (remove es' names))
    | _ => es

@[simp]
theorem entry_node (entry : Entry) :
  entry.node.entry = entry
  := by
  cases entry <;> rfl

theorem child?_put (name other : Name) (node : Node) (es : Entries) :
  (es.put name node).child? other = if other = name then some node else es.child? other
  := by
  induction es with
  | nil => simp [put, child?]
  | cons e es ih =>
    obtain ⟨first, old⟩ := e
    by_cases h : name = first
    · subst h
      by_cases h' : other = name <;> simp [put, child?, h']
    · by_cases h' : other = first
      · subst h'
        simp [put, child?, h, Ne.symm h]
      · simp [put, child?, h, h', ih]

theorem lookup_nil (es : Entries) :
  es.lookup [] = some .dir
  := rfl

/-- A location is looked up name by name. -/
theorem lookup_cons (es : Entries) (name : Name) (names : Location) :
  es.lookup (name :: names) =
    match es.child? name with
    | some (.dir es') => lookup es' names
    | some (.file content) => if names = [] then some (.file content) else none
    | none => none
  := by
  rw [lookup, nodeAt?]
  rcases es.child? name with _ | content | es'
  · rfl
  · by_cases h : names = [] <;> simp [h, Node.entry]
  · rfl

private theorem lookup_put_node (name : Name) (entry : Entry) (es : Entries)
    (names : Location) :
  (es.put name entry.node).lookup (name :: names) = if names = [] then some entry else none
  := by
  rw [lookup_cons, child?_put, if_pos rfl]
  cases entry with
  | file content => rfl
  | dir => cases names <;> simp [Entry.node, lookup_nil, lookup_cons, child?]

/-- Nothing is found below a name that is not the name of a directory. -/
theorem lookup_cons_eq_none {es : Entries} {name : Name} {names : Location}
    (hname : es.lookup [name] ≠ some .dir) (hnames : names ≠ []) :
  es.lookup (name :: names) = none
  := by
  rw [lookup_cons] at hname ⊢
  rcases hc : es.child? name with _ | content | es'
  · rfl
  · simp [hnames]
  · simp [hc, lookup_nil] at hname

/-- Setting an entry in a directory, in the place of none or of a file, changes what is found at
its location only. -/
theorem lookup_set (entry : Entry) {es : Entries} {loc : Location}
    (hdir : es.lookup loc.dropLast = some .dir) (hloc : es.lookup loc ≠ some .dir)
    (other : Location) :
  (es.set entry loc).lookup other = if other = loc then some entry else es.lookup other
  := by
  induction loc generalizing es other with
  | nil => exact absurd (lookup_nil es) hloc
  | cons name names ih =>
    cases other with
    | nil => simp [lookup_nil]
    | cons first rest =>
      cases names with
      | nil =>
        by_cases h : first = name
        · subst h
          rw [set, lookup_put_node]
          by_cases hrest : rest = []
          · simp [hrest]
          · simp [hrest, lookup_cons_eq_none hloc]
        · rw [set, lookup_cons, child?_put, lookup_cons]
          simp [h]
      | cons n ns =>
        rw [List.dropLast_cons_cons, lookup_cons] at hdir
        rw [lookup_cons] at hloc
        rcases hc : es.child? name with _ | content | es'
        · simp [hc] at hdir
        · simp [hc] at hdir
        · simp only [hc] at hdir hloc
          have hset : es.set entry (name :: n :: ns)
              = es.put name (.dir (set entry es' (n :: ns))) := by
            simp [set, hc]
          rw [hset, lookup_cons, child?_put]
          by_cases h : first = name
          · subst h
            simp only [if_true, List.cons.injEq, true_and]
            rw [ih hdir hloc, lookup_cons, hc]
          · simp [h, lookup_cons]

/-- What is found lies in a directory. -/
theorem lookup_dropLast {es : Entries} {loc : Location} (h : es.lookup loc ≠ none) :
  es.lookup loc.dropLast = some .dir
  := by
  induction loc generalizing es with
  | nil => rfl
  | cons name names ih =>
    cases names with
    | nil => rfl
    | cons n ns =>
      rw [lookup_cons] at h
      rw [List.dropLast_cons_cons, lookup_cons]
      rcases hc : es.child? name with _ | content | es'
      · simp [hc] at h
      · simp [hc] at h
      · rw [hc] at h
        exact ih h

end Entries

mutual

/-- All that is found below a node, each with its location after `above`. -/
def Node.listAfter (above : Location) : Node → List (Location × Entry)
  | .file _ => []
  | .dir es => Entries.listAfter above es

/-- All that is found in a directory with the given entries, each with its location after
`above`. -/
def Entries.listAfter (above : Location) : List (Name × Node) → List (Location × Entry)
  | [] => []
  | (name, node) :: rest =>
    (above ++ [name], node.entry)
      :: (Node.listAfter (above ++ [name]) node ++ Entries.listAfter above rest)

end

end Gallery.Files

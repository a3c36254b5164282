import Mathlib.Data.List.Basic
import Gallery.Text.Entity

/-!
# Reading literals

The body of a literal between single quotes is read from left to right: a backslash and the quote or
the backslash behind it are that character.  What `encode` writes is read as the text that it was
written for (`decode?_encode`), and no quote in it ends the literal (`closed_flatMap`).  Nothing but
quotes and backslashes is written differently, so a text in one line and without tags goes into a
script as a literal (`spells_encode`).
-/

namespace Gallery.Text.Quoted

/-- The characters of the text that the body of a literal stands for.  There is none if a quote
stands by itself, or a backslash before anything but a quote or a backslash. -/
def decodeChars? : List Char → Option (List Char)
  | '\\' :: '\\' :: cs => (decodeChars? cs).map ('\\' :: ·)
  | '\\' :: '\'' :: cs => (decodeChars? cs).map ('\'' :: ·)
  | '\\' :: _ => none
  | '\'' :: _ => none
  | c :: cs => (decodeChars? cs).map (c :: ·)
  | [] => some []

/-- The text that the body of a literal stands for. -/
def decode? (body : String) : Option String :=
  (decodeChars? body.toList).map String.ofList

/-- Quotes stand only behind backslashes, and there is a character behind each backslash that is not
itself behind one: the body does not end the literal, and the quote behind it does. -/
inductive Closed : List Char → Prop where
  | nil : Closed []
  | char {c : Char} {cs : List Char} (hc : c ∉ ['\\', '\'']) (hcs : Closed cs) : Closed (c :: cs)
  | escape (c : Char) {cs : List Char} (hcs : Closed cs) : Closed ('\\' :: c :: cs)

/-- The characters that end a line of a script. -/
def lineEnds : List Char :=
  ['\n', '\r', '\u2028', '\u2029']

/-- The characters that delimit tags and attribute values. -/
def delimiters : List Char :=
  ['<', '>', '"']

/-- The body of a literal for the text, which ends neither by a quote, nor with its line, nor with
the element of the script that it is in. -/
structure Spells (body text : String) : Prop where
  decodes : decode? body = some text
  closed : Closed body.toList
  oneLine : ∀ c ∈ lineEnds, c ∉ body.toList
  noTag : ∀ c ∈ delimiters, c ∉ body.toList

/-! ### Written texts -/

/-- A character is written as itself or behind a backslash. -/
theorem encodeChar_cases (c : Char) :
  (c ∈ ['\\', '\''] ∧ encodeChar c = ['\\', c]) ∨ (c ∉ ['\\', '\''] ∧ encodeChar c = [c])
  := by
  fun_cases encodeChar c with
  | case1 => decide
  | case2 => decide
  | case3 c hbackslash hquote =>
    right
    simpa using ⟨hbackslash, hquote⟩

theorem decodeChars?_cons {c : Char} (h : c ∉ ['\\', '\'']) (cs : List Char) :
  decodeChars? (c :: cs) = (decodeChars? cs).map (c :: ·)
  := by
  rw [decodeChars?]
  all_goals
    intros
    simp_all

theorem decodeChars?_encodeChar_append (c : Char) (cs : List Char) :
  decodeChars? (encodeChar c ++ cs) = (decodeChars? cs).map (c :: ·)
  := by
  fun_cases encodeChar c with
  | case1 => rfl
  | case2 => rfl
  | case3 c hbackslash hquote =>
    apply decodeChars?_cons
    simpa using ⟨hbackslash, hquote⟩

theorem decodeChars?_flatMap (cs : List Char) :
  decodeChars? (cs.flatMap encodeChar) = some cs
  := by
  induction cs with
  | nil => rfl
  | cons c cs ih => rw [List.flatMap_cons, decodeChars?_encodeChar_append, ih, Option.map_some]

/-- The body of the literal of a text stands for it. -/
theorem decode?_encode (s : String) :
  decode? (encode s) = some s
  := by
  rw [decode?, toList_encode, decodeChars?_flatMap, Option.map_some, String.ofList_toList]

theorem closed_flatMap (cs : List Char) :
  Closed (cs.flatMap encodeChar)
  := by
  induction cs with
  | nil => exact .nil
  | cons c cs ih =>
    rw [List.flatMap_cons]
    obtain ⟨-, heq⟩ | ⟨hc, heq⟩ := encodeChar_cases c
    · rw [heq]
      exact .escape c ih
    · rw [heq]
      exact .char hc ih

/-- In the body of a literal there are backslashes and the characters of its text. -/
theorem eq_backslash_or_mem_of_mem_encode {s : String} {c : Char} (h : c ∈ (encode s).toList) :
  c = '\\' ∨ c ∈ s.toList
  := by
  rw [toList_encode, List.mem_flatMap] at h
  obtain ⟨d, hd, hc⟩ := h
  obtain ⟨-, heq⟩ | ⟨-, heq⟩ := encodeChar_cases d
  · rw [heq, List.mem_cons, List.mem_singleton] at hc
    obtain rfl | rfl := hc
    · left
      rfl
    · right
      exact hd
  · rw [heq, List.mem_singleton] at hc
    right
    rwa [hc]

/-- The literal of a text in one line and without tags is a literal in a script. -/
theorem spells_encode {s : String} (hlines : ∀ c ∈ lineEnds, c ∉ s.toList)
    (htags : ∀ c ∈ delimiters, c ∉ s.toList) :
  Spells (encode s) s
  := by
  have hnotMem : ∀ c, c ≠ '\\' → c ∉ s.toList → c ∉ (encode s).toList := by
    intro c hc hs hmem
    obtain hbackslash | hmem := eq_backslash_or_mem_of_mem_encode hmem
    · exact hc hbackslash
    · exact hs hmem
  constructor
  · apply decode?_encode
  · rw [toList_encode]
    apply closed_flatMap
  · intro c hc
    apply hnotMem c _ (hlines c hc)
    rintro rfl
    exact absurd hc (by decide)
  · intro c hc
    apply hnotMem c _ (htags c hc)
    rintro rfl
    exact absurd hc (by decide)

end Gallery.Text.Quoted

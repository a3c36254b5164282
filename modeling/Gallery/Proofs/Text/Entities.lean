import Gallery.Text.Entity
import Mathlib.Data.List.Basic

/-!
# Reading entities

A text that is written with entities is read from left to right, each entity as its character.  What
`encode` writes is read as the text that it was written for, whatever stands behind it
(`decodeChars_flatMap_append`), so that no two texts are written alike, even if they look like
entities themselves.  Writing goes character by character, which is the same as replacing the
characters of markup one after another if the ampersand comes first (`encodeInTurn_eq_encode`).
-/

namespace Gallery.Text.Entity

/-- The text with a text instead of every occurrence of a character. -/
def substitute (c : Char) (text s : String) : String :=
  String.ofList (s.toList.flatMap fun d => if d = c then text.toList else [d])

/-- The text with the characters of markup replaced one after another, the ampersand first. -/
def encodeInTurn (s : String) : String :=
  substitute '\'' "&#039;" (substitute '"' "&quot;"
    (substitute '>' "&gt;" (substitute '<' "&lt;" (substitute '&' "&amp;" s))))

/-- The entities. -/
def entities : List String :=
  ["&amp;", "&lt;", "&gt;", "&quot;", "&#039;"]

/-- The characters of a text that is read from left to right, each entity as its character. -/
def decodeChars : List Char → List Char
  | '&' :: 'a' :: 'm' :: 'p' :: ';' :: cs => '&' :: decodeChars cs
  | '&' :: 'l' :: 't' :: ';' :: cs => '<' :: decodeChars cs
  | '&' :: 'g' :: 't' :: ';' :: cs => '>' :: decodeChars cs
  | '&' :: 'q' :: 'u' :: 'o' :: 't' :: ';' :: cs => '"' :: decodeChars cs
  | '&' :: '#' :: '0' :: '3' :: '9' :: ';' :: cs => '\'' :: decodeChars cs
  | c :: cs => c :: decodeChars cs
  | [] => []

/-- The text that is written with entities. -/
def decode (s : String) : String :=
  String.ofList (decodeChars s.toList)

/-! ### Replacing in turn -/

@[simp]
theorem toList_substitute (c : Char) (text s : String) :
  (substitute c text s).toList = s.toList.flatMap fun d => if d = c then text.toList else [d]
  := String.toList_ofList

/-- Replacing the characters of markup one after another is writing them character by character. -/
theorem encodeInTurn_eq_encode (s : String) :
  encodeInTurn s = encode s
  := by
  rw [← String.toList_inj]
  rw [encodeInTurn, toList_substitute, toList_substitute, toList_substitute, toList_substitute,
    toList_substitute, List.flatMap_assoc, List.flatMap_assoc, List.flatMap_assoc,
    List.flatMap_assoc, toList_encode]
  congr
  funext c
  fun_cases encodeChar c with
  | case1 => decide
  | case2 => decide
  | case3 => decide
  | case4 => decide
  | case5 => decide
  | case6 c hamp hless hgreater hquote hapostrophe =>
    rw [if_neg hamp, List.flatMap_singleton, if_neg hless, List.flatMap_singleton,
      if_neg hgreater, List.flatMap_singleton, if_neg hquote, List.flatMap_singleton,
      if_neg hapostrophe]

/-! ### Written forms -/

/-- A character is written as an entity or as itself. -/
theorem entity_or_self (c : Char) :
  (∃ entity ∈ entities, encodeChar c = entity.toList)
    ∨ encodeChar c = [c] ∧ c ∉ ['&', '<', '>', '"', '\'']
  := by
  fun_cases encodeChar c with
  | case1 => exact .inl ⟨"&amp;", by decide, rfl⟩
  | case2 => exact .inl ⟨"&lt;", by decide, rfl⟩
  | case3 => exact .inl ⟨"&gt;", by decide, rfl⟩
  | case4 => exact .inl ⟨"&quot;", by decide, rfl⟩
  | case5 => exact .inl ⟨"&#039;", by decide, rfl⟩
  | case6 c hamp hless hgreater hquote hapostrophe =>
    right
    use rfl
    simpa using ⟨hamp, hless, hgreater, hquote, hapostrophe⟩

/-- An entity starts with an ampersand, and there are no characters of markup in what follows it. -/
theorem entity_eq_cons {entity : String} (h : entity ∈ entities) :
  ∃ rest, entity.toList = '&' :: rest ∧ ∀ c ∈ rest, c ∉ ['&', '<', '>', '"', '\'']
  := by
  have hall : ∀ e ∈ entities, e.toList.head? = some '&'
      ∧ e.toList.tail.all (· ∉ ['&', '<', '>', '"', '\'']) = true := by
    decide
  obtain ⟨hhead, htail⟩ := hall entity h
  rw [List.all_eq_true] at htail
  use entity.toList.tail, List.eq_cons_of_mem_head? hhead
  exact fun c hc => of_decide_eq_true (htail c hc)

/-- A written text has none of the characters of markup but ampersands. -/
theorem eq_ampersand_of_mem_encode {s : String} {c : Char} (h : c ∈ (encode s).toList)
    (hc : c ∈ ['&', '<', '>', '"', '\'']) :
  c = '&'
  := by
  rw [toList_encode, List.mem_flatMap] at h
  obtain ⟨d, -, hmem⟩ := h
  obtain ⟨entity, hentity, heq⟩ | ⟨heq, hd⟩ := entity_or_self d
  · obtain ⟨rest, hrest, hfree⟩ := entity_eq_cons hentity
    rw [heq, hrest] at hmem
    obtain hmem | hmem := List.mem_cons.mp hmem
    · exact hmem
    · exact absurd hc (hfree c hmem)
  · rw [heq] at hmem
    obtain rfl := List.mem_singleton.mp hmem
    exact absurd hc hd

theorem less_notMem_encode (s : String) :
  '<' ∉ (encode s).toList
  := by
  intro h
  have hampersand := eq_ampersand_of_mem_encode h (by decide)
  exact absurd hampersand (by decide)

/-- Where an ampersand stands in the written form of a character, an entity starts. -/
theorem encodeChar_eq_append {c : Char} {before after : List Char}
    (h : encodeChar c = before ++ '&' :: after) :
  before = [] ∧ ∃ entity ∈ entities, entity.toList = '&' :: after
  := by
  obtain ⟨entity, hentity, heq⟩ | ⟨heq, hc⟩ := entity_or_self c
  · obtain ⟨rest, hrest, hfree⟩ := entity_eq_cons hentity
    rw [heq, hrest] at h
    rcases before with _ | ⟨b, before⟩
    · exact ⟨rfl, entity, hentity, by rw [hrest, h, List.nil_append]⟩
    · obtain ⟨-, rfl⟩ := List.cons.inj h
      exact absurd (by simp) (hfree '&' (by simp))
  · rw [heq] at h
    obtain rfl : '&' = c := by
      have hmem : '&' ∈ [c] := by
        rw [h]
        simp
      exact List.mem_singleton.mp hmem
    exact absurd (by simp) hc

/-- Every ampersand of a written text starts an entity. -/
theorem entity_of_encode_eq_append {cs before after : List Char}
    (h : cs.flatMap encodeChar = before ++ '&' :: after) :
  ∃ entity ∈ entities, entity.toList <+: '&' :: after
  := by
  induction cs generalizing before with
  | nil => simp at h
  | cons c cs ih =>
    rw [List.flatMap_cons, List.append_eq_append_iff] at h
    obtain ⟨before', -, hrest⟩ | ⟨inside, hc, hrest⟩ := h
    · apply ih hrest
    · rcases inside with _ | ⟨b, inside⟩
      · have hrest' : cs.flatMap encodeChar = [] ++ '&' :: after := hrest.symm
        apply ih hrest'
      · obtain ⟨rfl, rfl⟩ := List.cons.inj hrest
        obtain ⟨-, entity, hentity, heq⟩ := encodeChar_eq_append hc
        use entity, hentity
        rw [heq]
        use cs.flatMap encodeChar
        rfl

/-! ### Reading -/

theorem decodeChars_cons {c : Char} (h : c ≠ '&') (cs : List Char) :
  decodeChars (c :: cs) = c :: decodeChars cs
  := by
  rw [decodeChars]
  all_goals
    intros
    simp_all

/-- A written character is read as itself, whatever stands behind it. -/
theorem decodeChars_encodeChar_append (c : Char) (cs : List Char) :
  decodeChars (encodeChar c ++ cs) = c :: decodeChars cs
  := by
  fun_cases encodeChar c with
  | case1 => rfl
  | case2 => rfl
  | case3 => rfl
  | case4 => rfl
  | case5 => rfl
  | case6 c hamp => apply decodeChars_cons hamp

/-- A written text is read as the text that it was written for, whatever stands behind it. -/
theorem decodeChars_flatMap_append (cs ds : List Char) :
  decodeChars (cs.flatMap encodeChar ++ ds) = cs ++ decodeChars ds
  := by
  induction cs with
  | nil => rfl
  | cons c cs ih =>
    rw [List.flatMap_cons, List.append_assoc, decodeChars_encodeChar_append, ih, List.cons_append]

@[simp]
theorem decode_encode (s : String) :
  decode (encode s) = s
  := by
  rw [← String.toList_inj, decode, String.toList_ofList, toList_encode,
    ← List.append_nil (s.toList.flatMap encodeChar), decodeChars_flatMap_append]
  simp [decodeChars]

/-- Writing with entities loses nothing.  The characters of markup may be replaced one after
another, or every character by itself, so that texts that are put together are written one behind
the other; there are no characters of markup in what is written but the ampersands of its entities;
and it is read as the text that it was written for, so that different texts are written
differently. -/
theorem encode_faithful :
  (∀ s, encodeInTurn s = encode s)
    ∧ (∀ s t, encodeInTurn (s ++ t) = encodeInTurn s ++ encodeInTurn t)
    ∧ (∀ s, (∀ c ∈ (encodeInTurn s).toList, c ∉ ['<', '>', '"', '\''])
      ∧ (∀ before after, (encodeInTurn s).toList = before ++ '&' :: after →
        ∃ entity ∈ entities, entity.toList <+: '&' :: after)
      ∧ decode (encodeInTurn s) = s)
    ∧ ∀ s t, encodeInTurn s = encodeInTurn t → s = t
  := by
  use encodeInTurn_eq_encode
  simp only [encodeInTurn_eq_encode]
  use encode_append
  constructor
  · intro s
    constructor
    · intro c hc hmarkup
      obtain rfl := eq_ampersand_of_mem_encode hc (List.mem_cons_of_mem '&' hmarkup)
      exact absurd hmarkup (by decide)
    · constructor
      · intro before after h
        rw [toList_encode] at h
        apply entity_of_encode_eq_append h
      · apply decode_encode
  · intro s t h
    rw [← decode_encode s, h, decode_encode]

/-- A text that looks like an entity, and one that looks like it once it is read. -/
theorem encode_faithful_entities :
  encodeInTurn "&lt;&" = "&amp;lt;&amp;" ∧ decode "&amp;lt;&amp;" = "&lt;&"
    ∧ (∃ entity ∈ entities, entity.toList <+: "&amp;".toList)
    ∧ encodeInTurn "&lt;&" ≠ encodeInTurn "<&"
  := by
  obtain ⟨-, -, hwritten, hinjective⟩ := encode_faithful
  have hencode : encodeInTurn "&lt;&" = "&amp;lt;&amp;" := by
    decide
  obtain ⟨-, hentity, hdecode⟩ := hwritten "&lt;&"
  rw [hencode] at hentity hdecode
  use hencode, hdecode
  constructor
  · apply hentity "&amp;lt;".toList "amp;".toList
    decide
  · intro hsame
    exact absurd (hinjective _ _ hsame) (by decide)

end Gallery.Text.Entity

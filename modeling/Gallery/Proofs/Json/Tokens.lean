import Gallery.Json
import Gallery.Proofs.Text.Percent

/-!
# Tokens of JSON texts

A JSON text is a sequence of tokens with blanks between them: signs, words and strings.  `tokens?`
finds them as the format prescribes.  In a string a backslash begins an escape, control characters
cannot stand for themselves, and a character beyond the sixteen-bit range can be written as two
escapes, one for each of its surrogates.  Numbers are not read, since `Json` has none.

A value that is written out has the tokens `Json.tokens`, whatever its indentation
(`tokensFrom_pretty`).
-/

namespace Gallery.Json

open Text.Percent (digitValue?)

/-- A token of a JSON text. -/
inductive Token where
  | openArr
  | closeArr
  | openObj
  | closeObj
  | comma
  | colon
  | null
  | bool (b : Bool)
  | str (s : String)
  deriving DecidableEq, Repr

/-! ### Finding tokens -/

/-- A character that can stand between tokens. -/
def isBlank (c : Char) : Bool :=
  c = ' ' || c = '\t' || c = '\n' || c = '\r'

/-- The token that consists of a single sign. -/
def sign? (c : Char) : Option Token :=
  match c with
  | '[' => some .openArr
  | ']' => some .closeArr
  | '\x7b' => some .openObj
  | '\x7d' => some .closeObj
  | ',' => some .comma
  | ':' => some .colon
  | _ => none

/-- The character that a letter stands for behind a backslash. -/
def shortEscape? (c : Char) : Option Char :=
  match c with
  | '"' => some '"'
  | '\\' => some '\\'
  | '/' => some '/'
  | 'b' => some '\x08'
  | 'f' => some '\x0c'
  | 'n' => some '\n'
  | 'r' => some '\r'
  | 't' => some '\t'
  | _ => none

/-- The code unit written by four hexadecimal digits. -/
def codeUnit? (a b c d : Char) : Option Nat := do
  return 4096 * (← digitValue? a) + 256 * (← digitValue? b) + 16 * (← digitValue? c)
    + (← digitValue? d)

/-- The code unit is the first of two surrogates. -/
def isHighSurrogate (unit : Nat) : Bool :=
  0xD800 ≤ unit && unit < 0xDC00

/-- The code unit is the second of two surrogates. -/
def isLowSurrogate (unit : Nat) : Bool :=
  0xDC00 ≤ unit && unit < 0xE000

/-- The character of two surrogates. -/
def ofSurrogates (high low : Nat) : Char :=
  Char.ofNat (0x10000 + 0x400 * (high - 0xD800) + (low - 0xDC00))

/-- Where in a text a reader is. -/
inductive Place where
  /-- Between two tokens. -/
  | between
  /-- In a string, behind the given characters. -/
  | inString (before : List Char)
  /-- In a string, behind the given characters and the first of two surrogates. -/
  | inPair (before : List Char) (high : Nat)

/-- The tokens of the rest of a text. -/
def tokensFrom : Place → List Char → Option (List Token)
  | .between, [] => some []
  | .between, 'n' :: 'u' :: 'l' :: 'l' :: cs => (tokensFrom .between cs).map (.null :: ·)
  | .between, 't' :: 'r' :: 'u' :: 'e' :: cs => (tokensFrom .between cs).map (.bool true :: ·)
  | .between, 'f' :: 'a' :: 'l' :: 's' :: 'e' :: cs =>
    (tokensFrom .between cs).map (.bool false :: ·)
  | .between, '"' :: cs => tokensFrom (.inString []) cs
  | .between, c :: cs =>
    if isBlank c then tokensFrom .between cs
    else
      match sign? c with
      | some token => (tokensFrom .between cs).map (token :: ·)
      | none => none
  | .inString before, '"' :: cs => (tokensFrom .between cs).map (.str (String.ofList before) :: ·)
  | .inString before, '\\' :: 'u' :: a :: b :: c :: d :: cs =>
    match codeUnit? a b c d with
    | some unit =>
      if isHighSurrogate unit then tokensFrom (.inPair before unit) cs
      else if isLowSurrogate unit then none
      else tokensFrom (.inString (before ++ [Char.ofNat unit])) cs
    | none => none
  | .inString before, '\\' :: c :: cs =>
    match shortEscape? c with
    | some meant => tokensFrom (.inString (before ++ [meant])) cs
    | none => none
  | .inString before, c :: cs =>
    if c.toNat < 0x20 then none else tokensFrom (.inString (before ++ [c])) cs
  | .inString _, [] => none
  | .inPair before high, '\\' :: 'u' :: a :: b :: c :: d :: cs =>
    match codeUnit? a b c d with
    | some unit =>
      if isLowSurrogate unit then
        tokensFrom (.inString (before ++ [ofSurrogates high unit])) cs
      else none
    | none => none
  | .inPair _ _, _ => none

/-- The tokens of a text. -/
def tokens? (s : String) : Option (List Token) :=
  tokensFrom .between s.toList

/-! ### The tokens of a value -/

mutual

/-- The tokens of a value. -/
def tokens : Json → List Token
  | .null => [.null]
  | .bool b => [.bool b]
  | .str s => [.str s]
  | .arr [] => [.openArr, .closeArr]
  | .arr (v :: vs) => .openArr :: (v.tokens ++ itemTokens vs)
  | .obj [] => [.openObj, .closeObj]
  | .obj ((k, v) :: fs) => .openObj :: .str k :: .colon :: (v.tokens ++ fieldTokens fs)

/-- The tokens of the items that follow another one, and of the end of the array. -/
def itemTokens : List Json → List Token
  | [] => [.closeArr]
  | v :: vs => .comma :: (v.tokens ++ itemTokens vs)

/-- The tokens of the fields that follow another one, and of the end of the object. -/
def fieldTokens : List (String × Json) → List Token
  | [] => [.closeObj]
  | (k, v) :: fs => .comma :: .str k :: .colon :: (v.tokens ++ fieldTokens fs)

end

/-! ### Strings -/

theorem digitValue?_digitChar :
  ∀ n < 16, digitValue? (Nat.digitChar n) = some n
  := by
  decide

/-- The four digits of a code unit stand for it. -/
theorem codeUnit?_hex4 {n : Nat} (h : n < 65536) :
  codeUnit? (Nat.digitChar (n / 4096 % 16)) (Nat.digitChar (n / 256 % 16))
    (Nat.digitChar (n / 16 % 16)) (Nat.digitChar (n % 16)) = some n
  := by
  have hsum : 4096 * (n / 4096 % 16) + 256 * (n / 256 % 16) + 16 * (n / 16 % 16) + n % 16 = n := by
    omega
  simp only [codeUnit?, digitValue?_digitChar _ (Nat.mod_lt _ (by decide : 16 > 0)),
    Option.bind_eq_bind, Option.bind_some, Option.pure_def, hsum]

/-- A character is written with a short escape, by its number, or as itself. -/
theorem encodeChar_cases (c : Char) :
  (∃ e, encodeChar c = ['\\', e] ∧ e ≠ 'u' ∧ shortEscape? e = some c)
    ∨ (encodeChar c = ['\\', 'u'] ++ hex4 c.toNat ∧ c.toNat < 0x20)
    ∨ (encodeChar c = [c] ∧ c ≠ '"' ∧ c ≠ '\\' ∧ ¬ c.toNat < 0x20)
  := by
  by_cases hshort : c ∈ ['"', '\\', '\n', '\r', '\t', '\x08', '\x0c']
  · left
    simp only [List.mem_cons, List.not_mem_nil, or_false] at hshort
    obtain rfl | rfl | rfl | rfl | rfl | rfl | rfl := hshort
    · exact ⟨'"', by decide⟩
    · exact ⟨'\\', by decide⟩
    · exact ⟨'n', by decide⟩
    · exact ⟨'r', by decide⟩
    · exact ⟨'t', by decide⟩
    · exact ⟨'b', by decide⟩
    · exact ⟨'f', by decide⟩
  · right
    simp only [List.mem_cons, List.not_mem_nil, or_false, not_or] at hshort
    by_cases hcontrol : c.toNat < 0x20
    · left
      simp [encodeChar, hshort, hcontrol]
    · right
      simp [encodeChar, hshort, hcontrol]

/-- A written character of a string is read as that character. -/
theorem tokensFrom_encodeChar (before : List Char) (c : Char) (cs : List Char) :
  tokensFrom (.inString before) (encodeChar c ++ cs) = tokensFrom (.inString (before ++ [c])) cs
  := by
  obtain ⟨e, he, hne, hmeant⟩ | ⟨hcode, hlt⟩ | ⟨hself, hquote, hslash, hle⟩ := encodeChar_cases c
  · rw [he, List.cons_append, List.cons_append, List.nil_append, tokensFrom]
    · simp only [hmeant]
    · simp [hne]
  · have hhigh : isHighSurrogate c.toNat = false := by
      simp [isHighSurrogate]
      omega
    have hlow : isLowSurrogate c.toNat = false := by
      simp [isLowSurrogate]
      omega
    have hunit := codeUnit?_hex4 (n := c.toNat) (by omega)
    rw [hcode, hex4]
    simp only [List.map_cons, List.map_nil, List.cons_append, List.nil_append]
    rw [tokensFrom]
    simp [hunit, hhigh, hlow]
  · rw [hself, List.singleton_append, tokensFrom]
    · rw [if_neg hle]
    · exact hquote
    · intro _ _ _ _ _ hstart
      apply absurd hstart hslash
    · intro _ _ hstart
      apply absurd hstart hslash

/-- Some tokens before those of the rest of a text. -/
def prepend (ts : List Token) (rest : Option (List Token)) : Option (List Token) :=
  rest.map (ts ++ ·)

theorem prepend_prepend (ts ts' : List Token) (rest : Option (List Token)) :
  prepend ts (prepend ts' rest) = prepend (ts ++ ts') rest
  := by
  cases rest <;> simp [prepend]

/-- A written string is one token. -/
theorem tokensFrom_quote (s : String) (cs : List Char) :
  tokensFrom .between ((quote s).toList ++ cs) = prepend [.str s] (tokensFrom .between cs)
  := by
  have hbody : ∀ before after, tokensFrom (.inString before)
      (after.flatMap encodeChar ++ '"' :: cs)
        = prepend [.str (String.ofList (before ++ after))] (tokensFrom .between cs) := by
    intro before after
    induction after generalizing before with
    | nil => simp [tokensFrom, prepend]
    | cons c after ih =>
      rw [List.flatMap_cons, List.append_assoc, tokensFrom_encodeChar, ih, List.append_assoc,
        List.singleton_append]
  simp [quote, tokensFrom, hbody]

/-! ### Signs and blanks -/

theorem tokensFrom_sign {c : Char} {token : Token} (h : sign? c = some token) (cs : List Char) :
  tokensFrom .between (c :: cs) = prepend [token] (tokensFrom .between cs)
  := by
  unfold sign? at h
  split at h <;> cases h <;> simp [tokensFrom, isBlank, sign?, prepend]

theorem tokensFrom_blank (cs : List Char) :
  tokensFrom .between (' ' :: cs) = tokensFrom .between cs
  := by
  simp [tokensFrom, isBlank]

theorem tokensFrom_newLine (depth : Nat) (cs : List Char) :
  tokensFrom .between ((newLine depth).toList ++ cs) = tokensFrom .between cs
  := by
  have hblanks : ∀ n, tokensFrom .between (List.replicate n ' ' ++ cs) = tokensFrom .between cs := by
    intro n
    induction n with
    | zero => rfl
    | succ n ih => rw [List.replicate_succ, List.cons_append, tokensFrom_blank, ih]
  simp [newLine, tokensFrom, isBlank, hblanks]

/-! ### Values -/

mutual

/-- A written value is read as the tokens of the value. -/
theorem tokensFrom_pretty : ∀ (depth : Nat) (v : Json) (cs : List Char),
    tokensFrom .between ((v.pretty depth).toList ++ cs) = prepend v.tokens (tokensFrom .between cs)
  | _, .null, cs => by
    simp [pretty, tokensFrom, tokens, prepend]
  | _, .bool true, cs => by
    simp [pretty, tokensFrom, tokens, prepend]
  | _, .bool false, cs => by
    simp [pretty, tokensFrom, tokens, prepend]
  | _, .str s, cs => by
    rw [pretty, tokensFrom_quote, tokens]
  | _, .arr [], cs => by
    simp only [pretty, String.reduceToList, List.cons_append, List.nil_append]
    rw [tokensFrom_sign rfl, tokensFrom_sign rfl, prepend_prepend]
    rfl
  | depth, .arr (v :: vs), cs => by
    simp only [pretty, String.toList_append, String.reduceToList, List.append_assoc,
      List.cons_append, List.nil_append]
    rw [tokensFrom_sign rfl, tokensFrom_newLine, tokensFrom_pretty, tokensFrom_prettyItems,
      prepend_prepend, prepend_prepend]
    rfl
  | _, .obj [], cs => by
    simp only [pretty, String.reduceToList, List.cons_append, List.nil_append]
    rw [tokensFrom_sign rfl, tokensFrom_sign rfl, prepend_prepend]
    rfl
  | depth, .obj ((k, v) :: fs), cs => by
    simp only [pretty, String.toList_append, String.reduceToList, List.append_assoc,
      List.cons_append, List.nil_append]
    rw [tokensFrom_sign rfl, tokensFrom_newLine, tokensFrom_quote, tokensFrom_sign rfl,
      tokensFrom_blank, tokensFrom_pretty, tokensFrom_prettyFields, prepend_prepend,
      prepend_prepend, prepend_prepend, prepend_prepend]
    rfl

/-- The written items behind another one are read as their tokens, up to the end of the array. -/
theorem tokensFrom_prettyItems : ∀ (depth : Nat) (vs : List Json) (cs : List Char),
    tokensFrom .between
        ((prettyItems (depth + 1) vs).toList ++ ((newLine depth).toList ++ ']' :: cs))
      = prepend (itemTokens vs) (tokensFrom .between cs)
  | depth, [], cs => by
    rw [prettyItems, String.toList_empty, List.nil_append, tokensFrom_newLine,
      tokensFrom_sign rfl, itemTokens]
  | depth, v :: vs, cs => by
    simp only [prettyItems, String.toList_append, String.reduceToList, List.append_assoc,
      List.cons_append, List.nil_append]
    rw [tokensFrom_sign rfl, tokensFrom_newLine, tokensFrom_pretty, tokensFrom_prettyItems,
      prepend_prepend, prepend_prepend]
    rfl

/-- The written fields behind another one are read as their tokens, up to the end of the object. -/
theorem tokensFrom_prettyFields : ∀ (depth : Nat) (fs : List (String × Json)) (cs : List Char),
    tokensFrom .between
        ((prettyFields (depth + 1) fs).toList ++ ((newLine depth).toList ++ '\x7d' :: cs))
      = prepend (fieldTokens fs) (tokensFrom .between cs)
  | depth, [], cs => by
    rw [prettyFields, String.toList_empty, List.nil_append, tokensFrom_newLine,
      tokensFrom_sign rfl, fieldTokens]
  | depth, (k, v) :: fs, cs => by
    simp only [prettyFields, String.toList_append, String.reduceToList, List.append_assoc,
      List.cons_append, List.nil_append]
    rw [tokensFrom_sign rfl, tokensFrom_newLine, tokensFrom_quote, tokensFrom_sign rfl,
      tokensFrom_blank, tokensFrom_pretty, tokensFrom_prettyFields, prepend_prepend,
      prepend_prepend, prepend_prepend, prepend_prepend]
    rfl

end

end Gallery.Json

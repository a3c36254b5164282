import Gallery.Proofs.Json.Tokens

/-!
# Reading JSON texts

`Json.read?` reads the value of a JSON text; it refuses a text that is not one, and one with a
number in it.  The fields of an object are read in their order, also when a key occurs twice.

A value that is written out is read as it was (`read?_pretty`), so no two values have the same
written form.
-/

namespace Gallery.Json

/-! ### Reading tokens -/

mutual

/-- The value at the beginning of some tokens, and the tokens behind it.  The number limits how far
is read; no value takes more than the number of its tokens. -/
def value? : Nat → List Token → Option (Json × List Token)
  | _ + 1, .null :: ts => some (.null, ts)
  | _ + 1, .bool b :: ts => some (.bool b, ts)
  | _ + 1, .str s :: ts => some (.str s, ts)
  | _ + 1, .openArr :: .closeArr :: ts => some (.arr [], ts)
  | n + 1, .openArr :: ts => do
    let (v, ts) ← value? n ts
    let (vs, ts) ← moreItems? n ts
    return (.arr (v :: vs), ts)
  | _ + 1, .openObj :: .closeObj :: ts => some (.obj [], ts)
  | n + 1, .openObj :: .str k :: .colon :: ts => do
    let (v, ts) ← value? n ts
    let (fs, ts) ← moreFields? n ts
    return (.obj ((k, v) :: fs), ts)
  | _, _ => none

/-- The items that follow another one up to the end of the array, and the tokens behind it. -/
def moreItems? : Nat → List Token → Option (List Json × List Token)
  | _ + 1, .closeArr :: ts => some ([], ts)
  | n + 1, .comma :: ts => do
    let (v, ts) ← value? n ts
    let (vs, ts) ← moreItems? n ts
    return (v :: vs, ts)
  | _, _ => none

/-- The fields that follow another one up to the end of the object, and the tokens behind it. -/
def moreFields? : Nat → List Token → Option (List (String × Json) × List Token)
  | _ + 1, .closeObj :: ts => some ([], ts)
  | n + 1, .comma :: .str k :: .colon :: ts => do
    let (v, ts) ← value? n ts
    let (fs, ts) ← moreFields? n ts
    return ((k, v) :: fs, ts)
  | _, _ => none

end

/-- The value of a JSON text. -/
def read? (s : String) : Option Json := do
  let ts ← tokens? s
  match ← value? ts.length ts with
  | (v, []) => some v
  | _ => none

/-! ### Values -/

/-- No value begins with the end of an array. -/
theorem tokens_ne_closeArr (v : Json) (ts ts' : List Token) :
  v.tokens ++ ts ≠ .closeArr :: ts'
  := by
  cases v with
  | arr vs => cases vs <;> simp [tokens]
  | obj fs => cases fs <;> simp [tokens]
  | _ => simp [tokens]

mutual

/-- The tokens of a value are read as that value. -/
theorem value?_tokens : ∀ (v : Json) (n : Nat) (ts : List Token), v.tokens.length ≤ n →
    value? n (v.tokens ++ ts) = some (v, ts)
  | .null, n, ts, h => by
    obtain ⟨m, rfl⟩ := Nat.exists_eq_add_of_le' h
    rfl
  | .bool b, n, ts, h => by
    obtain ⟨m, rfl⟩ := Nat.exists_eq_add_of_le' h
    rfl
  | .str s, n, ts, h => by
    obtain ⟨m, rfl⟩ := Nat.exists_eq_add_of_le' h
    rfl
  | .arr [], n, ts, h => by
    obtain ⟨m, rfl⟩ := Nat.exists_eq_add_of_le' h
    rfl
  | .arr (v :: vs), n, ts, h => by
    simp only [tokens, List.length_cons, List.length_append] at h
    obtain ⟨m, rfl⟩ : ∃ m, n = m + 1 := ⟨n - 1, by omega⟩
    rw [tokens, List.cons_append, List.append_assoc, value?]
    · rw [value?_tokens v m _ (by omega)]
      simp only [Option.bind_eq_bind, Option.bind_some]
      rw [moreItems?_itemTokens vs m ts (by omega)]
      rfl
    · apply tokens_ne_closeArr
  | .obj [], n, ts, h => by
    obtain ⟨m, rfl⟩ := Nat.exists_eq_add_of_le' h
    rfl
  | .obj ((k, v) :: fs), n, ts, h => by
    simp only [tokens, List.length_cons, List.length_append] at h
    obtain ⟨m, rfl⟩ : ∃ m, n = m + 1 := ⟨n - 1, by omega⟩
    rw [tokens, List.cons_append, List.cons_append, List.cons_append, List.append_assoc, value?,
      value?_tokens v m _ (by omega)]
    simp only [Option.bind_eq_bind, Option.bind_some]
    rw [moreFields?_fieldTokens fs m ts (by omega)]
    rfl

/-- The tokens of the items that follow another one are read as these items. -/
theorem moreItems?_itemTokens : ∀ (vs : List Json) (n : Nat) (ts : List Token),
    (itemTokens vs).length ≤ n → moreItems? n (itemTokens vs ++ ts) = some (vs, ts)
  | [], n, ts, h => by
    obtain ⟨m, rfl⟩ := Nat.exists_eq_add_of_le' h
    rfl
  | v :: vs, n, ts, h => by
    simp only [itemTokens, List.length_cons, List.length_append] at h
    obtain ⟨m, rfl⟩ : ∃ m, n = m + 1 := ⟨n - 1, by omega⟩
    rw [itemTokens, List.cons_append, List.append_assoc, moreItems?,
      value?_tokens v m _ (by omega)]
    simp only [Option.bind_eq_bind, Option.bind_some]
    rw [moreItems?_itemTokens vs m ts (by omega)]
    rfl

/-- The tokens of the fields that follow another one are read as these fields. -/
theorem moreFields?_fieldTokens : ∀ (fs : List (String × Json)) (n : Nat) (ts : List Token),
    (fieldTokens fs).length ≤ n → moreFields? n (fieldTokens fs ++ ts) = some (fs, ts)
  | [], n, ts, h => by
    obtain ⟨m, rfl⟩ := Nat.exists_eq_add_of_le' h
    rfl
  | (k, v) :: fs, n, ts, h => by
    simp only [fieldTokens, List.length_cons, List.length_append] at h
    obtain ⟨m, rfl⟩ : ∃ m, n = m + 1 := ⟨n - 1, by omega⟩
    rw [fieldTokens, List.cons_append, List.cons_append, List.cons_append, List.append_assoc,
      moreFields?, value?_tokens v m _ (by omega)]
    simp only [Option.bind_eq_bind, Option.bind_some]
    rw [moreFields?_fieldTokens fs m ts (by omega)]
    rfl

end

/-- A value that is written out, and ended by a line feed, is read as it was. -/
theorem read?_pretty (v : Json) (depth : Nat) :
  read? (v.pretty depth ++ "\n") = some v
  := by
  have htokens : tokens? (v.pretty depth ++ "\n") = some v.tokens := by
    rw [tokens?, String.toList_append, tokensFrom_pretty]
    simp [tokensFrom, isBlank, prepend]
  have hvalue := value?_tokens v v.tokens.length [] (Nat.le_refl _)
  rw [List.append_nil] at hvalue
  simp [read?, htokens, hvalue]

/-- Escapes are read as the format prescribes, two surrogates as one character. -/
example : read? "[ \"\\ud83d\\uDE00\\/\", null]\t" = some (.arr [.str "😀/", .null]) := rfl

end Gallery.Json

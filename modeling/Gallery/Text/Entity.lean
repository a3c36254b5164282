/-!
# Entities, quoted literals and percent encoding

In markup the five characters with a meaning of their own are written as entities, and in the
body of a literal between single quotes a backslash stands before every quote and every
backslash.  All other characters are written as themselves.

A file name becomes one segment of a relative link.  Printable ASCII characters without a
meaning in links stand for themselves, the others are written byte by byte as a percent sign
and two hexadecimal digits; the line breaks and the tabulator cannot stand in a link and are
left out.
-/

namespace Gallery.Text

/-! ### Entities -/

namespace Entity

/-- The written form of a character. -/
def encodeChar : Char → List Char
  | '&' => "&amp;".toList
  | '<' => "&lt;".toList
  | '>' => "&gt;".toList
  | '"' => "&quot;".toList
  | '\'' => "&#039;".toList
  | c => [c]

/-- The text with the characters of markup written as entities. -/
def encode (s : String) : String :=
  String.ofList (s.toList.flatMap encodeChar)

@[simp]
theorem toList_encode (s : String) :
  (encode s).toList = s.toList.flatMap encodeChar
  := String.toList_ofList

/-- Encoding goes character by character, so it respects concatenation. -/
theorem encode_append (s t : String) :
  encode (s ++ t) = encode s ++ encode t
  := by
  apply String.ext
  simp

end Entity

/-! ### Quoted literals -/

namespace Quoted

/-- The written form of a character. -/
def encodeChar : Char → List Char
  | '\\' => ['\\', '\\']
  | '\'' => ['\\', '\'']
  | c => [c]

/-- The body of the literal of a text. -/
def encode (s : String) : String :=
  String.ofList (s.toList.flatMap encodeChar)

@[simp]
theorem toList_encode (s : String) :
  (encode s).toList = s.toList.flatMap encodeChar
  := String.toList_ofList

end Quoted

/-! ### Percent encoding -/

namespace Percent

/-- The characters that are left out of a link. -/
def isDropped (c : Char) : Bool :=
  c = '\t' || c = '\n' || c = '\r'

/-- The printable characters that are not written as themselves. -/
def reserved : List Char :=
  [' ', '"', '#', '%', '/', '<', '>', '?', '\\', '\x60', '\x7b', '\x7d']

/-- The characters that stand for themselves: printable ASCII that is not reserved. -/
def isPlain (c : Char) : Bool :=
  0x20 ≤ c.toNat && c.toNat ≤ 0x7E && !reserved.contains c

/-- The hexadecimal digit of a number below sixteen. -/
def hexDigit (n : Nat) : Char :=
  "0123456789ABCDEF".toList.getD n '0'

/-- The written form of a byte. -/
def encodeByte (b : UInt8) : List Char :=
  ['%', hexDigit (b.toNat / 16), hexDigit (b.toNat % 16)]

/-- The written form of a character. -/
def encodeChar (c : Char) : List Char :=
  if isDropped c then []
  else if isPlain c then [c]
  else (String.utf8EncodeChar c).flatMap encodeByte

/-- The link segment of a file name. -/
def encode (s : String) : String :=
  String.ofList (s.toList.flatMap encodeChar)

@[simp]
theorem toList_encode (s : String) :
  (encode s).toList = s.toList.flatMap encodeChar
  := String.toList_ofList

end Percent

end Gallery.Text

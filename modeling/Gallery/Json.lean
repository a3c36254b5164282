/-!
# JSON values

`Json` is the part of the values of JSON that pages are made of; the fields of an object keep
their order.  `Json.pretty` writes a value over several lines, each level indented by two
blanks.
-/

namespace Gallery

/-- A JSON value without numbers. -/
inductive Json where
  | null
  | bool (b : Bool)
  | str (s : String)
  | arr (items : List Json)
  | obj (fields : List (String × Json))
  deriving Repr, Inhabited

namespace Json

/-- The four hexadecimal digits of a code point below 65536. -/
def hex4 (n : Nat) : List Char :=
  [n / 4096 % 16, n / 256 % 16, n / 16 % 16, n % 16].map Nat.digitChar

/-- The written form of a character of a string: quotes, backslashes and control characters are
escaped, with a short form for those that have one. -/
def encodeChar (c : Char) : List Char :=
  if c = '"' then ['\\', '"']
  else if c = '\\' then ['\\', '\\']
  else if c = '\n' then ['\\', 'n']
  else if c = '\r' then ['\\', 'r']
  else if c = '\t' then ['\\', 't']
  else if c = '\x08' then ['\\', 'b']
  else if c = '\x0c' then ['\\', 'f']
  else if c.toNat < 0x20 then ['\\', 'u'] ++ hex4 c.toNat
  else [c]

/-- The written form of a string. -/
def quote (s : String) : String :=
  String.ofList (['"'] ++ s.toList.flatMap encodeChar ++ ['"'])

/-- A line break, and the indentation of a line at the given depth. -/
def newLine (depth : Nat) : String :=
  "\n" ++ String.ofList (List.replicate (2 * depth) ' ')

mutual
/-- The written form of a value that starts on a line of the given depth. -/
def pretty (depth : Nat) : Json → String
  | .null => "null"
  | .bool true => "true"
  | .bool false => "false"
  | .str s => quote s
  | .arr [] => "[]"
  | .arr (v :: vs) =>
    "[" ++ newLine (depth + 1) ++ pretty (depth + 1) v ++ prettyItems (depth + 1) vs
      ++ newLine depth ++ "]"
  | .obj [] => "\x7b\x7d"
  | .obj ((k, v) :: fs) =>
    "\x7b" ++ newLine (depth + 1) ++ quote k ++ ": " ++ pretty (depth + 1) v
      ++ prettyFields (depth + 1) fs ++ newLine depth ++ "\x7d"

/-- The written form of the items that follow another one. -/
def prettyItems (depth : Nat) : List Json → String
  | [] => ""
  | v :: vs => "," ++ newLine depth ++ pretty depth v ++ prettyItems depth vs

/-- The written form of the fields that follow another one. -/
def prettyFields (depth : Nat) : List (String × Json) → String
  | [] => ""
  | (k, v) :: fs =>
    "," ++ newLine depth ++ quote k ++ ": " ++ pretty depth v ++ prettyFields depth fs
end

end Json

end Gallery

import BoxPuzzle.Json.Token

/-!
# Writing JSON

The compact form: no blanks, and in strings only the quote, the backslash and the control
characters below U+0020 are escaped.

* `Json.tokens`: the tokens of a value;
* `Token.chars`: a token's spelling;
* `Json.write`: the text of a value.
-/

namespace BoxPuzzle

/-! ## The tokens of a value -/

/-- The lists with a comma between each two. -/
def withCommas : List (List Token) → List Token
  | [] => []
  | [ts] => ts
  | ts :: us :: rest => ts ++ .comma :: withCommas (us :: rest)

mutual

/-- The tokens of a value. -/
def Json.tokens : Json → List Token
  | .null => [.null]
  | .bool b => [.bool b]
  | .number n => [.number n]
  | .text s => [.text s]
  | .array items => .arrayOpen :: withCommas (Json.itemTokens items) ++ [.arrayClose]
  | .object members => .objectOpen :: withCommas (Json.memberTokens members) ++ [.objectClose]

/-- The tokens of each item. -/
def Json.itemTokens : List Json → List (List Token)
  | [] => []
  | j :: js => j.tokens :: Json.itemTokens js

/-- The tokens of each member. -/
def Json.memberTokens : List (Option String × Json) → List (List Token)
  | [] => []
  | (name, j) :: ms => (.text name :: .colon :: j.tokens) :: Json.memberTokens ms

end

/-! ## Spelling -/

/-- The lower-case hexadecimal digit. -/
def hexDigit (n : Nat) : Char := Nat.digitChar n

/-- A character inside a string. -/
def escapeChar (c : Char) : List Char :=
  if c = '"' then ['\\', '"']
  else if c = '\\' then ['\\', '\\']
  else if c = '\x08' then ['\\', 'b']
  else if c = '\x0c' then ['\\', 'f']
  else if c = '\n' then ['\\', 'n']
  else if c = '\r' then ['\\', 'r']
  else if c = '\t' then ['\\', 't']
  else if c.toNat < 0x20 then
    ['\\', 'u', '0', '0', hexDigit (c.toNat / 16), hexDigit (c.toNat % 16)]
  else [c]

/-- A string in quotes. -/
def quote (cs : List Char) : List Char := '"' :: cs.flatMap escapeChar ++ ['"']

/-- The spelling of an exponent. -/
def exponentChars : Int → List Char
  | .ofNat n => 'e' :: numeral n
  | .negSucc n => 'e' :: '-' :: numeral (n + 1)

/-- The spelling of a number. -/
def Number.chars (n : Number) : List Char :=
  (if n.negative then ['-'] else []) ++ numeral n.whole ++
    (if n.fraction = [] then [] else '.' :: n.fraction.map fun d => Nat.digitChar d.val) ++
    (match n.exponent with
      | some e => exponentChars e
      | none => [])

/-- The spelling of a token; a string that names no text is spelled as half a surrogate pair. -/
def Token.chars : Token → List Char
  | .arrayOpen => ['[']
  | .arrayClose => [']']
  | .objectOpen => ['{']
  | .objectClose => ['}']
  | .colon => [':']
  | .comma => [',']
  | .null => ['n', 'u', 'l', 'l']
  | .bool true => ['t', 'r', 'u', 'e']
  | .bool false => ['f', 'a', 'l', 's', 'e']
  | .number n => n.chars
  | .text (some s) => quote s.toList
  | .text none => ['"', '\\', 'u', 'd', '8', '0', '0', '"']

/-- The compact text of a value. -/
def Json.write (j : Json) : String := String.ofList (j.tokens.flatMap Token.chars)

end BoxPuzzle

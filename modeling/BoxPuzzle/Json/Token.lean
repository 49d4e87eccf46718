import BoxPuzzle.Json.Value
import BoxPuzzle.Text.Numeral

/-!
# JSON tokens

A text is read one character at a time. Between lexemes stand blanks; a punctuation mark is a
lexeme of its own; a string runs from quote to quote; every other maximal run of characters is an
atom, which has to be a literal or a number.

* `Token`: what a lexeme says;
* `Number.ofChars?`, `Token.ofAtom?`: reading an atom;
* `Piece`, `combine?`: the text named by the characters and escapes of a string;
* `Lexing`, `Lexing.step`, `Lexing.finish?`: the scan;
* `Token.scan?`: all tokens of a text.
-/

namespace BoxPuzzle

/-- A lexeme. -/
inductive Token where
  | arrayOpen
  | arrayClose
  | objectOpen
  | objectClose
  | colon
  | comma
  | null
  | bool (b : Bool)
  | number (n : Number)
  | text (s : Option String)
deriving DecidableEq, Repr

/-! ## Atoms -/

/-- The value of a digit, as one of ten. -/
def digitFin (c : Char) : Fin 10 := Fin.ofNat 10 (digitValue c)

namespace Number

/-- Reads the exponent part, which may be missing, after a mantissa. -/
def withExponent? (n : Number) : List Char → Option Number
  | [] => some n
  | c :: cs =>
    if c = 'e' ∨ c = 'E' then (readInt? cs).map fun e => { n with exponent := some e }
    else none

/-- Reads the fraction and exponent parts, which may be missing, after the whole part. -/
def withFraction? (n : Number) : List Char → Option Number
  | '.' :: cs =>
    let ds := cs.takeWhile Char.isDigit
    if ds = [] then none
    else withExponent? { n with fraction := ds.map digitFin } (cs.dropWhile Char.isDigit)
  | cs => withExponent? n cs

/-- Reads a number without sign: no digit follows a leading zero. -/
def ofUnsigned? (negative : Bool) (cs : List Char) : Option Number :=
  let ds := cs.takeWhile Char.isDigit
  if ds = [] ∨ (ds.head? = some '0' ∧ ds.length ≠ 1) then none
  else withFraction? { negative, whole := digitsValue ds } (cs.dropWhile Char.isDigit)

/-- Reads a number. -/
def ofChars? : List Char → Option Number
  | '-' :: cs => ofUnsigned? true cs
  | cs => ofUnsigned? false cs

end Number

/-- Reads an atom: a literal or a number. -/
def Token.ofAtom? (cs : List Char) : Option Token :=
  if cs = ['n', 'u', 'l', 'l'] then some .null
  else if cs = ['t', 'r', 'u', 'e'] then some (.bool true)
  else if cs = ['f', 'a', 'l', 's', 'e'] then some (.bool false)
  else (Number.ofChars? cs).map .number

/-! ## Strings -/

/-- A piece of a string: a character, or a 16-bit unit that an escape names. -/
inductive Piece where
  | char (c : Char)
  | unit (u : Nat)
deriving DecidableEq, Repr

/-- The unit is the first half of a surrogate pair. -/
def isHighSurrogate (u : Nat) : Bool := 0xD800 ≤ u && u < 0xDC00

/-- The unit is the second half of a surrogate pair. -/
def isLowSurrogate (u : Nat) : Bool := 0xDC00 ≤ u && u < 0xE000

/-- The characters that the pieces name, unless half of a surrogate pair stands alone. -/
def combine? : List Piece → Option (List Char)
  | [] => some []
  | .char c :: ps => (combine? ps).map (c :: ·)
  | .unit u :: ps =>
    if isHighSurrogate u then
      match ps with
      | .unit v :: qs =>
        if isLowSurrogate v then
          (combine? qs).map (Char.ofNat (0x10000 + (u - 0xD800) * 0x400 + (v - 0xDC00)) :: ·)
        else none
      | _ => none
    else if isLowSurrogate u then none
    else (combine? ps).map (Char.ofNat u :: ·)

/-- The character that a one-letter escape names. -/
def escaped? : Char → Option Char
  | '"' => some '"'
  | '\\' => some '\\'
  | '/' => some '/'
  | 'b' => some '\x08'
  | 'f' => some '\x0c'
  | 'n' => some '\n'
  | 'r' => some '\r'
  | 't' => some '\t'
  | _ => none

/-- The value of a hexadecimal digit. -/
def hexValue? (c : Char) : Option Nat :=
  if c.isDigit then some (digitValue c)
  else if 'a' ≤ c ∧ c ≤ 'f' then some (c.toNat - 'a'.toNat + 10)
  else if 'A' ≤ c ∧ c ≤ 'F' then some (c.toNat - 'A'.toNat + 10)
  else none

/-! ## The scan -/

/-- What the scan is in the middle of; lists are in reverse. -/
inductive Lexeme where
  | none
  | atom (chars : List Char)
  | text (pieces : List Piece)
  | escape (pieces : List Piece)
  | unit (pieces : List Piece) (value count : Nat)
deriving DecidableEq, Repr

/-- The tokens read so far, in reverse, and the lexeme at hand. -/
structure Lexing where
  tokens : List Token := []
  lexeme : Lexeme := .none
deriving DecidableEq, Repr

/-- Blanks between lexemes. -/
def isJsonBlank (c : Char) : Bool := c = ' ' || c = '\t' || c = '\n' || c = '\r'

/-- The punctuation marks. -/
def punctuation? : Char → Option Token
  | '[' => some .arrayOpen
  | ']' => some .arrayClose
  | '{' => some .objectOpen
  | '}' => some .objectClose
  | ':' => some .colon
  | ',' => some .comma
  | _ => none

namespace Lexing

/-- A character between lexemes. -/
def between (tokens : List Token) (c : Char) : Lexing :=
  if isJsonBlank c then { tokens }
  else if c = '"' then { tokens, lexeme := .text [] }
  else match punctuation? c with
    | some t => { tokens := t :: tokens }
    | none => { tokens, lexeme := .atom [c] }

/-- The character ends an atom. -/
def endsAtom (c : Char) : Bool := isJsonBlank c || c = '"' || (punctuation? c).isSome

/-- Reads one more character; `none` when no JSON text goes on this way. -/
def step (s : Lexing) (c : Char) : Option Lexing :=
  match s.lexeme with
  | .none => some (between s.tokens c)
  | .atom cs =>
    if endsAtom c then (Token.ofAtom? cs.reverse).map fun t => between (t :: s.tokens) c
    else some { s with lexeme := .atom (c :: cs) }
  | .text ps =>
    if c = '"' then
      some { tokens := .text ((combine? ps.reverse).map String.ofList) :: s.tokens }
    else if c = '\\' then some { s with lexeme := .escape ps }
    else if c.toNat < 0x20 then none
    else some { s with lexeme := .text (.char c :: ps) }
  | .escape ps =>
    if c = 'u' then some { s with lexeme := .unit ps 0 0 }
    else (escaped? c).map fun d => { s with lexeme := .text (.char d :: ps) }
  | .unit ps value count => do
    let h ← hexValue? c
    return if count = 3 then { s with lexeme := .text (.unit (16 * value + h) :: ps) }
      else { s with lexeme := .unit ps (16 * value + h) (count + 1) }

/-- The tokens at the end of the text, in order. -/
def finish? (s : Lexing) : Option (List Token) :=
  match s.lexeme with
  | .none => some s.tokens.reverse
  | .atom cs => (Token.ofAtom? cs.reverse).map fun t => (t :: s.tokens).reverse
  | _ => none

end Lexing

/-- All tokens of a text. -/
def Token.scan? (cs : List Char) : Option (List Token) := do
  let s ← cs.foldlM Lexing.step {}
  s.finish?

end BoxPuzzle

import BoxPuzzle.Json.Token

/-!
# Reading JSON

The tokens are read from left to right. An open array or object is a frame on a stack that keeps
the items or members before the place where the reader stands, so that no nesting is too deep.

* `Frame`, `Focus`, `Reading`: where the reader stands;
* `Reading.step`, `Reading.finish?`;
* `Json.ofTokens?`, `Json.read?`: the value that tokens or a text stand for.
-/

namespace BoxPuzzle

/-- An array or object whose end has not been read; its parts are in reverse. -/
inductive Frame where
  | items (before : List Json)
  | member (before : List (Option String × Json)) (name : Option String)
deriving Repr

/-- What may come next. -/
inductive Focus where
  /-- A value, or the end of an array without items. -/
  | value
  /-- A member's name, or the end of an object without members. -/
  | name (before : List (Option String × Json))
  /-- The colon after a name. -/
  | colon (before : List (Option String × Json)) (name : Option String)
  /-- What follows a complete value. -/
  | after (value : Json)
deriving Repr

/-- The state of the reader. -/
structure Reading where
  focus : Focus := .value
  stack : List Frame := []
deriving Repr

namespace Reading

/-- The value that a token is by itself. -/
def leaf? : Token → Option Json
  | .null => some .null
  | .bool b => some (.bool b)
  | .number n => some (.number n)
  | .text s => some (.text s)
  | _ => none

/-- Reads a token where a value is due. -/
def atValue (stack : List Frame) : Token → Option Reading
  | .arrayOpen => some { focus := .value, stack := .items [] :: stack }
  | .objectOpen => some { focus := .name [], stack }
  | .arrayClose =>
    match stack with
    | .items [] :: rest => some { focus := .after (.array []), stack := rest }
    | _ => none
  | t => (leaf? t).map fun j => { focus := .after j, stack }

/-- Reads a token where a name is due. -/
def atName (before : List (Option String × Json)) (stack : List Frame) : Token → Option Reading
  | .text s => some { focus := .colon before s, stack }
  | .objectClose =>
    if before.isEmpty then some { focus := .after (.object []), stack } else none
  | _ => none

/-- Reads a token after the complete value `j`. -/
def atEnd (j : Json) (stack : List Frame) (t : Token) : Option Reading :=
  match stack, t with
  | .items before :: rest, .comma =>
    some { focus := .value, stack := .items (j :: before) :: rest }
  | .items before :: rest, .arrayClose =>
    some { focus := .after (.array (j :: before).reverse), stack := rest }
  | .member before name :: rest, .comma =>
    some { focus := .name ((name, j) :: before), stack := rest }
  | .member before name :: rest, .objectClose =>
    some { focus := .after (.object ((name, j) :: before).reverse), stack := rest }
  | _, _ => none

/-- Reads one more token; `none` when no JSON value goes on this way. -/
def step (r : Reading) (t : Token) : Option Reading :=
  match r.focus with
  | .value => atValue r.stack t
  | .name before => atName before r.stack t
  | .colon before name =>
    if t = .colon then some { focus := .value, stack := .member before name :: r.stack } else none
  | .after j => atEnd j r.stack t

/-- The value, once it is complete. -/
def finish? (r : Reading) : Option Json :=
  match r.focus, r.stack with
  | .after j, [] => some j
  | _, _ => none

end Reading

namespace Json

/-- The value that the tokens stand for. -/
def ofTokens? (ts : List Token) : Option Json := do
  let r ← ts.foldlM Reading.step {}
  r.finish?

/-- The value that a text stands for. -/
def read? (s : String) : Option Json := do
  let ts ← Token.scan? s.toList
  ofTokens? ts

end Json

end BoxPuzzle

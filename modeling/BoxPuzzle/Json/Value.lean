/-!
# JSON values

A JSON value keeps what a text says: the members of an object in the order written, repeated names
included, and a number as its digits. A string is `none` when its escapes leave half of a
surrogate pair alone, so that it names no text.

* `Number`: sign, whole part, fraction digits and exponent;
* `Json`: the tree;
* `Json.ofWord`, `Json.ofText`: the leaves that this library writes.
-/

namespace BoxPuzzle

/-- A number as it is spelled. -/
structure Number where
  negative : Bool := false
  whole : Nat
  fraction : List (Fin 10) := []
  exponent : Option Int := none
deriving DecidableEq, Repr

/-- A JSON value. -/
inductive Json where
  | null
  | bool (b : Bool)
  | number (n : Number)
  | text (s : Option String)
  | array (items : List Json)
  | object (members : List (Option String × Json))
deriving Repr, Inhabited

namespace Json

/-- A 32-bit number. -/
def ofWord (w : UInt32) : Json := .number { whole := w.toNat }

/-- A string. -/
def ofText (s : String) : Json := .text (some s)

/-- A list, item by item. -/
def ofList {α : Type} (f : α → Json) (xs : List α) : Json := .array (xs.map f)

/-- A value that may be absent. -/
def ofOption {α : Type} (f : α → Json) : Option α → Json
  | some a => f a
  | none => .null

/-- An object, from its members in order. -/
def ofMembers (ms : List (String × Json)) : Json := .object (ms.map fun m => (some m.1, m.2))

end Json

end BoxPuzzle

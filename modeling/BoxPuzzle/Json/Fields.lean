import BoxPuzzle.Json.Reader
import BoxPuzzle.Json.Writer

/-!
# Values on the wire

How typed values travel as JSON. A record is an object that has its fields by name, in any order
and beside members that mean nothing, or an array that has them in order; fields at the end of
the array may be missing.

* `Json.word?`, `Json.string?`, `Json.list?`, `Json.nullable?`: leaves and lists;
* `Json.member?`, `Json.fields?`: the fields of a record;
* `Wire`: a type with its two directions;
* `encode`, `decode?`: its text.
-/

namespace BoxPuzzle

namespace Json

/-- A 32-bit number: digits alone, no sign, fraction or exponent. -/
def word? : Json → Option UInt32
  | .number { negative := false, whole := n, fraction := [], exponent := none } =>
    if n ≤ maxWord then some (UInt32.ofNat n) else none
  | _ => none

/-- A string that names a text. -/
def string? : Json → Option String
  | .text s => s
  | _ => none

/-- A list, item by item. -/
def list? {α : Type} (f : Json → Option α) : Json → Option (List α)
  | .array items => items.mapM f
  | _ => none

/-- A value that may be null. -/
def nullable? {α : Type} (f : Json → Option α) : Json → Option (Option α)
  | .null => some none
  | j => (f j).map some

/-- The member of this name, which may be missing but must not be repeated. -/
def member? (members : List (Option String × Json)) (name : String) : Option (Option Json) :=
  match members.filter (·.1 == some name) with
  | [] => some none
  | [m] => some (some m.2)
  | _ => none

/-- The fields of a record with these names, in their order; `none` for one that is missing. -/
def fields? (names : List String) : Json → Option (List (Option Json))
  | .array items =>
    if items.length ≤ names.length then
      some (items.map some ++ List.replicate (names.length - items.length) none)
    else none
  | .object members =>
    if members.all (·.1.isSome) then names.mapM (member? members) else none
  | _ => none

end Json

/-- A type whose values travel as JSON. -/
class Wire (α : Type) where
  toJson : α → Json
  ofJson? : Json → Option α

export Wire (toJson ofJson?)

/-- The text of a value. -/
def encode {α : Type} [Wire α] (a : α) : String := (toJson a).write

/-- The value that a text stands for. -/
def decode? {α : Type} [Wire α] (s : String) : Option α := do
  let j ← Json.read? s
  ofJson? j

end BoxPuzzle

import BoxPuzzle.Grid.Document
import BoxPuzzle.Json.Fields

/-!
# Grid data on the wire

A cell is a string, placements, shapes and documents are records, and givens are an object from
cell texts to digits.
-/

namespace BoxPuzzle

instance : Wire Cell where
  toJson c := .ofText c.text
  ofJson? j := j.string?.bind Cell.ofText?

instance : Wire Placement where
  toJson p :=
    .ofMembers [("row", .ofWord p.row), ("column", .ofWord p.column), ("digit", .ofWord p.digit)]
  ofJson? j := do
    let [row, column, digit] ← j.fields? ["row", "column", "digit"] | none
    return ⟨← row.bind Json.word?, ← column.bind Json.word?, ← digit.bind Json.word?⟩

/-- Reads a member of an object of givens. -/
def givenOfMember? (m : Option String × Json) : Option (Cell × UInt32) := do
  let name ← m.1
  return (← Cell.ofText? name, ← m.2.word?)

instance : Wire Givens where
  toJson g := .ofMembers (g.entries.map fun e => (e.1.text, .ofWord e.2))
  ofJson? j :=
    match j with
    | .object members => (members.mapM givenOfMember?).map Givens.ofList
    | _ => none

instance : Wire BoxShape where
  toJson s := .ofMembers [("boxesPerRow", .ofWord s.width), ("boxesPerColumn", .ofWord s.height)]
  ofJson? j := do
    let [width, height] ← j.fields? ["boxesPerRow", "boxesPerColumn"] | none
    return ⟨← width.bind Json.word?, ← height.bind Json.word?⟩

/-- A box count, zero if the field is missing. -/
def countOrZero? : Option Json → Option UInt32
  | some j => j.word?
  | none => some 0

instance : Wire Document where
  toJson d :=
    .ofMembers [("puzzle", .ofList (.ofList (.ofOption .ofWord)) d.rows),
      ("boxesPerRow", .ofWord d.boxes.width), ("boxesPerColumn", .ofWord d.boxes.height)]
  ofJson? j := do
    let [rows, width, height] ← j.fields? ["puzzle", "boxesPerRow", "boxesPerColumn"] | none
    return {
      rows := ← rows.bind (Json.list? (Json.list? (Json.nullable? Json.word?)))
      boxes := ⟨← countOrZero? width, ← countOrZero? height⟩ }

end BoxPuzzle

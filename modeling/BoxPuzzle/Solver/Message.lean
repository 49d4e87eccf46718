import BoxPuzzle.Grid.Wire
import BoxPuzzle.Json.Settled

/-!
# Messages of the solving service

A request holds the givens and the box counts, a response the placements of a solution, if there
is one. Some services wrap the response in a JSON string, which is unwrapped once.

* `Request`, `Request.ofGivens`, `Response`;
* `Response.ofBody?`: the response in a reply's body.
-/

namespace BoxPuzzle

/-- What a solving service is asked. -/
structure Request where
  givens : List Placement
  boxes : BoxShape
deriving DecidableEq, Repr

/-- The request for these givens. -/
def Request.ofGivens (g : Givens) (shape : BoxShape) : Request := ⟨g.placements, shape⟩

instance : Wire Request where
  toJson r :=
    .ofMembers [("givens", .ofList toJson r.givens), ("boxesPerRow", .ofWord r.boxes.width),
      ("boxesPerColumn", .ofWord r.boxes.height)]
  ofJson? j := do
    let [givens, width, height] ← j.fields? ["givens", "boxesPerRow", "boxesPerColumn"] | none
    return {
      givens := ← givens.bind (Json.list? ofJson?)
      boxes := ⟨← width.bind Json.word?, ← height.bind Json.word?⟩ }

/-- What a solving service answers; without a solution there is none to be had. -/
structure Response where
  solution : Option (List Placement) := none
deriving DecidableEq, Repr, Inhabited

/-- The placements of a solution, absent if the field is missing or null. -/
def solutionField? : Option Json → Option (Option (List Placement))
  | some j => Json.nullable? (Json.list? ofJson?) j
  | none => some none

instance : Wire Response where
  toJson r := .ofMembers [("solution", .ofOption (.ofList toJson) r.solution)]
  ofJson? j := do
    let [solution] ← j.fields? ["solution"] | none
    return { solution := ← solutionField? solution }

/-- The response in a body. The body is settled first; a string in it is read as a text. -/
def Response.ofBody? (body : String) : Option Response := do
  let j ← Json.read? body
  let settled ← j.settle?
  match settled with
  | .text (some inner) => decode? inner
  | j => ofJson? j

end BoxPuzzle

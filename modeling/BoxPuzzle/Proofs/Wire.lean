import BoxPuzzle.Layout.Style
import BoxPuzzle.Proofs.Grid.Cell
import BoxPuzzle.Proofs.Grid.Givens
import BoxPuzzle.Proofs.Json.Fields
import BoxPuzzle.Solver.Message

/-!
# Everything on the wire reads back

For each type that travels as JSON, reading undoes writing. Givens keep their order, and their
cells pass through a text of their own inside the text.

* the instances of `LawfulWire`;
* `RoundTrips`, **`wire_types_roundTrip`**.
-/

namespace BoxPuzzle

/-! ## Types -/

instance : LawfulWire Cell where
  ofJson?_toJson c := c.ofText?_text

instance : LawfulWire Placement where
  ofJson?_toJson p := by
    have h : (toJson p).fields? ["row", "column", "digit"] =
        some [some (.ofWord p.row), some (.ofWord p.column), some (.ofWord p.digit)] :=
      Json.fields?_ofMembers _ (by simp)
    simp only [ofJson?, h, Option.bind_eq_bind, Option.bind_some, Json.word?_ofWord]
    rfl

instance : LawfulWire Givens where
  ofJson?_toJson g := by
    have h : ((g.entries.map fun e => (e.1.text, Json.ofWord e.2)).map fun m => (some m.1, m.2)).mapM
        givenOfMember? = some g.entries := by
      rw [List.map_map, mapM_map_eq_some (k := id), List.map_id]
      intro e _
      simp only [givenOfMember?, Function.comp_apply, Cell.ofText?_text, Json.word?_ofWord,
        Option.bind_eq_bind, Option.bind_some]
      rfl
    show (_ : Option _).map Givens.ofList = _
    rw [h]
    exact congrArg some (Givens.eq_of_entries_eq (Givens.entries_ofList g.distinct))

instance : LawfulWire BoxShape where
  ofJson?_toJson s := by
    have h : (toJson s).fields? ["boxesPerRow", "boxesPerColumn"] =
        some [some (.ofWord s.width), some (.ofWord s.height)] :=
      Json.fields?_ofMembers _ (by simp)
    simp only [ofJson?, h, Option.bind_eq_bind, Option.bind_some, Json.word?_ofWord]
    rfl

instance : LawfulWire Selectors where
  ofJson?_toJson s := by
    have h : (toJson s).fields? ["container_id", "cell_class"] =
        some [some (.ofText s.container), some (.ofText s.cell)] :=
      Json.fields?_ofMembers _ (by simp)
    simp only [ofJson?, h, Option.bind_eq_bind, Option.bind_some, Json.string?_ofText]
    rfl

instance : LawfulWire Document where
  ofJson?_toJson d := by
    have h : (toJson d).fields? ["puzzle", "boxesPerRow", "boxesPerColumn"] =
        some [some (.ofList (.ofList (.ofOption .ofWord)) d.rows), some (.ofWord d.boxes.width),
          some (.ofWord d.boxes.height)] :=
      Json.fields?_ofMembers _ (by simp)
    have hrows : Json.list? (Json.list? (Json.nullable? Json.word?))
        (.ofList (.ofList (.ofOption .ofWord)) d.rows) = some d.rows :=
      Json.list?_ofList (Json.list?_ofList
        (Json.nullable?_ofOption Json.word?_ofWord fun _ => Json.noConfusion)) d.rows
    simp only [ofJson?, h, Option.bind_eq_bind, Option.bind_some, hrows, countOrZero?,
      Json.word?_ofWord]
    rfl

instance : LawfulWire Request where
  ofJson?_toJson r := by
    have h : (toJson r).fields? ["givens", "boxesPerRow", "boxesPerColumn"] =
        some [some (.ofList toJson r.givens), some (.ofWord r.boxes.width),
          some (.ofWord r.boxes.height)] :=
      Json.fields?_ofMembers _ (by simp)
    have hgivens : Json.list? ofJson? (.ofList toJson r.givens) = some r.givens :=
      Json.list?_ofList ofJson?_toJson r.givens
    show ((toJson r).fields? _).bind _ = _
    simp only [h, Option.bind_eq_bind, Option.bind_some, hgivens, Json.word?_ofWord]
    rfl

instance : LawfulWire Response where
  ofJson?_toJson r := by
    have h : (toJson r).fields? ["solution"] =
        some [some (.ofOption (.ofList toJson) r.solution)] :=
      Json.fields?_ofMembers _ (by simp)
    have hsolution : Json.nullable? (Json.list? ofJson?) (.ofOption (.ofList toJson) r.solution) =
        some r.solution :=
      Json.nullable?_ofOption (Json.list?_ofList ofJson?_toJson) (fun _ => Json.noConfusion)
        r.solution
    show ((toJson r).fields? _).bind _ = _
    simp only [h, Option.bind_eq_bind, Option.bind_some, solutionField?, hsolution]
    rfl

/-! ## Texts -/

/-- Decoding undoes encoding; so what a text decodes to is kept by another round, and its own text
does not change any more. -/
def RoundTrips (α : Type) [Wire α] : Prop :=
  (∀ a : α, decode? (encode a) = some a) ∧
    ∀ (t : String) (a : α), decode? t = some a →
      decode? (encode a) = some a ∧ ∀ b : α, decode? (encode a) = some b → encode b = encode a

theorem roundTrips (α : Type) [Wire α] [LawfulWire α] : RoundTrips α := by
  refine ⟨decode?_encode, fun t a _ => ⟨decode?_encode a, fun b hb => ?_⟩⟩
  rw [decode?_encode, Option.some.injEq] at hb
  rw [hb]

/-- **Everything on the wire reads back**: cells, placements, givens with their order, box shapes,
selectors, documents, requests and responses. -/
theorem wire_types_roundTrip :
    RoundTrips Cell ∧ RoundTrips Placement ∧ RoundTrips Givens ∧ RoundTrips BoxShape ∧
      RoundTrips Selectors ∧ RoundTrips Document ∧ RoundTrips Request ∧ RoundTrips Response :=
  ⟨roundTrips Cell, roundTrips Placement, roundTrips Givens, roundTrips BoxShape,
    roundTrips Selectors, roundTrips Document, roundTrips Request, roundTrips Response⟩

end BoxPuzzle

import BoxPuzzle.Proofs.Wire
import Mathlib.Data.List.Forall2

/-!
# Givens read from an object

An object of givens may spell one cell in several ways, and each spelling counts as the same cell: its
place is that of the first, its digit that of the last. A member that spells no cell, or whose value is
no word, spoils the object. Written again, every cell has its canonical spelling.

* `Json.word?_eq_some_iff`: the values that are words;
* `GivenMember`, `givenOfMember?_eq_some_iff`: the members that give a cell its digit;
* `Givens.ofJson?_object_eq_some_iff`, **`Givens.decode_object`**.
-/

namespace BoxPuzzle

/-! ## Words -/

theorem Json.word?_eq_some_iff {j : Json} {w : UInt32} :
    j.word? = some w ↔ j = .number { whole := w.toNat } := by
  constructor
  · intro h
    unfold word? at h
    split at h
    · split_ifs at h with hn
      cases h
      rw [UInt32.toNat_ofNat_of_lt' (Nat.lt_succ_of_le hn)]
    · cases h
  · rintro rfl
    exact word?_ofWord w

/-! ## Members -/

/-- The member spells the cell of the entry and has its digit. -/
def GivenMember (m : Option String × Json) (e : Cell × UInt32) : Prop :=
  ∃ name, m.1 = some name ∧ Cell.parse name = .ok e.1 ∧ m.2 = .number { whole := e.2.toNat }

theorem Cell.ofText?_eq_some_iff {s : String} {cell : Cell} :
    ofText? s = some cell ↔ parse s = .ok cell := by
  unfold parse
  cases ofText? s <;> simp

theorem givenOfMember?_eq_some_iff {m : Option String × Json} {e : Cell × UInt32} :
    givenOfMember? m = some e ↔ GivenMember m e := by
  obtain ⟨cell, digit⟩ := e
  simp [givenOfMember?, GivenMember, Option.bind_eq_some_iff, ← Cell.ofText?_eq_some_iff,
    ← Json.word?_eq_some_iff]

theorem mapM_eq_some_iff {α β : Type} {f : α → Option β} {xs : List α} {ys : List β} :
    xs.mapM f = some ys ↔ List.Forall₂ (fun x y => f x = some y) xs ys := by
  induction xs generalizing ys with
  | nil => cases ys <;> simp
  | cons x xs ih =>
    rw [List.mapM_cons]
    cases hx : f x <;> cases hxs : xs.mapM f <;> cases ys <;> simp [hx, ← ih, hxs]

/-- The entries of all members, if each gives one. -/
theorem exists_forall₂_givenMember_iff {members : List (Option String × Json)} :
    (∃ es, List.Forall₂ GivenMember members es) ↔ ∀ m ∈ members, ∃ e, GivenMember m e := by
  induction members with
  | nil => simp
  | cons m ms ih =>
    simp only [List.forall₂_cons_left_iff, List.forall_mem_cons, ← ih]
    constructor
    · rintro ⟨-, e, es, hm, hms, -⟩
      exact ⟨⟨e, hm⟩, es, hms⟩
    · rintro ⟨⟨e, hm⟩, es, hms⟩
      exact ⟨e :: es, e, es, hm, hms, rfl⟩

theorem exists_givenMember_iff {m : Option String × Json} : (∃ e, GivenMember m e) ↔
    (∃ name cell, m.1 = some name ∧ Cell.parse name = .ok cell) ∧
      ∃ n ≤ 4294967295, m.2 = .number { whole := n } := by
  constructor
  · rintro ⟨e, name, hname, hcell, hdigit⟩
    exact ⟨⟨name, e.1, hname, hcell⟩, e.2.toNat, Nat.le_of_lt_succ e.2.toNat_lt, hdigit⟩
  · rintro ⟨⟨name, cell, hname, hcell⟩, n, hn, hdigit⟩
    have hword : (UInt32.ofNat n).toNat = n := UInt32.toNat_ofNat_of_lt' (Nat.lt_succ_of_le hn)
    exact ⟨(cell, UInt32.ofNat n), name, hname, hcell, by rw [hword, hdigit]⟩

/-! ## Objects -/

namespace Givens

theorem ofJson?_object_eq_some_iff {members : List (Option String × Json)} {g : Givens} :
    ofJson? (.object members) = some g ↔ ∃ es, List.Forall₂ GivenMember members es ∧ g.Collects es := by
  have hmembers : ∀ es, members.mapM givenOfMember? = some es ↔ List.Forall₂ GivenMember members es := by
    intro es
    simp only [mapM_eq_some_iff, givenOfMember?_eq_some_iff]
  show (members.mapM givenOfMember?).map ofList = some g ↔ _
  simp only [Option.map_eq_some_iff, hmembers, collects_iff, eq_comm]

theorem decode?_eq_some_iff {t : String} {members : List (Option String × Json)}
    (h : Json.read? t = some (.object members)) {g : Givens} :
    decode? t = some g ↔ ∃ es, List.Forall₂ GivenMember members es ∧ g.Collects es := by
  rw [← ofJson?_object_eq_some_iff, decode?, h]
  rfl

/-- **Givens from an object.** They are read exactly if every name spells a cell and every value is a
word. Names that spell one cell give one entry, at the place of the first and with the digit of the
last. Written again, every name is canonical, no two are the same, and the same givens are read. -/
theorem decode_object {t : String} {members : List (Option String × Json)}
    (h : Json.read? t = some (.object members)) :
    ((∃ g : Givens, decode? t = some g) ↔
      ∀ m ∈ members, (∃ name cell, m.1 = some name ∧ Cell.parse name = .ok cell) ∧
        ∃ n ≤ 4294967295, m.2 = .number { whole := n }) ∧
    ∀ g : Givens, decode? t = some g →
      (∃ es, List.Forall₂ GivenMember members es ∧ g.Collects es) ∧
      (∃ ms : List (String × Json), Json.read? (encode g) = some (.ofMembers ms) ∧
        (∀ m ∈ ms, ∃ cell : Cell,
          Cell.SpellsCanonically m.1.toList cell.row.toNat cell.column.toNat) ∧
        (ms.map Prod.fst).Nodup) ∧
      decode? (encode g) = some g := by
  constructor
  · simp only [decode?_eq_some_iff h, ← exists_givenMember_iff, ← exists_forall₂_givenMember_iff]
    constructor
    · rintro ⟨g, es, hes, -⟩
      exact ⟨es, hes⟩
    · rintro ⟨es, hes⟩
      exact ⟨ofList es, es, hes, collects_ofList es⟩
  · intro g hg
    refine ⟨(decode?_eq_some_iff h).1 hg, ⟨_, Json.read?_write (toJson g), ?_, ?_⟩, decode?_encode g⟩
    · intro m hm
      obtain ⟨e, -, rfl⟩ := List.mem_map.1 hm
      exact ⟨e.1, Cell.spellsCanonically_iff.2 String.toList_ofList⟩
    · have hnames : (g.entries.map fun e => (e.1.text, Json.ofWord e.2)).map Prod.fst =
          g.cells.map Cell.text := by
        rw [cells, List.map_map, List.map_map]
        rfl
      rw [hnames]
      exact g.distinct.map Cell.text_injective

/-- Three members for two cells. -/
def spelledTwice : Json :=
  .ofMembers [("0,0", .ofWord 5), ("1,2", .ofWord 4), (" +0 , 00", .ofWord 7)]

theorem decode_object_spelled_twice :
    Json.read? spelledTwice.write = some spelledTwice ∧
      ∃ g : Givens, decode? spelledTwice.write = some g ∧ g.entries = [(⟨0, 0⟩, 7), (⟨1, 2⟩, 4)] ∧
        decode? (encode g) = some g := by
  have hread : Json.read? spelledTwice.write = some spelledTwice := Json.read?_write spelledTwice
  have hg : decode? spelledTwice.write = some (ofList [(⟨0, 0⟩, 5), (⟨1, 2⟩, 4), (⟨0, 0⟩, 7)]) := by
    rw [decode?, hread]
    rfl
  exact ⟨hread, _, hg, rfl, ((decode_object hread).2 _ hg).2.2⟩

end Givens

end BoxPuzzle

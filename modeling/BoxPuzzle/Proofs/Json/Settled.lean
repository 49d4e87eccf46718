import BoxPuzzle.Json.Settled
import BoxPuzzle.Proofs.Text.Numeral
import Mathlib.Data.List.Nodup

/-!
# What settling changes

Settling a value refuses what is too deep, too large or no text, and drops repeated members. A
value in which no object repeats a name stays as it is, and what this library writes is never
refused for its numbers.

* `Json.DistinctNames`, **`Json.merged_eq_self`**: values that settling does not change;
* `Number.inRange_whole`: whole numbers of 64 bits are in range;
* `Json.settles_ofWord`, `Json.settles_ofList`, `Json.settles_ofMembers`: what is written settles.
-/

namespace BoxPuzzle

/-! ## Repeated names -/

/-- No object in the value repeats a name. -/
inductive Json.DistinctNames : Json → Prop
  | null : DistinctNames .null
  | bool (b : Bool) : DistinctNames (.bool b)
  | number (n : Number) : DistinctNames (.number n)
  | text (s : Option String) : DistinctNames (.text s)
  | array {items : List Json} (inside : ∀ j ∈ items, DistinctNames j) : DistinctNames (.array items)
  | object {members : List (Option String × Json)} (distinct : (members.map Prod.fst).Nodup)
      (inside : ∀ m ∈ members, DistinctNames m.2) : DistinctNames (.object members)

theorem lastMembers_of_nodup {members : List (Option String × Json)}
    (h : (members.map Prod.fst).Nodup) : lastMembers members = members := by
  induction members with
  | nil => rfl
  | cons m ms ih =>
    rw [List.map_cons, List.nodup_cons] at h
    have hlast : ¬ ms.any (·.1 == m.1) = true := by
      rw [List.any_eq_true]
      rintro ⟨k, hk, heq⟩
      exact h.1 (beq_iff_eq.1 heq ▸ List.mem_map_of_mem hk)
    rw [lastMembers, if_neg hlast, ih h.2]

namespace Json

theorem mergedItems_eq_self {items : List Json} (h : ∀ j ∈ items, j.merged = j) :
    mergedItems items = items := by
  induction items with
  | nil => rfl
  | cons j js ih =>
    rw [List.forall_mem_cons] at h
    rw [mergedItems, h.1, ih h.2]

theorem mergedMembers_eq_self {members : List (Option String × Json)}
    (h : ∀ m ∈ members, m.2.merged = m.2) : mergedMembers members = members := by
  induction members with
  | nil => rfl
  | cons m ms ih =>
    rw [List.forall_mem_cons] at h
    rw [mergedMembers, h.1, ih h.2]

/-- **Settling keeps a value in which no name is repeated.** -/
theorem merged_eq_self {j : Json} (h : j.DistinctNames) : j.merged = j := by
  induction h with
  | null | bool | number | text => rfl
  | array inside ih => rw [merged, mergedItems_eq_self ih]
  | object distinct inside ih =>
    rw [merged, mergedMembers_eq_self ih, lastMembers_of_nodup distinct]

end Json

/-! ## Numbers -/

theorem absorb_digits {acc : Nat} {cs : List Char}
    (h : Nat.ofDigitChars 10 cs acc ≤ maxSignificand) :
    absorb acc (cs.map digitValue) = (Nat.ofDigitChars 10 cs acc, cs.length) := by
  induction cs generalizing acc with
  | nil => rfl
  | cons c cs ih =>
    have hrest : absorb (10 * acc + digitValue c) (cs.map digitValue) =
      (Nat.ofDigitChars 10 (c :: cs) acc, cs.length) := ih h
    have hc : 10 * acc + digitValue c ≤ maxSignificand := Nat.le_trans (le_ofDigitChars _ cs) h
    rw [List.map_cons, absorb, if_pos hc, hrest]
    rfl

theorem Number.inRange_whole {n : Nat} (h : n ≤ maxSignificand) : inRange { whole := n } = true := by
  have hwhole : absorb 0 ((numeral n).map digitValue) = (n, (numeral n).length) := by
    rw [absorb_digits (by rwa [ofDigitChars_numeral]), ofDigitChars_numeral]
  have hgathered : gathered { whole := n } = (n, 0) := by
    simp only [gathered, hwhole, List.length_map, List.map_nil, absorb, Option.getD_none,
      Prod.mk.injEq, true_and, Int.ofNat_eq_natCast]
    omega
  rw [inRange, hgathered]
  exact if_pos (.inr (Int.le_refl 0))

/-! ## What is written -/

namespace Json

theorem itemsSettle_eq_all (room : Nat) (items : List Json) :
    itemsSettle room items = items.all (·.settles room) := by
  induction items with
  | nil => rfl
  | cons j js ih => rw [itemsSettle, ih, List.all_cons]

theorem membersSettle_eq_all (room : Nat) (members : List (Option String × Json)) :
    membersSettle room members = members.all fun m => m.1.isSome && m.2.settles room := by
  induction members with
  | nil => rfl
  | cons m ms ih => rw [membersSettle, ih, List.all_cons]

theorem settles_ofWord (room : Nat) (w : UInt32) : (ofWord w).settles room = true := by
  have h : w.toNat ≤ maxSignificand :=
    Nat.le_trans (Nat.le_of_lt w.toNat_lt) (by decide)
  exact Number.inRange_whole h

theorem settles_ofList {α : Type} {f : α → Json} {room : Nat} {xs : List α}
    (h : ∀ a ∈ xs, (f a).settles room = true) : (ofList f xs).settles (room + 1) = true := by
  have hitems : itemsSettle room (xs.map f) = true := by
    rw [itemsSettle_eq_all, List.all_map, List.all_eq_true]
    exact h
  rw [ofList, settles, Nat.add_sub_cancel, hitems]
  rfl

theorem settles_ofMembers {room : Nat} {ms : List (String × Json)}
    (h : ∀ m ∈ ms, m.2.settles room = true) : (ofMembers ms).settles (room + 1) = true := by
  have hmembers : membersSettle room (ms.map fun m => (some m.1, m.2)) = true := by
    rw [membersSettle_eq_all, List.all_map, List.all_eq_true]
    exact h
  rw [ofMembers, settles, Nat.add_sub_cancel, hmembers]
  rfl

theorem distinctNames_ofList {α : Type} {f : α → Json} {xs : List α}
    (h : ∀ a ∈ xs, (f a).DistinctNames) : (ofList f xs).DistinctNames :=
  .array (List.forall_mem_map.2 h)

theorem distinctNames_ofMembers {ms : List (String × Json)} (hn : (ms.map Prod.fst).Nodup)
    (h : ∀ m ∈ ms, m.2.DistinctNames) : (ofMembers ms).DistinctNames := by
  have hnames : (ms.map fun m => (some m.1, m.2)).map Prod.fst = (ms.map Prod.fst).map some := by
    rw [List.map_map, List.map_map]
    rfl
  refine .object ?_ (List.forall_mem_map.2 h)
  rw [hnames]
  exact hn.map fun a b hab => Option.some.inj hab

end Json

end BoxPuzzle

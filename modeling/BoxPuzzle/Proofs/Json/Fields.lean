import BoxPuzzle.Json.Fields
import BoxPuzzle.Proofs.Json.Reader

/-!
# Records read back

Reading undoes writing for the parts that values on the wire are made of.

* `Json.word?_ofWord`, `Json.list?_ofList`, `Json.nullable?_ofOption`: leaves and lists;
* **`Json.fields?_ofMembers`**: the fields of a record, in any number;
* `LawfulWire`, **`decode?_encode`**: types whose values read back, and their texts.
-/

namespace BoxPuzzle

theorem mapM_map_eq_some {α β γ : Type} {f : β → Option γ} {g : α → β} {k : α → γ} {xs : List α}
    (h : ∀ a ∈ xs, f (g a) = some (k a)) : (xs.map g).mapM f = some (xs.map k) := by
  induction xs with
  | nil => rfl
  | cons a xs ih =>
    rw [List.forall_mem_cons] at h
    rw [List.map_cons, List.mapM_cons, h.1, ih h.2]
    rfl

namespace Json

/-! ## Leaves and lists -/

@[simp] theorem word?_ofWord (w : UInt32) : word? (.ofWord w) = some w := by
  have h : w.toNat ≤ maxWord := Nat.le_of_lt_succ w.toNat_lt
  rw [ofWord, word?, if_pos h, UInt32.ofNat_toNat]

@[simp] theorem string?_ofText (s : String) : string? (.ofText s) = some s := rfl

theorem list?_ofList {α : Type} {f : Json → Option α} {g : α → Json} (h : ∀ a, f (g a) = some a)
    (xs : List α) : list? f (.ofList g xs) = some xs := by
  rw [ofList, list?, mapM_map_eq_some (k := id) fun a _ => h a, List.map_id]

theorem nullable?_ofOption {α : Type} {f : Json → Option α} {g : α → Json}
    (h : ∀ a, f (g a) = some a) (hg : ∀ a, g a ≠ .null) (o : Option α) :
    nullable? f (.ofOption g o) = some o := by
  cases o with
  | none => rfl
  | some a =>
    have hf : nullable? f (g a) = (f (g a)).map some := by
      unfold nullable?
      split
      · next h0 => exact absurd h0 (hg a)
      · rfl
    rw [ofOption, hf, h]
    rfl

/-! ## Records -/

theorem filter_name_eq {ms : List (String × Json)} (hn : (ms.map Prod.fst).Nodup)
    {m : String × Json} (hm : m ∈ ms) : ms.filter (·.1 == m.1) = [m] := by
  induction ms with
  | nil => cases hm
  | cons k ms ih =>
    rw [List.map_cons, List.nodup_cons] at hn
    rcases List.mem_cons.1 hm with rfl | hm
    · have hrest : ms.filter (·.1 == m.1) = [] := by
        rw [List.filter_eq_nil_iff]
        intro k hk heq
        exact hn.1 (beq_iff_eq.1 heq ▸ List.mem_map_of_mem hk)
      rw [List.filter_cons, if_pos (beq_self_eq_true m.1), hrest]
    · have hk : ¬ (k.1 == m.1) = true := fun heq =>
        hn.1 (beq_iff_eq.1 heq ▸ List.mem_map_of_mem hm)
      rw [List.filter_cons, if_neg hk, ih hn.2 hm]

theorem member?_of_mem {ms : List (String × Json)} (hn : (ms.map Prod.fst).Nodup)
    {m : String × Json} (hm : m ∈ ms) :
    member? (ms.map fun m => (some m.1, m.2)) m.1 = some (some m.2) := by
  have hfilter : (ms.map fun m => (some m.1, m.2)).filter (·.1 == some m.1) =
      [(some m.1, m.2)] := by
    rw [List.filter_map]
    exact congrArg (List.map _) (filter_name_eq hn hm)
  rw [member?, hfilter]

/-- **The fields of a record read back.** -/
theorem fields?_ofMembers (ms : List (String × Json)) (hn : (ms.map Prod.fst).Nodup) :
    (ofMembers ms).fields? (ms.map Prod.fst) = some (ms.map fun m => some m.2) := by
  have hnamed : (ms.map fun m => (some m.1, m.2)).all (·.1.isSome) = true :=
    List.all_eq_true.2 fun m hm => by
      obtain ⟨k, -, rfl⟩ := List.mem_map.1 hm
      rfl
  rw [ofMembers, fields?, if_pos hnamed]
  exact mapM_map_eq_some fun m hm => member?_of_mem hn hm

end Json

/-! ## Types whose values read back -/

/-- Reading undoes writing. -/
class LawfulWire (α : Type) [Wire α] : Prop where
  ofJson?_toJson : ∀ a : α, ofJson? (toJson a) = some a

export LawfulWire (ofJson?_toJson)

/-- **The text of a value reads back.** -/
theorem decode?_encode {α : Type} [Wire α] [LawfulWire α] (a : α) : decode? (encode a) = some a := by
  rw [decode?, encode, Json.read?_write]
  exact ofJson?_toJson a

end BoxPuzzle

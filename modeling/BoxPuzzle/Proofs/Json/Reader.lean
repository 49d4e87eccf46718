import BoxPuzzle.Json.Reader
import BoxPuzzle.Proofs.Json.Token

/-!
# Values read back

The reader gives back every value from the text that is written for it: strings that name no text,
repeated names and numbers of any size included.

* `Json.induction`: induction over values, by what holds of all items and of all members;
* `Json.separated_tokens`: in the tokens of a value no two atoms are adjacent;
* `Reading.Reaches`, `Reading.reaches_items`, `Reading.reaches_members`, **`Reading.passes`**: the
  tokens of a value take the reader past it, whatever it stands in;
* **`Json.read?_write`**.
-/

namespace BoxPuzzle

/-- Induction over values. -/
@[elab_as_elim]
theorem Json.induction {P : Json → Prop} (null : P .null) (bool : ∀ b, P (.bool b))
    (number : ∀ n, P (.number n)) (text : ∀ s, P (.text s))
    (array : ∀ items, (∀ j ∈ items, P j) → P (.array items))
    (object : ∀ members, (∀ m ∈ members, P m.2) → P (.object members)) (j : Json) : P j :=
  @Json.rec P (fun items => ∀ j ∈ items, P j) (fun members => ∀ m ∈ members, P m.2) (fun m => P m.2)
    null bool number text array object (List.forall_mem_nil _)
    (fun _ _ hj hjs => List.forall_mem_cons.2 ⟨hj, hjs⟩) (List.forall_mem_nil _)
    (fun _ _ hm hms => List.forall_mem_cons.2 ⟨hm, hms⟩) (fun _ _ hj => hj) j

/-! ## Atoms are separated -/

theorem separated_withCommas : ∀ {tss : List (List Token)}, (∀ ts ∈ tss, Token.Separated ts) →
    Token.Separated (withCommas tss)
  | [], _ => .nil
  | [ts], h => h ts List.mem_cons_self
  | ts :: us :: tss, h => by
    rw [List.forall_mem_cons] at h
    exact (Token.separated_append_cons rfl).2 ⟨h.1, separated_withCommas h.2⟩

theorem separated_enclosed {first last : Token} (hf : first.isAtom = false)
    (hl : last.isAtom = false) {ts : List Token} (h : Token.Separated ts) :
    Token.Separated (first :: ts ++ [last]) :=
  Token.separated_cons hf ((Token.separated_append_cons hl).2 ⟨h, .nil⟩)

namespace Json

theorem itemTokens_eq_map (items : List Json) : itemTokens items = items.map tokens := by
  induction items with
  | nil => rfl
  | cons j js ih => rw [itemTokens, ih, List.map_cons]

theorem memberTokens_eq_map (members : List (Option String × Json)) :
    memberTokens members = members.map fun m => .text m.1 :: .colon :: m.2.tokens := by
  induction members with
  | nil => rfl
  | cons m ms ih => rw [memberTokens, ih, List.map_cons]

theorem separated_tokens (j : Json) : Token.Separated j.tokens := by
  induction j using Json.induction with
  | null | bool | number | text => exact .singleton _
  | array items ih =>
    refine separated_enclosed rfl rfl (separated_withCommas fun ts hts => ?_)
    rw [itemTokens_eq_map] at hts
    obtain ⟨j, hj, rfl⟩ := List.mem_map.1 hts
    exact ih j hj
  | object members ih =>
    refine separated_enclosed rfl rfl (separated_withCommas fun ts hts => ?_)
    rw [memberTokens_eq_map] at hts
    obtain ⟨m, hm, rfl⟩ := List.mem_map.1 hts
    exact Token.separated_cons rfl (Token.separated_cons rfl (ih m hm))

end Json

/-! ## The reader -/

namespace Reading

/-- The tokens take the reader from `r` to `r'`. -/
def Reaches (r : Reading) (ts : List Token) (r' : Reading) : Prop := ts.foldlM step r = some r'

namespace Reaches

variable {r r' r'' : Reading} {ts us : List Token}

theorem nil (r : Reading) : Reaches r [] r := rfl

theorem cons {t : Token} (h : r.step t = some r') (h' : Reaches r' ts r'') :
    Reaches r (t :: ts) r'' := by
  unfold Reaches
  rw [List.foldlM_cons, h]
  exact h'

theorem append (h : Reaches r ts r') (h' : Reaches r' us r'') : Reaches r (ts ++ us) r'' := by
  unfold Reaches
  rw [List.foldlM_append, h]
  exact h'

end Reaches

/-- The tokens of `j` take the reader past `j`, whatever it stands in. -/
def Passes (j : Json) : Prop := ∀ stack, Reaches ⟨.value, stack⟩ j.tokens ⟨.after j, stack⟩

-- by the items that are left; those before them are on the stack in reverse
theorem reaches_items (stack : List Frame) : ∀ (before : List Json) {j : Json} {js : List Json},
    (∀ k ∈ j :: js, Passes k) → Reaches ⟨.value, .items before :: stack⟩
      (withCommas (Json.itemTokens (j :: js)) ++ [.arrayClose])
      ⟨.after (.array (before.reverse ++ j :: js)), stack⟩
  | before, j, [], h => by
    have hj := h j List.mem_cons_self (.items before :: stack)
    rw [← List.reverse_cons]
    exact hj.append (.cons rfl (.nil _))
  | before, j, k :: js, h => by
    rw [List.forall_mem_cons] at h
    have hrest := reaches_items stack (j :: before) h.2
    rw [List.reverse_cons, List.append_assoc, List.singleton_append] at hrest
    have hlist : withCommas (Json.itemTokens (j :: k :: js)) ++ [.arrayClose] =
        j.tokens ++ .comma :: (withCommas (Json.itemTokens (k :: js)) ++ [.arrayClose]) :=
      List.append_assoc _ _ _
    rw [hlist]
    exact (h.1 _).append (.cons rfl hrest)

theorem reaches_members (stack : List Frame) : ∀ (before : List (Option String × Json))
    {m : Option String × Json} {ms : List (Option String × Json)}, (∀ k ∈ m :: ms, Passes k.2) →
      Reaches ⟨.name before, stack⟩ (withCommas (Json.memberTokens (m :: ms)) ++ [.objectClose])
        ⟨.after (.object (before.reverse ++ m :: ms)), stack⟩
  | before, (name, j), [], h => by
    have hj := h (name, j) List.mem_cons_self (.member before name :: stack)
    rw [← List.reverse_cons]
    exact .cons rfl (.cons rfl (hj.append (.cons rfl (.nil _))))
  | before, (name, j), k :: ms, h => by
    rw [List.forall_mem_cons] at h
    have hrest := reaches_members stack ((name, j) :: before) h.2
    rw [List.reverse_cons, List.append_assoc, List.singleton_append] at hrest
    have hlist : withCommas (Json.memberTokens ((name, j) :: k :: ms)) ++ [.objectClose] =
        .text name :: .colon ::
          (j.tokens ++ .comma :: (withCommas (Json.memberTokens (k :: ms)) ++ [.objectClose])) :=
      List.append_assoc _ _ _
    rw [hlist]
    exact .cons rfl (.cons rfl ((h.1 _).append (.cons rfl hrest)))

/-- **The tokens of a value take the reader past it.** -/
theorem passes (j : Json) : Passes j := by
  induction j using Json.induction with
  | null | bool | number | text => exact fun stack => .cons rfl (.nil _)
  | array items ih =>
    intro stack
    cases items with
    | nil => exact .cons rfl (.cons rfl (.nil _))
    | cons j js => exact .cons rfl (reaches_items stack [] ih)
  | object members ih =>
    intro stack
    cases members with
    | nil => exact .cons rfl (.cons rfl (.nil _))
    | cons m ms => exact .cons rfl (reaches_members stack [] ih)

end Reading

namespace Json

theorem ofTokens?_tokens (j : Json) : ofTokens? j.tokens = some j := by
  rw [ofTokens?, show j.tokens.foldlM Reading.step {} = _ from Reading.passes j []]
  rfl

/-- **Every value reads back.** -/
theorem read?_write (j : Json) : read? j.write = some j := by
  rw [read?, write, String.toList_ofList, Token.scan?_flatMap_chars j.separated_tokens]
  exact j.ofTokens?_tokens

end Json

end BoxPuzzle

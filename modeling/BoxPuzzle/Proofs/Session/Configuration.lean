import BoxPuzzle.Proofs.Session.Step

/-!
# A configuration follows its calls

A configuration is set and frozen in any order. Whether a shape is taken depends on the two texts and on
the freezes before it, never on the shape that was there; a shape stays until the next one is taken.

* `SpellsShape`, **`typedShape?_eq_some_iff`**, `typedShape?_eq_none_iff`: the texts that name a shape;
* `Configuration.set_spec`: what becomes of two texts;
* `Configuration.Call`, `Configuration.callAll`: calls one after the other;
* `Configuration.Follows`, `Configuration.Follows.call`, `Configuration.Follows.callAll`: the invariant,
  for one call and for all of them;
* **`Configuration.callAll_follows_calls`**.
-/

namespace BoxPuzzle

/-! ## Texts that name a shape -/

/-- Two texts that are there and spell the positive counts `w` and `h`, whose product fits in a word. -/
structure SpellsShape (width height : Option String) (w h : Nat) : Prop where
  first : ∃ text, width = some text ∧ SpellsNumber text.toList w
  second : ∃ text, height = some text ∧ SpellsNumber text.toList h
  first_fits : 1 ≤ w ∧ w ≤ 4294967295
  second_fits : 1 ≤ h ∧ h ≤ 4294967295
  side_fits : w * h ≤ 4294967295

theorem SpellsShape.proper {width height : Option String} {shape : BoxShape}
    (h : SpellsShape width height shape.width.toNat shape.height.toNat) : shape.Proper :=
  ⟨h.first_fits.1, h.second_fits.1, h.side_fits⟩

theorem typedCount?_eq_some_iff {text : Option String} {n : UInt32} :
    typedCount? text = some n ↔
      (∃ s, text = some s ∧ SpellsNumber s.toList n.toNat) ∧ 1 ≤ n.toNat := by
  constructor
  · intro h
    refine ⟨?_, typedCount?_pos h⟩
    simp only [typedCount?, Option.bind_eq_bind, Option.bind_eq_some_iff] at h
    obtain ⟨s, rfl, m, hm, hif⟩ := h
    split_ifs at hif
    cases hif
    exact ⟨s, rfl, readWord?_eq_some_iff.1 hm⟩
  · rintro ⟨⟨s, rfl, hs⟩, hpos⟩
    have hn : 0 < n := UInt32.lt_iff_toNat_lt.2 hpos
    simp [typedCount?, readWord?_eq_some_iff.2 hs, hn]

/-- **The texts that name a shape.** -/
theorem typedShape?_eq_some_iff {width height : Option String} {shape : BoxShape} :
    typedShape? width height = some shape ↔
      SpellsShape width height shape.width.toNat shape.height.toNat := by
  constructor
  · intro h
    have hp := typedShape?_proper h
    simp only [typedShape?, Option.bind_eq_bind, Option.bind_eq_some_iff] at h
    obtain ⟨w, hw, v, hv, hif⟩ := h
    split_ifs at hif
    cases hif
    exact ⟨(typedCount?_eq_some_iff.1 hw).1, (typedCount?_eq_some_iff.1 hv).1,
      ⟨hp.1, Nat.le_of_lt_succ w.toNat_lt⟩, ⟨hp.2.1, Nat.le_of_lt_succ v.toNat_lt⟩, hp.2.2⟩
  · intro h
    have hw := typedCount?_eq_some_iff.2 ⟨h.first, h.first_fits.1⟩
    have hh := typedCount?_eq_some_iff.2 ⟨h.second, h.second_fits.1⟩
    simp [typedShape?, hw, hh, h.proper.isSome_side?]

theorem typedShape?_eq_none_iff {width height : Option String} :
    typedShape? width height = none ↔ ∀ w h, ¬ SpellsShape width height w h := by
  constructor
  · intro hnone w h hs
    -- counts that fit in a word are words
    have hw : (UInt32.ofNat w).toNat = w := UInt32.toNat_ofNat_of_lt' (Nat.lt_succ_of_le hs.first_fits.2)
    have hh : (UInt32.ofNat h).toNat = h := UInt32.toNat_ofNat_of_lt' (Nat.lt_succ_of_le hs.second_fits.2)
    have hsome : typedShape? width height = some ⟨UInt32.ofNat w, UInt32.ofNat h⟩ :=
      typedShape?_eq_some_iff.2 (by rwa [hw, hh])
    rw [hnone] at hsome
    cases hsome
  · intro h
    cases hs : typedShape? width height with
    | none => rfl
    | some shape => exact absurd (typedShape?_eq_some_iff.1 hs) (h _ _)

/-! ## One call -/

/-- The shape that was applied. -/
def Change.shape? : Change → Option BoxShape
  | applied shape => some shape
  | ignored => none
  | frozen => none

namespace Configuration

/-- **What becomes of two texts.** They are refused by a frozen configuration; otherwise they are applied
if they name a shape, and ignored if not. -/
theorem set_spec (c : Configuration) (width height : Option String) :
    let change := (c.set width height).2
    (change = .frozen ↔ c.frozen = true) ∧
    (∀ shape, change = .applied shape ↔
      c.frozen = false ∧ SpellsShape width height shape.width.toNat shape.height.toNat) ∧
    (change = .ignored ↔ c.frozen = false ∧ ∀ w h, ¬ SpellsShape width height w h) ∧
    (c.set width height).1.shape = change.shape?.getD c.shape ∧
    (c.set width height).1.frozen = c.frozen := by
  simp only [← typedShape?_eq_some_iff, ← typedShape?_eq_none_iff]
  cases hf : c.frozen with
  | true => simp [set, hf, Change.shape?]
  | false => cases hs : typedShape? width height <;> simp [set, hf, hs, Change.shape?]

/-! ## Calls one after the other -/

/-- Setting the shape from two typed texts, or freezing it. -/
inductive Call where
  | set (width height : Option String)
  | freeze
deriving DecidableEq, Repr

/-- Makes a call, which is answered if it sets the shape. -/
def call (c : Configuration) : Call → Configuration × Option Change
  | .set width height => ((c.set width height).1, some (c.set width height).2)
  | .freeze => (c.freeze, none)

/-- Makes calls one after the other and collects the answers. -/
def callAll (c : Configuration) : List Call → Configuration × List (Option Change)
  | [] => (c, [])
  | x :: xs => (((c.call x).1.callAll xs).1, (c.call x).2 :: ((c.call x).1.callAll xs).2)

/-- The last shape among the answers, the standard shape if there is none. -/
def lastApplied (answers : List (Option Change)) : BoxShape :=
  (answers.filterMap fun answer => answer.bind Change.shape?).getLast?.getD ⟨3, 3⟩

theorem lastApplied_concat (answers : List (Option Change)) (answer : Option Change) :
    lastApplied (answers ++ [answer]) = (answer.bind Change.shape?).getD (lastApplied answers) := by
  unfold lastApplied
  rw [List.filterMap_append]
  cases h : answer.bind Change.shape? <;> simp [h]

theorem callAll_concat (c : Configuration) (calls : List Call) (x : Call) :
    (c.callAll (calls ++ [x])).1 = ((c.callAll calls).1.call x).1 := by
  induction calls generalizing c with
  | nil => rfl
  | cons y calls ih => exact ih (c.call y).1

theorem callAll_getElem? (c : Configuration) (before : List Call) (x : Call) (after : List Call) :
    (c.callAll (before ++ x :: after)).2[before.length]? = some ((c.callAll before).1.call x).2 := by
  induction before generalizing c with
  | nil => rfl
  | cons y before ih => exact ih (c.call y).1

/-! ## The invariant -/

/-- The configuration is what the calls and their answers tell. -/
structure Follows (c : Configuration) (calls : List Call) (answers : List (Option Change)) : Prop where
  frozen : c.frozen = true ↔ .freeze ∈ calls
  shape : c.shape = lastApplied answers
  proper : c.shape.Proper

variable {c : Configuration} {calls : List Call} {answers : List (Option Change)}

theorem follows_default : Follows {} [] [] := ⟨by simp, rfl, by decide⟩

/-- **One call.** -/
theorem Follows.call (h : c.Follows calls answers) (x : Call) :
    (c.call x).1.Follows (calls ++ [x]) (answers ++ [(c.call x).2]) := by
  cases x with
  | set width height =>
    obtain ⟨-, happlied, -, hshape, hfrozen⟩ := c.set_spec width height
    refine ⟨?_, ?_, ?_⟩
    · show (c.set width height).1.frozen = true ↔ _
      rw [hfrozen, h.frozen]
      simp
    · show (c.set width height).1.shape = _
      rw [hshape, lastApplied_concat, ← h.shape]
      rfl
    · show (c.set width height).1.shape.Proper
      rw [hshape]
      cases hchange : (c.set width height).2 with
      | applied shape => exact ((happlied shape).1 hchange).2.proper
      | ignored | frozen => exact h.proper
  | freeze =>
    refine ⟨?_, ?_, h.proper⟩
    · simp [Configuration.call, freeze]
    · rw [lastApplied_concat, ← h.shape]
      rfl

/-- **All calls.** -/
theorem Follows.callAll (h : c.Follows calls answers) (more : List Call) :
    (c.callAll more).1.Follows (calls ++ more) (answers ++ (c.callAll more).2) := by
  induction more generalizing c calls answers with
  | nil =>
    rw [List.append_nil]
    exact (List.append_nil answers).symm ▸ h
  | cons x more ih =>
    have hx := ih (h.call x)
    rwa [List.append_assoc, List.append_assoc] at hx

/-- **A configuration follows its calls.** Two texts are refused if and only if a freeze came before them.
Otherwise they are applied if and only if both are there and spell positive counts, which may have blanks
around them, a plus sign and zeros in front, and which fit in a word, as does their product; the shape is
then that of the counts. If they are neither refused nor applied they are ignored, and the shape stays.
So the shape is always the one that was applied last, the standard shape if there is none, and the side of
its grid is positive and fits in a word. -/
theorem callAll_follows_calls (calls : List Call) :
    let run := ({} : Configuration).callAll calls
    (∀ before width height after, calls = before ++ .set width height :: after →
      let c := (({} : Configuration).callAll before).1
      let next := (({} : Configuration).callAll (before ++ [.set width height])).1
      ∃ change, run.2[before.length]? = some (some change) ∧
        (change = .frozen ↔ .freeze ∈ before) ∧
        (∀ shape, change = .applied shape ↔
          .freeze ∉ before ∧ SpellsShape width height shape.width.toNat shape.height.toNat) ∧
        (change = .ignored ↔ .freeze ∉ before ∧ ∀ w h, ¬ SpellsShape width height w h) ∧
        next.shape = change.shape?.getD c.shape) ∧
    run.1.shape = lastApplied run.2 ∧
    ∃ side, run.1.shape.side = .ok side ∧ 0 < side.toNat ∧
      side.toNat = run.1.shape.width.toNat * run.1.shape.height.toNat := by
  intro run
  have hrun : run.1.Follows calls run.2 := follows_default.callAll calls
  refine ⟨?_, hrun.shape, ?_⟩
  · rintro before width height after rfl c next
    have hc : c.Follows before _ := follows_default.callAll before
    have hfree : c.frozen = false ↔ .freeze ∉ before := by rw [← hc.frozen, Bool.not_eq_true]
    obtain ⟨hfrozen, happlied, hignored, hshape, -⟩ := c.set_spec width height
    refine ⟨(c.set width height).2, callAll_getElem? _ before _ after, ?_, ?_, ?_, ?_⟩
    · rw [hfrozen, hc.frozen]
    · intro shape
      rw [happlied, hfree]
    · rw [hignored, hfree]
    · have hnext : next = (c.set width height).1 := callAll_concat _ before _
      rw [hnext, hshape]
  · have hp := hrun.proper
    refine ⟨_, hp.side_eq, ?_, BoxShape.side_eq_ok_iff.1 hp.side_eq⟩
    rw [BoxShape.side_eq_ok_iff.1 hp.side_eq]
    exact Nat.mul_pos hp.1 hp.2.1

/-- A blank, a sign and a zero in front; counts that are too large together; and a shape that comes too
late. -/
theorem callAll_follows_sample_calls :
    let calls : List Call := [.set (some "\u2003+04 ") (some "2"), .set (some "65536") (some "65536"),
      .freeze, .set (some "2") (some "2")]
    let run := ({} : Configuration).callAll calls
    run.2 = [some (.applied ⟨4, 2⟩), some .ignored, none, some .frozen] ∧
      SpellsShape (some "\u2003+04 ") (some "2") 4 2 ∧
      (∀ w h, ¬ SpellsShape (some "65536") (some "65536") w h) ∧ run.1.shape = ⟨4, 2⟩ := by
  intro calls run
  have hrun : run.2 = [some (.applied ⟨4, 2⟩), some .ignored, none, some .frozen] := by decide +kernel
  obtain ⟨hcalls, hshape, -⟩ := callAll_follows_calls calls
  obtain ⟨first, hfirst, -, happlied, -⟩ := hcalls [] _ _ _ rfl
  obtain ⟨second, hsecond, -, -, hignored, -⟩ := hcalls [_] _ _ _ rfl
  rw [hrun] at hfirst hsecond hshape
  cases hfirst
  cases hsecond
  exact ⟨hrun, ((happlied ⟨4, 2⟩).1 rfl).2, (hignored.1 rfl).2, hshape⟩

end Configuration

end BoxPuzzle

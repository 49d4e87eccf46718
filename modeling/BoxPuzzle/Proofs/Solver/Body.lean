import BoxPuzzle.Proofs.Json.Settled
import BoxPuzzle.Proofs.Wire
import BoxPuzzle.Solver.Service

/-!
# Bodies, wrapped or not

A response may come as it is, in which case the body is settled before it is read, or wrapped in a
JSON string, in which case the text inside is read directly. The two ways agree on every text in
which no object repeats a name.

* `Response.ofBody?_of_distinct`: what is made of a body that is no string;
* `Response.ofBody?_wrapped`: what is made of a text in a string;
* `Response.distinctNames_toJson`, `Response.settles_toJson`: responses as they are written;
* **`Response.body_readings_agree`**.
-/

namespace BoxPuzzle

namespace Response

/-- A body that settles to something else than a string is read as it is. -/
theorem ofBody?_of_distinct {t : String} {j v : Json} (hread : Json.read? t = some j)
    (hsettle : j.settle? = some v) (htext : ∀ s, v ≠ .text s) (hd : j.DistinctNames) :
    ofBody? t = decode? t := by
  have hv : v = j := by
    unfold Json.settle? at hsettle
    split_ifs at hsettle
    rw [Json.merged_eq_self hd] at hsettle
    exact (Option.some.inj hsettle).symm
  -- both readings see the same value
  subst hv
  simp only [ofBody?, decode?, hread, hsettle, Option.bind_eq_bind, Option.bind_some]
  split
  · next inner => exact absurd rfl (htext (some inner))
  · rfl

/-- A string in a body is read as a text, whatever it is. -/
theorem ofBody?_wrapped (t : String) : ofBody? (Json.ofText t).write = decode? t := by
  rw [ofBody?, Json.read?_write]
  rfl

/-! ## Responses as they are written -/

theorem distinctNames_toJson (r : Response) : (toJson r).DistinctNames := by
  refine Json.distinctNames_ofMembers (by simp) (List.forall_mem_singleton.2 ?_)
  cases r.solution with
  | none => exact .null
  | some ps =>
    refine Json.distinctNames_ofList fun p _ => ?_
    refine Json.distinctNames_ofMembers (by simp) ?_
    simp only [List.forall_mem_cons]
    exact ⟨.number _, .number _, .number _, List.forall_mem_nil _⟩

theorem settles_toJson (r : Response) : (toJson r).settles nestingLimit = true := by
  refine Json.settles_ofMembers (List.forall_mem_singleton.2 ?_)
  cases r.solution with
  | none => rfl
  | some ps =>
    refine Json.settles_ofList fun p _ => ?_
    refine Json.settles_ofMembers ?_
    simp only [List.forall_mem_cons]
    exact ⟨Json.settles_ofWord _ _, Json.settles_ofWord _ _, Json.settles_ofWord _ _,
      List.forall_mem_nil _⟩

theorem ofBody?_encode (r : Response) : ofBody? (encode r) = some r := by
  have hread : Json.read? (encode r) = some (toJson r) := Json.read?_write (toJson r)
  have hsettle : (toJson r).settle? = some (toJson r) := by
    rw [Json.settle?, if_pos r.settles_toJson, Json.merged_eq_self r.distinctNames_toJson]
  rw [ofBody?_of_distinct hread hsettle (fun _ => Json.noConfusion) r.distinctNames_toJson,
    decode?_encode]

/-- A string is no response. -/
theorem decode?_wrapped (t : String) : (decode? (Json.ofText t).write : Option Response) = none := by
  rw [decode?, Json.read?_write]
  rfl

/-! ## Both ways -/

theorem ofBody_eq_ok_iff {t : String} {r : Response} : ofBody t = .ok r ↔ ofBody? t = some r := by
  unfold ofBody
  cases ofBody? t <;> simp

theorem ofBody_eq_malformed_iff {t : String} :
    ofBody t = .error .malformed ↔ ofBody? t = none := by
  unfold ofBody
  cases ofBody? t <;> simp

/-- **Wrapped or not, a body means the same.** A text that settles to something else than a string,
and in which no object repeats a name, gives the same response as it is and in a string, or is
malformed both ways. The text of a response gives that response both ways, and is malformed in two
strings. -/
theorem body_readings_agree :
    (∀ (t : String) (j v : Json), Json.read? t = some j → j.settle? = some v →
      (∀ s, v ≠ .text s) → j.DistinctNames →
        (∃ r, ofBody t = .ok r ∧ ofBody (Json.ofText t).write = .ok r) ∨
          (ofBody t = .error .malformed ∧ ofBody (Json.ofText t).write = .error .malformed)) ∧
    ∀ r : Response, ofBody (encode r) = .ok r ∧ ofBody (Json.ofText (encode r)).write = .ok r ∧
      ofBody (Json.ofText (Json.ofText (encode r)).write).write = .error .malformed := by
  constructor
  · intro t j v hread hsettle htext hd
    have hplain : ofBody? t = decode? t := ofBody?_of_distinct hread hsettle htext hd
    simp only [ofBody_eq_ok_iff, ofBody_eq_malformed_iff, hplain, ofBody?_wrapped, and_self]
    cases (decode? t : Option Response) with
    | some r => exact .inl ⟨r, rfl⟩
    | none => exact .inr rfl
  · intro r
    simp only [ofBody_eq_ok_iff, ofBody_eq_malformed_iff, ofBody?_wrapped]
    exact ⟨r.ofBody?_encode, decode?_encode r, decode?_wrapped _⟩

/-- A body with a member that means nothing and a placement in order, without names. -/
def sampleBody : Json :=
  .object [(some "steps", .array [.null, .bool true]),
    (some "solution", .array [.array [.ofWord 0, .ofWord 1, .ofWord 2]])]

theorem distinctNames_sampleBody : sampleBody.DistinctNames := by
  refine .object (by decide) ?_
  simp only [List.forall_mem_cons]
  refine ⟨.array ?_, .array ?_, List.forall_mem_nil _⟩
  · simp only [List.forall_mem_cons]
    exact ⟨.null, .bool true, List.forall_mem_nil _⟩
  · refine List.forall_mem_singleton.2 (.array ?_)
    simp only [List.forall_mem_cons]
    exact ⟨.number _, .number _, .number _, List.forall_mem_nil _⟩

theorem sampleBody_readings_agree :
    Json.read? sampleBody.write = some sampleBody ∧ sampleBody.settle? = some sampleBody ∧
      (∀ s, sampleBody ≠ .text s) ∧ sampleBody.DistinctNames ∧
      ofBody sampleBody.write = .ok ⟨some [⟨0, 1, 2⟩]⟩ ∧
      ofBody (Json.ofText sampleBody.write).write = .ok ⟨some [⟨0, 1, 2⟩]⟩ := by
  have hread : Json.read? sampleBody.write = some sampleBody := Json.read?_write sampleBody
  have hsettle : sampleBody.settle? = some sampleBody := rfl
  have hbody : ofBody sampleBody.write = .ok ⟨some [⟨0, 1, 2⟩]⟩ := by
    rw [ofBody_eq_ok_iff, ofBody?, hread]
    rfl
  refine ⟨hread, hsettle, fun _ => Json.noConfusion, distinctNames_sampleBody, hbody, ?_⟩
  obtain ⟨r, hplain, hwrapped⟩ | ⟨hplain, -⟩ := body_readings_agree.1 _ _ _ hread hsettle
    (fun _ => Json.noConfusion) distinctNames_sampleBody
  · rw [hwrapped, ← hplain, hbody]
  · rw [hbody] at hplain
    cases hplain

-- of members with one name the last counts in a body, but in a string there must not be two
example :
    let j : Json := .object [(some "solution", .bool true), (some "solution", .null)]
    ofBody? j.write = some {} ∧ ofBody? (Json.ofText j.write).write = none := by
  intro j
  have hread : Json.read? j.write = some j := Json.read?_write j
  rw [ofBody?_wrapped, ofBody?, decode?, hread]
  exact ⟨rfl, rfl⟩

end Response

end BoxPuzzle

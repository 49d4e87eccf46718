import BoxPuzzle.Proofs.Session.Agreement

/-!
# Requests are well formed

The widget may hold givens that the grid has no room for, since a new shape leaves them as they
are. None of them reaches the service: a request is sent only for givens that fit.

* `Request.WellFormed`: what a service may rely on;
* `wellFormed_request`: givens that were checked make a well-formed request;
* `received_step`: a step sends at most one request, and only a submission sends one;
* `received_prefix`, `exists_submit_of_received`: where the requests of a run come from;
* `Recorded`, `Recorded.step`: the submitted givens are those of the last request;
* **`requests_wellFormed`**: all of it, for every run.
-/

namespace BoxPuzzle

/-- Positive box counts whose product fits in a word, distinct cells, and cells and digits of a
grid with such boxes. -/
structure Request.WellFormed (r : Request) : Prop where
  proper : r.boxes.Proper
  distinct : (r.givens.map Placement.cell).Nodup
  inGrid : ∀ p ∈ r.givens, p.row.toNat < r.boxes.width.toNat * r.boxes.height.toNat ∧
    p.column.toNat < r.boxes.width.toNat * r.boxes.height.toNat ∧
    1 ≤ p.digit.toNat ∧ p.digit.toNat ≤ r.boxes.width.toNat * r.boxes.height.toNat

namespace Session

variable {α : Type}

theorem wellFormed_request {s : Session α} (hp : s.configuration.shape.Proper) {n : UInt32}
    (hn : s.configuration.shape.side = .ok n) (hg : s.widget.givens.fault? n = none) :
    s.request.WellFormed where
  proper := hp
  distinct := by
    rw [request, Request.ofGivens, Givens.map_cell_placements]
    exact s.widget.givens.distinct
  inGrid p hp := by
    have hfits := Givens.fault?_eq_none_iff.1 hg
    rw [BoxShape.side_eq_ok_iff.1 hn] at hfits
    obtain ⟨e, he, rfl⟩ := List.mem_map.1 hp
    exact hfits e he

theorem received_asked (s : Session α) :
    s.asked.service.received = s.service.received ++ [s.request] :=
  s.service.received_solve s.request

/-! ## The last request -/

/-- A solved session holds the givens of the last request that it sent. -/
def Recorded (s : Session α) : Prop :=
  s.isSolved = true → ∃ r, s.service.received.getLast? = some r ∧
    s.submitted = some (.ofPlacements r.givens)

theorem Recorded.of_frame {s t : Session α} (h : s.Recorded) (f : Frame s t) : t.Recorded := by
  intro ht
  rw [f.isSolved] at ht
  rw [f.service, f.submitted]
  exact h ht

theorem recorded_withSolution (s : Session α) (g : Givens) (now : Nat) :
    (s.asked.withSolution g now).Recorded := by
  intro _
  refine ⟨s.request, ?_, ?_⟩
  · show s.asked.service.received.getLast? = some s.request
    rw [received_asked, List.getLast?_append, List.getLast?_singleton, Option.some_or]
  · show some s.widget.givens = some (.ofPlacements s.widget.givens.placements)
    rw [Givens.ofPlacements_placements]

/-! ## Requests of a step -/

variable [Length α]

/-- **A step sends nothing, or it is a submission and sends the request of the moment.** -/
theorem received_step {s t : Session α} {op : Operation} {r : Checked (Outcome α)}
    (h : s.Consistent) (hs : Step s op t r) :
    t.service.received = s.service.received ∨
      (∃ now, op = .submit now) ∧ s.request.WellFormed ∧
        t.service.received = s.service.received ++ [s.request] := by
  obtain heq | ⟨now, n, rfl, side, fits, heq⟩ := hs.service
  · exact .inl (by rw [heq])
  · refine .inr ⟨⟨now, rfl⟩, wellFormed_request h.proper side fits, ?_⟩
    rw [heq, received_asked]

/-! ## Requests of a run -/

theorem received_prefix {s : Session α} (h : s.Consistent) (ops : List Operation) :
    s.service.received <+: (s.run ops).1.service.received := by
  refine (run_induction (P := fun t => t.Consistent ∧ s.service.received <+: t.service.received)
    (fun t op u r ht hs => ⟨ht.1.step hs, ht.2.trans ?_⟩) ⟨h, List.prefix_rfl⟩ ops).2
  obtain heq | ⟨-, -, heq⟩ := received_step ht.1 hs
  · exact heq ▸ List.prefix_rfl
  · exact heq ▸ List.prefix_append _ _

/-- Every request after those that were there is the request of some moment of the run, at which
exactly the requests before it had been received. -/
theorem exists_submit_of_received {s : Session α} (h : s.Consistent) {ops : List Operation} {i : Nat}
    {r : Request} (hi : s.service.received.length ≤ i)
    (hr : (s.run ops).1.service.received[i]? = some r) :
    r.WellFormed ∧ ∃ pre now post, ops = pre ++ .submit now :: post ∧
      (s.run pre).1.service.received.length = i ∧ r = (s.run pre).1.request := by
  induction ops generalizing s with
  | nil =>
    rw [run_nil, List.getElem?_eq_none hi] at hr
    cases hr
  | cons op ops ih =>
    have h' : (s.step op).1.Consistent := h.step (step_spec s op)
    have later : (s.step op).1.service.received.length ≤ i →
        r.WellFormed ∧ ∃ pre now post, op :: ops = pre ++ .submit now :: post ∧
          (s.run pre).1.service.received.length = i ∧ r = (s.run pre).1.request := by
      intro hi'
      obtain ⟨hw, pre, now, post, rfl, hlen, heq⟩ := ih h' hi' hr
      exact ⟨hw, op :: pre, now, post, rfl, hlen, heq⟩
    obtain heq | ⟨⟨now, rfl⟩, hw, heq⟩ := received_step h (step_spec s op)
    · exact later (by rw [heq]; exact hi)
    · by_cases hi' : i = s.service.received.length
      · -- the request that this very step sends stays where it is to the end of the run
        obtain ⟨rest, hrest⟩ := received_prefix h' ops
        have hreq : r = s.request := by
          rw [run_cons, ← hrest, heq, hi'] at hr
          simpa using hr.symm
        exact ⟨hreq ▸ hw, [], now, ops, rfl, hi'.symm, hreq⟩
      · exact later (by rw [heq, List.length_append, List.length_singleton]; omega)

theorem Recorded.step {s t : Session α} {op : Operation} {r : Checked (Outcome α)}
    (h : s.Recorded) (hs : Step s op t r) : t.Recorded := by
  cases hs with
  | reshape =>
    refine Recorded.of_frame ?_ (frame_displayUpdated _)
    exact h
  | display => exact h.of_frame (frame_displayUpdated _)
  | refresh => exact h.of_frame (frame_refreshLayout _)
  | ignore | frozen | fill | clear | again | overflow | misfit => exact h
  | fail unsolved =>
    intro hs
    rw [show s.asked.isSolved = s.isSolved from rfl, unsolved] at hs
    cases hs
  | solve => exact (recorded_withSolution s _ _).of_frame (frame_displayUpdated _)

/-- **Every request is well formed**: each one that the service receives was sent by a submission
of the run and holds the givens and the shape of that moment, in the order of the widget; and a
solved session keeps the givens of the last request, whatever was edited since. -/
theorem requests_wellFormed (service : Service) (host : Host α) (widget : Widget)
    (selectors : Selectors) (ops : List Operation) :
    let s := start service host widget selectors
    let t := (s.run ops).1
    (∀ i r, service.received.length ≤ i → t.service.received[i]? = some r →
      r.WellFormed ∧ ∃ pre now post, ops = pre ++ .submit now :: post ∧
        (s.run pre).1.service.received.length = i ∧
        r.givens = (s.run pre).1.widget.givens.placements ∧
        r.boxes = (s.run pre).1.configuration.shape) ∧
    (t.isSolved = true → ∃ r, t.service.received.getLast? = some r ∧
      t.submitted = some (.ofPlacements r.givens)) := by
  intro s t
  have h : s.Consistent := consistent_start service host widget selectors
  refine ⟨fun i r hi hr => ?_, run_induction (fun _ _ _ _ h hs => Recorded.step h hs) ?_ ops⟩
  · obtain ⟨hw, pre, now, post, hops, hlen, rfl⟩ := exists_submit_of_received h hi hr
    exact ⟨hw, pre, now, post, hops, hlen, rfl, rfl⟩
  · intro hs
    cases hs

theorem requests_sample_wellFormed :
    let t := (sample.run sampleOps).1
    t.service.received[1]? = some ⟨[⟨1, 0, 2⟩], ⟨2, 1⟩⟩ ∧
      Request.WellFormed ⟨[⟨1, 0, 2⟩], ⟨2, 1⟩⟩ ∧
      t.isSolved = true ∧ ∃ r, t.service.received.getLast? = some r ∧
        t.submitted = some (.ofPlacements r.givens) :=
  have h := requests_wellFormed sampleService (BoxModel.standard (500 : Float)).host {} {} sampleOps
  ⟨rfl, (h.1 1 _ (Nat.zero_le 1) rfl).1, rfl, h.2 rfl⟩

end Session

end BoxPuzzle

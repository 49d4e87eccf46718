import BoxPuzzle.Proofs.Session.Finality
import BoxPuzzle.Proofs.Session.Layout

/-!
# The log tells the session

What a session announces comes in blocks, one for each operation that lays the grid out, and every
block ends with that layout. Whoever reads the log knows the shape, whether the puzzle is solved
and how the last layout came out.

* `Block`, `Block.events`: what one operation announces;
* `Announces`: the session after a block;
* `Step.announces`: **an operation announces nothing, or one block**;
* `Logged`, `Logged.announces`: the invariant, one block further;
* **`log_tells_session`**.
-/

namespace BoxPuzzle

/-! ## Blocks of events -/

/-- The shape that an event announces. -/
def Event.shape? : Event → Option BoxShape
  | shapeChanged shape => some shape
  | _ => none

/-- The number of anomalies that an event announces. -/
def Event.anomalies? : Event → Option Nat
  | layoutApplied _ anomalies => some anomalies
  | _ => none

/-- What one operation announces: why it laid the grid out, and how many anomalies there were. -/
inductive Block where
  | reshaped (shape : BoxShape) (anomalies : Nat)
  | solved (cells anomalies : Nat)
  | displayed (anomalies : Nat)
  | laidOut (anomalies : Nat)

namespace Block

/-- The events of a block; a layout has seven rules. -/
def events : Block → List Event
  | reshaped shape anomalies => [.shapeChanged shape, .displayUpdated, .layoutApplied 7 anomalies]
  | solved cells anomalies => [.solved cells, .displayUpdated, .layoutApplied 7 anomalies]
  | displayed anomalies => [.displayUpdated, .layoutApplied 7 anomalies]
  | laidOut anomalies => [.layoutApplied 7 anomalies]

/-- The shape that a block announces. -/
def shape? : Block → Option BoxShape
  | reshaped shape _ => some shape
  | _ => none

/-- The number of anomalies that a block announces. -/
def anomalies : Block → Nat
  | reshaped _ anomalies | solved _ anomalies | displayed anomalies | laidOut anomalies => anomalies

theorem filterMap_shape?_events (b : Block) : b.events.filterMap Event.shape? = b.shape?.toList := by
  cases b <;> rfl

theorem filterMap_anomalies?_events (b : Block) :
    b.events.filterMap Event.anomalies? = [b.anomalies] := by
  cases b <;> rfl

/-- Within a block no shape follows a solution. -/
theorem pairwise_events (b : Block) :
    b.events.Pairwise fun e f => e.cells? = none ∨ f.shape? = none := by
  cases b <;> simp [events, Event.cells?, Event.shape?]

end Block

namespace Session

variable {α : Type} [Length α]

/-! ## One operation -/

/-- `t` is `s` after the operation that announces `b`. -/
structure Announces (s t : Session α) (b : Block) : Prop where
  events : t.events = s.events ++ b.events
  shape : t.configuration.shape = b.shape?.getD s.configuration.shape
  layout : ∃ report, LaidOut s t report ∧ b.anomalies = report.anomalies.length
  unsolved : b.shape?.isSome = true → s.isSolved = false

theorem size_of_laidOut {s t : Session α} {report : Report α} (h : LaidOut s t report) :
    t.style.size = 7 :=
  Style.size_relayOut h.1

theorem announces_displayUpdated {s : Session α} {report : Report α}
    (h : s.displayUpdated.2 = .ok report) :
    LaidOut s s.displayUpdated.1 report ∧ s.displayUpdated.1.events =
      s.events ++ [.displayUpdated, .layoutApplied 7 report.anomalies.length] := by
  obtain ⟨hlaid, hevents⟩ := displayUpdated_of_ok h
  rw [size_of_laidOut hlaid] at hevents
  exact ⟨hlaid, hevents⟩

/-- **An operation that returns announces nothing, or one block.** -/
theorem Step.announces {s t : Session α} {op : Operation} {r : Checked (Outcome α)}
    (hs : Step s op t r) (h : s.Consistent) (hr : ∃ o, r = .ok o) :
    (t.events = s.events ∧ t.configuration.shape = s.configuration.shape ∧
      t.lastLayout = s.lastLayout) ∨ ∃ b, Announces s t b := by
  cases hs with
  | @reshape _ _ shape n free typed side =>
    obtain ⟨report, hreport⟩ := Checked.exists_map_eq_ok.1 hr
    obtain ⟨hlaid, hevents⟩ := announces_displayUpdated hreport
    refine .inr ⟨.reshaped shape report.anomalies.length, ?_, ?_, ⟨report, hlaid, rfl⟩, ?_⟩
    · rw [hevents, reshaped, List.append_assoc]
      rfl
    · rw [(frame_displayUpdated _).configuration]
      rfl
    · intro _
      rw [← h.frozen, free]
  | display =>
    obtain ⟨report, hreport⟩ := Checked.exists_map_eq_ok.1 hr
    obtain ⟨hlaid, hevents⟩ := announces_displayUpdated hreport
    refine .inr ⟨.displayed report.anomalies.length, hevents, ?_, ⟨report, hlaid, rfl⟩, ?_⟩
    · rw [(frame_displayUpdated _).configuration]
      rfl
    · intro hshape
      cases hshape
  | refresh =>
    obtain ⟨report, hreport⟩ := Checked.exists_map_eq_ok.1 hr
    obtain ⟨hlaid, hevents⟩ := refreshLayout_of_ok hreport
    rw [size_of_laidOut hlaid] at hevents
    refine .inr ⟨.laidOut report.anomalies.length, hevents, ?_, ⟨report, hlaid, rfl⟩, ?_⟩
    · rw [(frame_refreshLayout _).configuration]
      rfl
    · intro hshape
      cases hshape
  | @solve now n g unsolved side fits answer =>
    obtain ⟨report, hreport⟩ := Checked.exists_map_eq_ok.1 hr
    obtain ⟨hlaid, hevents⟩ := announces_displayUpdated hreport
    refine .inr ⟨.solved g.size report.anomalies.length, ?_, ?_, ⟨report, hlaid, rfl⟩, ?_⟩
    · rw [hevents, withSolution, List.append_assoc]
      rfl
    · rw [(frame_displayUpdated _).configuration]
      rfl
    · intro hshape
      cases hshape
  | ignore | frozen | fill | clear | again | overflow | misfit | fail => exact .inl ⟨rfl, rfl, rfl⟩

/-! ## The whole log -/

/-- The log consists of blocks, has no shape after a solution, and tells the shape and the last
layout. -/
structure Logged (s : Session α) : Prop where
  blocks : ∃ blocks : List Block, s.events = blocks.flatMap Block.events
  ordered : s.events.Pairwise fun e f => e.cells? = none ∨ f.shape? = none
  shape : (s.events.filterMap Event.shape?).getLast?.getD .standard = s.configuration.shape
  layout : (s.events.filterMap Event.anomalies?).getLast? =
    s.lastLayout.map fun report => report.anomalies.length

theorem Logged.announces {s t : Session α} {b : Block} (h : s.Logged)
    (hsolved : s.announced = (s.solution.map Givens.size).toList) (hb : Announces s t b) :
    t.Logged where
  blocks := by
    obtain ⟨blocks, hblocks⟩ := h.blocks
    refine ⟨blocks ++ [b], ?_⟩
    rw [hb.events, hblocks, List.flatMap_append, List.flatMap_singleton]
  ordered := by
    rw [hb.events, List.pairwise_append]
    refine ⟨h.ordered, b.pairwise_events, fun e he f hf => ?_⟩
    cases hshape : b.shape? with
    | none =>
      -- nothing in the block announces a shape
      have hnone := b.filterMap_shape?_events
      rw [hshape, Option.toList_none, List.filterMap_eq_nil_iff] at hnone
      exact .inr (hnone f hf)
    | some shape =>
      -- a shape is only taken as long as nothing was announced to be solved
      have hs := hb.unsolved (by rw [hshape]; rfl)
      rw [solution_eq_none hs, announced, Option.map_none, Option.toList_none,
        List.filterMap_eq_nil_iff] at hsolved
      exact .inl (hsolved e he)
  shape := by
    rw [hb.events, hb.shape, List.filterMap_append, b.filterMap_shape?_events, ← h.shape]
    cases b.shape? with
    | none => rw [Option.toList_none, List.append_nil, Option.getD_none]
    | some shape => rw [Option.toList_some, List.getLast?_concat]; rfl
  layout := by
    obtain ⟨report, ⟨-, hlast⟩, hcount⟩ := hb.layout
    rw [hb.events, hlast, List.filterMap_append, b.filterMap_anomalies?_events, List.getLast?_concat,
      hcount]
    rfl

theorem Logged.step {s t : Session α} {op : Operation} {r : Checked (Outcome α)} (h : s.Logged)
    (hc : s.Consistent) (hsolved : s.announced = (s.solution.map Givens.size).toList)
    (hs : Step s op t r) (hr : ∃ o, r = .ok o) : t.Logged := by
  obtain ⟨hevents, hshape, hlast⟩ | ⟨b, hb⟩ := hs.announces hc hr
  · obtain ⟨hblocks, hordered, hs, hl⟩ := h
    rw [← hevents] at hblocks hordered hs hl
    exact ⟨hblocks, hordered, hshape ▸ hs, hlast ▸ hl⟩
  · exact h.announces hsolved hb

variable (service : Service) (host : Host α) (widget : Widget) (selectors : Selectors)

theorem logged_run (hh : host.Answers) (ops : List Operation) :
    ((start service host widget selectors).run ops).1.Logged := by
  refine (run_induction (P := fun s => s.Consistent ∧ s.host = host ∧
    s.announced = (s.solution.map Givens.size).toList ∧ s.Logged) ?_ ?_ ops).2.2.2
  · rintro s op t r ⟨hc, hhost, hsolved, hlog⟩ hs
    have hr := hs.returns hc.proper (by rwa [hhost])
    exact ⟨hc.step hs, hs.host.trans hhost, announced_step hsolved hs, hlog.step hc hsolved hs hr⟩
  · exact ⟨consistent_start service host widget selectors, rfl, rfl, ⟨[], rfl⟩, .nil, rfl, rfl⟩

/-- **The log tells the session.** It consists of blocks, with at most one solution and no shape
after it; every operation adds nothing or one block, which ends with the seven rules and the
anomalies of the layout that the operation computed. The last shape in the log is the current one,
the standard shape if there is none; a solution was announced exactly when there is one, with its
size; and the last layout in the log is the last one computed. -/
theorem log_tells_session (hh : host.Answers) (ops : List Operation) :
    let s := ((start service host widget selectors).run ops).1
    (∃ blocks : List Block, s.events = blocks.flatMap Block.events) ∧
    s.announced.length ≤ 1 ∧
    s.events.Pairwise (fun e f => e.cells? = none ∨ f.shape? = none) ∧
    (∀ op, let t := (s.step op).1
      t.events = s.events ∨ ∃ (b : Block) (report : Report α), t.events = s.events ++ b.events ∧
        s.style.relayOut host t.configuration.shape = (t.style, .ok report) ∧
        b.anomalies = report.anomalies.length) ∧
    (s.events.filterMap Event.shape?).getLast?.getD .standard = s.configuration.shape ∧
    s.events.filterMap Event.cells? = (s.solution.map Givens.size).toList ∧
    (s.events.filterMap Event.anomalies?).getLast? =
      s.lastLayout.map fun report => report.anomalies.length := by
  intro s
  have hc : s.Consistent := consistent_run service host widget selectors ops
  have hhost : s.host = host := (upToDate_run service host widget selectors hh ops).measured
  have hsolved : s.announced = _ := announced_run service host widget selectors ops
  obtain ⟨hblocks, hordered, hshape, hlayout⟩ := logged_run service host widget selectors hh ops
  refine ⟨hblocks, ?_, hordered, fun op => ?_, hshape, hsolved, hlayout⟩
  · rw [hsolved, Option.length_toList]
    cases s.solution.map Givens.size <;> simp
  · have hs := step_spec s op
    obtain ⟨hevents, -, -⟩ | ⟨b, hb⟩ := hs.announces hc (hs.returns hc.proper (by rwa [hhost]))
    · exact .inl hevents
    · obtain ⟨report, ⟨hrelaid, -⟩, hcount⟩ := hb.layout
      exact .inr ⟨b, report, hb.events, hhost ▸ hrelaid, hcount⟩

theorem log_of_sample_tells_session :
    let host := (BoxModel.standard (500 : Float)).host
    let s := (sample.run sampleOps).1
    host.Answers ∧ (∃ blocks : List Block, s.events = blocks.flatMap Block.events) ∧
      s.events.filterMap Event.shape? = [⟨2, 1⟩] ∧ s.configuration.shape = ⟨2, 1⟩ ∧
      s.events.filterMap Event.cells? = [4] := by
  intro host s
  have hh : host.Answers := (BoxModel.standard (500 : Float)).answers_host
  obtain ⟨hblocks, -, -, -, hshape, hsolved, -⟩ :=
    log_tells_session sampleService host {} {} hh sampleOps
  exact ⟨hh, hblocks, rfl, hshape.symm, hsolved⟩

end Session

end BoxPuzzle

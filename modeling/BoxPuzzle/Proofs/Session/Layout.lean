import BoxPuzzle.Proofs.Layout.Pass
import BoxPuzzle.Proofs.Session.Agreement

/-!
# The layout follows the shape

A session lays the same style out again and again. What stands in it is nevertheless what a layout
from scratch gives in the current shape: every layout clears the style first, and no operation
returns with a shape that has not been laid out.

* `refreshLayout_of_ok`, `displayUpdated_of_ok`: what a layout leaves in a session;
* `UpToDate`, `UpToDate.step`: the invariant;
* `answered_run`: on a host that can measure every grid each operation returns;
* **`layout_follows_shape`**.
-/

namespace BoxPuzzle

variable {α : Type}

theorem Checked.exists_map_eq_ok {β γ : Type} {x : Checked β} {f : β → γ} :
    (∃ c, x.map f = .ok c) ↔ ∃ b, x = .ok b := by
  cases x with
  | error e => exact iff_of_false (fun ⟨_, h⟩ => by cases h) (fun ⟨_, h⟩ => by cases h)
  | ok b => exact iff_of_true ⟨f b, rfl⟩ ⟨b, rfl⟩

variable [Length α]

namespace Session

/-- The session lays out its style in its current shape and host, and `t` has the outcome. -/
def LaidOut (s t : Session α) (report : Report α) : Prop :=
  s.style.relayOut s.host t.configuration.shape = (t.style, .ok report) ∧
    t.lastLayout = some report

theorem refreshLayout_of_ok {s : Session α} {report : Report α} (h : s.refreshLayout.2 = .ok report) :
    LaidOut s s.refreshLayout.1 report ∧ s.refreshLayout.1.events =
      s.events ++ [.layoutApplied s.refreshLayout.1.style.size report.anomalies.length] := by
  unfold LaidOut
  rw [(frame_refreshLayout s).configuration]
  unfold refreshLayout at h ⊢
  split at h
  · cases h
  · next style report' heq =>
    cases h
    rw [heq]
    exact ⟨⟨rfl, rfl⟩, rfl⟩

theorem displayUpdated_of_ok {s : Session α} {report : Report α}
    (h : s.displayUpdated.2 = .ok report) :
    LaidOut s s.displayUpdated.1 report ∧ s.displayUpdated.1.events = s.events ++
      [.displayUpdated, .layoutApplied s.displayUpdated.1.style.size report.anomalies.length] := by
  obtain ⟨hlaid, hevents⟩ := refreshLayout_of_ok (s := s.emit .displayUpdated) h
  refine ⟨hlaid, hevents.trans ?_⟩
  rw [emit, List.append_assoc]
  rfl

/-! ## The layout of a session -/

/-- **An operation that returns leaves layout and shape alone, or lays out in the shape that it
leaves behind.** -/
theorem Step.layout {s t : Session α} {op : Operation} {r : Checked (Outcome α)}
    (hs : Step s op t r) (hr : ∃ o, r = .ok o) :
    (t.style = s.style ∧ t.lastLayout = s.lastLayout ∧ t.configuration.shape = s.configuration.shape)
      ∨ ∃ report, LaidOut s t report := by
  cases hs with
  | reshape | display | solve =>
    obtain ⟨report, hreport⟩ := Checked.exists_map_eq_ok.1 hr
    exact .inr ⟨report, (displayUpdated_of_ok hreport).1⟩
  | refresh =>
    obtain ⟨report, hreport⟩ := Checked.exists_map_eq_ok.1 hr
    exact .inr ⟨report, (refreshLayout_of_ok hreport).1⟩
  | ignore | frozen | fill | clear | again | overflow | misfit | fail => exact .inl ⟨rfl, rfl, rfl⟩

theorem Step.host {s t : Session α} {op : Operation} {r : Checked (Outcome α)} (hs : Step s op t r) :
    t.host = s.host := by
  cases hs with
  | reshape | display | solve => exact (frame_displayUpdated _).host
  | refresh => exact (frame_refreshLayout _).host
  | ignore | frozen | fill | clear | again | overflow | misfit | fail => rfl

/-- Nothing has been laid out yet, or style and report are those of a layout from scratch in the
current shape. -/
structure UpToDate (host : Host α) (selectors : Selectors) (s : Session α) : Prop where
  measured : s.host = host
  naming : s.style.selectors = selectors
  layout : (s.style.rules = [] ∧ s.lastLayout = none) ∨ ∃ report,
    Style.relayOut { selectors } host s.configuration.shape = (s.style, .ok report) ∧
      s.lastLayout = some report

theorem UpToDate.step {host : Host α} {selectors : Selectors} {s t : Session α} {op : Operation}
    {r : Checked (Outcome α)} (h : s.UpToDate host selectors) (hs : Step s op t r)
    (hr : ∃ o, r = .ok o) : t.UpToDate host selectors := by
  obtain ⟨hstyle, hlast, hshape⟩ | ⟨report, hrelaid, hlast⟩ := hs.layout hr
  · refine ⟨hs.host.trans h.measured, ?_, ?_⟩
    · rw [hstyle, h.naming]
    · rw [hstyle, hlast, hshape]
      exact h.layout
  · -- of the style that was there only the selectors matter
    refine ⟨hs.host.trans h.measured, ?_, .inr ⟨report, ?_, hlast⟩⟩
    · rw [(Style.rules_relayOut hrelaid).1, h.naming]
    · rw [← hrelaid, h.measured]
      exact Style.relayOut_congr (s := { selectors }) (t := s.style) h.naming.symm host _

/-! ## Every operation returns -/

theorem exists_refreshLayout {s : Session α} (hh : s.host.Answers)
    (hp : s.configuration.shape.Proper) : ∃ report, s.refreshLayout.2 = .ok report := by
  obtain ⟨report, hreport⟩ := s.style.exists_relayOut hh hp
  refine ⟨report, ?_⟩
  unfold refreshLayout
  split <;> next heq =>
    rw [heq] at hreport
    exact hreport

theorem exists_displayUpdated {s : Session α} (hh : s.host.Answers)
    (hp : s.configuration.shape.Proper) : ∃ report, s.displayUpdated.2 = .ok report :=
  exists_refreshLayout (s := s.emit .displayUpdated) hh hp

/-- On a host that can measure every grid an operation does not overflow. -/
theorem Step.returns {s t : Session α} {op : Operation} {r : Checked (Outcome α)}
    (hs : Step s op t r) (hp : s.configuration.shape.Proper) (hh : s.host.Answers) :
    ∃ o, r = .ok o := by
  cases hs with
  | reshape free typed side =>
    exact Checked.exists_map_eq_ok.2 (exists_displayUpdated hh (typedShape?_proper typed))
  | display | solve => exact Checked.exists_map_eq_ok.2 (exists_displayUpdated hh hp)
  | refresh => exact Checked.exists_map_eq_ok.2 (exists_refreshLayout hh hp)
  | overflow unsolved side =>
    -- the side of a proper shape is a word
    rw [hp.side_eq] at side
    cases side
  | ignore | frozen | fill | clear | again | misfit | fail => exact ⟨_, rfl⟩

theorem answered_run {s : Session α} (h : s.Consistent) (hh : s.host.Answers)
    (ops : List Operation) : ∀ r ∈ (s.run ops).2, ∃ o, r = .ok o := by
  induction ops generalizing s with
  | nil => intro r hr; cases hr
  | cons op ops ih =>
    have hs := step_spec s op
    intro r hr
    rw [run_cons, List.mem_cons] at hr
    obtain rfl | hr := hr
    · exact hs.returns h.proper hh
    · exact ih (h.step hs) (by rwa [hs.host]) r hr

/-! ## No layout yet -/

/-- The answer of an operation that laid the grid out. -/
def laysOut : Checked (Outcome α) → Bool
  | .ok (.laidOut _) => true
  | .ok (.changed (.applied _)) => true
  | .ok (.submitted (.ok _)) => true
  | _ => false

theorem refreshLayout_of_none {s : Session α} (h : s.refreshLayout.1.lastLayout = none) :
    s.lastLayout = none ∧ ∃ e, s.refreshLayout.2 = .error e := by
  unfold refreshLayout at h ⊢
  split at h
  · exact ⟨h, _, rfl⟩
  · cases h

omit [Length α] in
theorem laysOut_map_error {β : Type} {x : Checked β} (h : ∃ e, x = .error e) (f : β → Outcome α) :
    laysOut (x.map f) = false := by
  obtain ⟨e, rfl⟩ := h
  rfl

/-- A session without a layout had none before, and nothing laid it out. -/
theorem Step.lastLayout_eq_none {s t : Session α} {op : Operation} {r : Checked (Outcome α)}
    (hs : Step s op t r) (h : t.lastLayout = none) : s.lastLayout = none ∧ laysOut r = false := by
  cases hs with
  | reshape | display | solve | refresh =>
    obtain ⟨hs, he⟩ := refreshLayout_of_none h
    exact ⟨hs, laysOut_map_error he _⟩
  | ignore | frozen | fill | clear | again | overflow | misfit | fail => exact ⟨h, rfl⟩

theorem lastLayout_run_eq_none {s : Session α} {ops : List Operation}
    (h : (s.run ops).1.lastLayout = none) :
    s.lastLayout = none ∧ ∀ r ∈ (s.run ops).2, laysOut r = false := by
  induction ops generalizing s with
  | nil => exact ⟨h, fun r hr => by cases hr⟩
  | cons op ops ih =>
    obtain ⟨hstep, hrun⟩ := ih h
    obtain ⟨hs, hr⟩ := (step_spec s op).lastLayout_eq_none hstep
    exact ⟨hs, List.forall_mem_cons.2 ⟨hr, hrun⟩⟩

/-! ## Every run -/

variable (service : Service) (host : Host α) (widget : Widget) (selectors : Selectors)

theorem upToDate_run (hh : host.Answers) (ops : List Operation) :
    ((start service host widget selectors).run ops).1.UpToDate host selectors := by
  refine (run_induction (P := fun s => s.Consistent ∧ s.UpToDate host selectors)
    (fun s op t r h hs => ⟨h.1.step hs, h.2.step hs ?_⟩)
    ⟨consistent_start service host widget selectors, rfl, rfl, .inl ⟨rfl, rfl⟩⟩ ops).2
  exact hs.returns h.1.proper (by rwa [h.2.measured])

/-- **The layout never drifts from the configuration.** On a host that can measure every grid each
operation returns, and after every run nothing has been laid out yet, or style and report are those
of a layout from scratch in the current shape; so no rule draws the boxes of another shape. -/
theorem layout_follows_shape (hh : host.Answers) (ops : List Operation) :
    let run := (start service host widget selectors).run ops
    let s := run.1
    (∀ r ∈ run.2, ∃ o, r = .ok o) ∧
    ((s.style = { selectors } ∧ s.lastLayout = none ∧ ∀ r ∈ run.2, laysOut r = false) ∨
      ∃ report, Style.relayOut { selectors } host s.configuration.shape = (s.style, .ok report) ∧
        s.lastLayout = some report) ∧
    ∀ rule ∈ s.style.rules, ∀ every,
      (rule.target = .columnEdge every → every = s.configuration.shape.width) ∧
      (rule.target = .rowEdge every → every = s.configuration.shape.height) := by
  intro run s
  have hanswered : ∀ r ∈ run.2, ∃ o, r = .ok o :=
    answered_run (consistent_start service host widget selectors) hh ops
  obtain ⟨-, hnaming, hlayout⟩ := upToDate_run service host widget selectors hh ops
  refine ⟨hanswered, ?_, ?_⟩
  · obtain ⟨hrules, hlast⟩ | hlaid := hlayout
    · have hstyle : s.style = { selectors } := by
        rw [← hnaming]
        exact congrArg (Style.mk s.style.selectors) hrules
      exact .inl ⟨hstyle, hlast, (lastLayout_run_eq_none hlast).2⟩
    · exact .inr hlaid
  · intro rule hrule every
    obtain ⟨hrules, -⟩ | ⟨report, hrelaid, -⟩ := hlayout
    · rw [hrules] at hrule
      cases hrule
    · rw [(Style.rules_relayOut hrelaid).2] at hrule
      exact Style.edges_of_mem hrule every

theorem layout_of_sample_follows_shape :
    let host := (BoxModel.standard (500 : Float)).host
    let s := (sample.run sampleOps).1
    host.Answers ∧ (∀ r ∈ (sample.run sampleOps).2, ∃ o, r = .ok o) ∧
      (∃ report, Style.relayOut {} host ⟨2, 1⟩ = (s.style, .ok report) ∧ s.lastLayout = some report) ∧
      ∀ rule ∈ s.style.rules, rule.target ≠ .columnEdge 3 := by
  intro host s
  have hh : host.Answers := (BoxModel.standard (500 : Float)).answers_host
  obtain ⟨hanswered, hlayout, hedges⟩ := layout_follows_shape sampleService host {} {} hh sampleOps
  refine ⟨hh, hanswered, ?_, fun rule hrule heq => absurd ((hedges rule hrule 3).1 heq) (by decide)⟩
  obtain ⟨-, hnone, -⟩ | hlaid := hlayout
  · have hsome : true = false := congrArg Option.isSome hnone
    cases hsome
  · exact hlaid

end Session

end BoxPuzzle

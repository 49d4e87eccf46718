import BoxPuzzle.Proofs.Session.Layout

/-!
# No product overflows

A session multiplies counts in two ways. It asks for the side of its grid, and a page of bordered
cells multiplies the periods that the first edge rules of the style draw, whatever shape is configured.
The shape is checked when it is set; the periods are those of the shape because every layout starts
from a cleared style.

* `Host.Modelled`: the hosts of the library;
* `periods?_of_upToDate`, `exists_rowWidth_of_upToDate`: what the rules of a session draw;
* **`run_never_overflows`**.
-/

namespace BoxPuzzle

variable {α : Type} [Length α]

/-- A page of bordered cells, or a host that always answers the same. -/
inductive Host.Modelled : Host α → Prop
  | page (m : BoxModel α) : Host.Modelled m.host
  | fixed (container cell row : α) : Host.Modelled (.fixed container cell row)

theorem Host.Modelled.answers {host : Host α} (h : host.Modelled) : host.Answers := by
  cases h with
  | page m => exact m.answers_host
  | fixed container cell row => exact Host.answers_fixed container cell row

namespace Session

variable {host : Host α} {selectors : Selectors} {s : Session α}

/-- The rules of a session draw no boxes yet, or those of its shape. -/
theorem periods?_of_upToDate (h : s.UpToDate host selectors) :
    s.style.periods? = none ∨
      s.style.periods? = some (s.configuration.shape.width, s.configuration.shape.height) := by
  obtain ⟨hrules, -⟩ | ⟨report, hrelaid, -⟩ := h.layout
  · left
    simp [Style.periods?, hrules]
  · right
    rw [Style.periods?, (Style.rules_relayOut hrelaid).2]
    rfl

theorem periods?_le (h : s.UpToDate host selectors) (hp : s.configuration.shape.Proper) :
    (s.style.periods?.getD (1, 1)).1.toNat * (s.style.periods?.getD (1, 1)).2.toNat ≤ 4294967295 := by
  obtain hnone | hsome := periods?_of_upToDate h
  · rw [hnone]
    decide
  · rw [hsome]
    exact hp.2.2

theorem exists_rowWidth_of_upToDate (h : s.UpToDate host selectors)
    (hp : s.configuration.shape.Proper) (hh : host.Modelled) :
    ∃ row, host.rowWidth s.style = .ok row := by
  cases hh with
  | page m => exact (m.exists_rowWidth_iff s.style).2 (periods?_le h hp)
  | fixed container cell row => exact ⟨row, rfl⟩

theorem length_run (s : Session α) (ops : List Operation) : (s.run ops).2.length = ops.length := by
  induction ops generalizing s with
  | nil => rfl
  | cons op ops ih => simp [run_cons, ih]

/-- **No run overflows.** Whatever is typed, edited and answered, every operation of a run returns,
so that none of the products in it overflows; and in the state that is reached neither the side of
the grid nor the product of the periods that the rules draw does. -/
theorem run_never_overflows (service : Service) (hh : host.Modelled) (widget : Widget)
    (selectors : Selectors) (ops : List Operation) :
    let run := (start service host widget selectors).run ops
    let shape := run.1.configuration.shape
    (run.2.length = ops.length ∧ ∀ r ∈ run.2, ∃ o, r = .ok o) ∧
    (shape.width.toNat * shape.height.toNat ≤ 4294967295 ∧ shape.side = .ok run.1.widget.side) ∧
    (∀ across down, run.1.style.periods? = some (across, down) →
      across.toNat * down.toNat ≤ 4294967295) ∧
    ∃ row, host.rowWidth run.1.style = .ok row := by
  intro run shape
  have hstart := consistent_start service host widget selectors
  have hc : run.1.Consistent := consistent_run service host widget selectors ops
  have hup : run.1.UpToDate host selectors := upToDate_run service host widget selectors hh.answers ops
  refine ⟨⟨length_run _ ops, answered_run hstart hh.answers ops⟩, ⟨hc.proper.2.2, hc.side⟩, ?_,
    exists_rowWidth_of_upToDate hup hc.proper hh⟩
  intro across down hperiods
  have hle := periods?_le hup hc.proper
  rwa [hperiods] at hle

/-- The largest side that there is, and two counts that exceed it together. -/
theorem run_of_large_texts_never_overflows :
    let host := (BoxModel.mk (-1 : Float) 0 0).host
    let run := (start sampleService host {} {}).run
      [.setShape (some "65535") (some "65537"), .setShape (some "65536") (some "65536"), .submit 0]
    host.Modelled ∧ (∀ r ∈ run.2, ∃ o, r = .ok o) ∧ run.1.configuration.shape = ⟨65535, 65537⟩ ∧
      run.1.widget.side = 4294967295 ∧ ∃ row, host.rowWidth run.1.style = .ok row :=
  have hh : (BoxModel.mk (-1 : Float) 0 0).host.Modelled := .page _
  have h := run_never_overflows sampleService hh {} {}
    [.setShape (some "65535") (some "65537"), .setShape (some "65536") (some "65536"), .submit 0]
  ⟨hh, h.1.2, by decide +kernel, by decide +kernel, h.2.2.2⟩

end Session

end BoxPuzzle

import BoxPuzzle.Proofs.Session.Step

/-!
# Failures leave no trace

A submission that fails and a shape that is not taken leave a session as it was; only the service
has noticed, and not always. So a run may forget its failed submissions, together with the replies
that they used up.

* `failed`: the answer of a failed submission;
* `serving`: the session with other replies to come and other requests behind it;
* `Step.of_failed`: what a failed submission does;
* `surviving`, `survivingReplies`: a run without its failures;
* `Step.serving`: a step depends on no reply but those that it uses, and not on past requests;
* `run_surviving`: the run without its failures;
* **`failures_leave_no_trace`**.
-/

namespace BoxPuzzle

/-! ## What is asked does not depend on what was asked before -/

namespace Service

theorem exhausted_solve (v : Service) (r : Request) : (v.solve r).1.exhausted = v.exhausted := by
  unfold solve
  split <;> rfl

theorem replies_solve (v : Service) (r : Request) : (v.solve r).1.replies = v.replies.tail := by
  unfold solve
  split <;> next h => rw [h]; rfl

/-- Asking uses the first reply; a service that has none left must not be given another. -/
theorem solve_take_one_append (v : Service) (r : Request) {rest : List Reply}
    (h : v.replies.tail = [] → rest = []) (received : List Request) :
    { v with replies := v.replies.take 1 ++ rest, received }.solve r =
      ({ (v.solve r).1 with replies := rest, received := received ++ [r] }, (v.solve r).2) := by
  obtain ⟨replies, exhausted, _⟩ := v
  cases replies with
  | nil =>
    obtain rfl := h rfl
    rfl
  | cons reply replies => rfl

/-- Two services that answer a request alike make the same of the givens in it. -/
theorem submitTo_congr {v w : Service} {g : Givens} {shape : BoxShape} (n : UInt32)
    (h : (v.solve (.ofGivens g shape)).2 = (w.solve (.ofGivens g shape)).2) :
    (v.submitTo g shape n).2 = (w.submitTo g shape n).2 := by
  unfold submitTo
  cases g.fault? n with
  | some e => rfl
  | none =>
    dsimp only
    generalize v.solve (.ofGivens g shape) = p at h ⊢
    generalize w.solve (.ofGivens g shape) = q at h ⊢
    obtain ⟨v', a⟩ := p
    obtain ⟨w', b⟩ := q
    obtain rfl : a = b := h
    cases a <;> rfl

theorem submitTo_ne_alreadySolved (v : Service) (g : Givens) (shape : BoxShape) (n : UInt32) :
    (v.submitTo g shape n).2 ≠ .error .alreadySolved := by
  unfold submitTo Response.solutionFor
  intro h
  split at h
  · cases h
  · split at h
    · cases h
    · split at h
      · cases h
      · split at h <;> cases h

end Service

namespace Session

variable {α : Type}

/-- The answer is that of a submission which failed. -/
def failed : Checked (Outcome α) → Bool
  | .ok (.submitted (.error _)) => true
  | _ => false

/-- The session with other replies to come and other requests behind it. -/
def serving (s : Session α) (replies : List Reply) (received : List Request) : Session α :=
  { s with service := { s.service with replies, received } }

theorem serving_asked (s : Session α) (replies : List Reply) (received : List Request) :
    s.asked.serving replies received = s.serving replies received := by
  unfold serving asked
  dsimp only
  rw [Service.exhausted_solve]

/-! ## Replies that were used -/

/-- The replies that are gone in `t`. -/
def used (s t : Session α) : List Reply :=
  s.service.replies.take (s.service.replies.length - t.service.replies.length)

theorem used_of_service_eq {s t : Session α} (h : t.service = s.service) : s.used t = [] := by
  rw [used, h, Nat.sub_self, List.take_zero]

theorem used_of_asked {s t : Session α} (h : t.service = s.asked.service) :
    s.used t = s.service.replies.take 1 := by
  rw [used, h, asked, Service.replies_solve]
  cases s.service.replies with
  | nil => rfl
  | cons reply replies => simp

theorem asked_serving (s : Session α) {rest : List Reply}
    (h : s.service.replies.tail = [] → rest = []) (received : List Request) :
    (s.serving (s.service.replies.take 1 ++ rest) received).asked =
      s.asked.serving rest (received ++ [s.request]) := by
  have hv := s.service.solve_take_one_append s.request h received
  unfold asked serving
  exact congrArg (fun v => { s with service := v }) (congrArg Prod.fst hv)

theorem answer_serving (s : Session α) {rest : List Reply}
    (h : s.service.replies.tail = [] → rest = []) (received : List Request) (n : UInt32) :
    (s.serving (s.service.replies.take 1 ++ rest) received).answer n = s.answer n := by
  have hv := congrArg Prod.snd (s.service.solve_take_one_append s.request h received)
  exact Service.submitTo_congr n hv

/-! ## One failure -/

variable [Length α]

/-- **A failed submission leaves the session as it was, or asked its service and no more.** -/
theorem Step.of_failed {s t : Session α} {op : Operation} {r : Checked (Outcome α)}
    (hs : Step s op t r) (hr : failed r = true) :
    (t = s ∧ (s.isSolved = true ∨ ∃ n e, s.configuration.shape.side = .ok n ∧
      s.widget.givens.fault? n = some e)) ∨
    (t = s.asked ∧ r ≠ .ok (.submitted (.error .alreadySolved)) ∧
      ∃ n, s.configuration.shape.side = .ok n ∧ s.widget.givens.fault? n = none) := by
  cases hs with
  | again solved => exact .inl ⟨rfl, .inl solved⟩
  | misfit unsolved side fault => exact .inl ⟨rfl, .inr ⟨_, _, side, fault⟩⟩
  | fail unsolved side fits answer =>
    refine .inr ⟨rfl, ?_, _, side, fits⟩
    intro h
    cases h
    exact Service.submitTo_ne_alreadySolved _ _ _ _ answer
  | reshape | display | refresh | solve =>
    rw [Checked.test_map_eq_false failed (fun _ => rfl) (fun _ => rfl)] at hr
    cases hr
  | ignore | frozen | fill | clear | overflow => cases hr

/-- But for replies and requests, a failed submission leaves the session as it was. -/
theorem Step.serving_of_failed {s t : Session α} {op : Operation} {r : Checked (Outcome α)}
    (hs : Step s op t r) (hr : failed r = true) (replies : List Reply) (received : List Request) :
    t.serving replies received = s.serving replies received := by
  obtain ⟨rfl, -⟩ | ⟨rfl, -⟩ := hs.of_failed hr
  · rfl
  · exact serving_asked s replies received

/-! ## Replies that a step does not use -/

theorem refreshLayout_serving (s : Session α) (replies : List Reply) (received : List Request) :
    (s.serving replies received).refreshLayout =
      (s.refreshLayout.1.serving replies received, s.refreshLayout.2) := by
  unfold refreshLayout serving
  dsimp only
  split <;> rfl

theorem displayUpdated_serving (s : Session α) (replies : List Reply) (received : List Request) :
    (s.serving replies received).displayUpdated =
      (s.displayUpdated.1.serving replies received, s.displayUpdated.2) :=
  refreshLayout_serving (s.emit .displayUpdated) replies received

theorem exists_step_serving {s t : Session α} {op : Operation} {r : Checked (Outcome α)}
    {rest : List Reply} {received : List Request} (h : t.service = s.service)
    (hs : Step (s.serving rest received) op (t.serving rest received) r) :
    ∃ received', Step (s.serving (s.used t ++ rest) received) op (t.serving rest received') r := by
  rw [used_of_service_eq h, List.nil_append]
  exact ⟨received, hs⟩

/-- **A step depends on no reply but those that it uses, and on no request of the past.** -/
theorem Step.serving {s t : Session α} {op : Operation} {r : Checked (Outcome α)}
    (hs : Step s op t r) {rest : List Reply} (h : t.service.replies = [] → rest = [])
    (received : List Request) :
    ∃ received', Step (s.serving (s.used t ++ rest) received) op (t.serving rest received') r := by
  cases hs with
  | @reshape width height shape n free typed side =>
    have hstep := Step.reshape (s := s.serving rest received) free typed side
    rw [show (s.serving rest received).reshaped shape n =
      (s.reshaped shape n).serving rest received from rfl, displayUpdated_serving] at hstep
    exact exists_step_serving (frame_displayUpdated (s.reshaped shape n)).service hstep
  | display =>
    have hstep := Step.display (s := s.serving rest received)
    rw [displayUpdated_serving] at hstep
    exact exists_step_serving (frame_displayUpdated s).service hstep
  | refresh =>
    have hstep := Step.refresh (s := s.serving rest received)
    rw [refreshLayout_serving] at hstep
    exact exists_step_serving (frame_refreshLayout s).service hstep
  | ignore free untyped => exact exists_step_serving rfl (.ignore free untyped)
  | frozen frozen => exact exists_step_serving rfl (.frozen frozen)
  | fill c d => exact exists_step_serving rfl (.fill c d)
  | clear c => exact exists_step_serving rfl (.clear c)
  | again solved => exact exists_step_serving rfl (.again solved)
  | overflow unsolved side => exact exists_step_serving rfl (.overflow unsolved side)
  | misfit unsolved side fault => exact exists_step_serving rfl (.misfit unsolved side fault)
  | @fail now n e unsolved side fits answer =>
    have h' : s.service.replies.tail = [] → rest = [] := by
      rwa [asked, Service.replies_solve] at h
    rw [← answer_serving s h' received] at answer
    have hstep : Step (s.serving (s.service.replies.take 1 ++ rest) received) (.submit now) _ _ :=
      .fail unsolved side fits answer
    rw [asked_serving s h'] at hstep
    rw [used_of_asked rfl]
    exact ⟨_, hstep⟩
  | @solve now n g unsolved side fits answer =>
    have hservice : (s.asked.withSolution g now).displayUpdated.1.service = s.asked.service :=
      (frame_displayUpdated _).service
    have h' : s.service.replies.tail = [] → rest = [] := by
      rwa [hservice, asked, Service.replies_solve] at h
    rw [← answer_serving s h' received] at answer
    have hstep : Step (s.serving (s.service.replies.take 1 ++ rest) received) (.submit now) _ _ :=
      .solve unsolved side fits answer
    rw [asked_serving s h', show (s.asked.serving rest (received ++ [s.request])).withSolution g now =
      (s.asked.withSolution g now).serving rest (received ++ [s.request]) from rfl,
      displayUpdated_serving] at hstep
    rw [used_of_asked hservice]
    exact ⟨_, hstep⟩

/-! ## A run without its failures -/

/-- The operations of a run without the submissions that fail in it. -/
def surviving (s : Session α) (ops : List Operation) : List Operation :=
  ((ops.zip (s.run ops).2).filter fun p => !failed p.2).map Prod.fst

/-- The replies of a run without those that failed submissions use up. -/
def survivingReplies (s : Session α) : List Operation → List Reply
  | [] => s.service.replies
  | op :: ops =>
    (if failed (s.step op).2 then [] else s.used (s.step op).1) ++
      (s.step op).1.survivingReplies ops

theorem surviving_cons (s : Session α) (op : Operation) (ops : List Operation) :
    s.surviving (op :: ops) = if failed (s.step op).2 then (s.step op).1.surviving ops
      else op :: (s.step op).1.surviving ops := by
  unfold surviving
  rw [run_cons, List.zip_cons_cons, List.filter_cons]
  cases failed (s.step op).2 <;> rfl

theorem survivingReplies_eq_nil {s : Session α} (h : s.service.replies = []) :
    ∀ ops, s.survivingReplies ops = [] := by
  intro ops
  induction ops generalizing s with
  | nil => exact h
  | cons op ops ih =>
    have hused : s.used (s.step op).1 = [] := by rw [used, h, List.take_nil]
    have hreplies : (s.step op).1.service.replies = [] := by
      obtain heq | ⟨_, _, -, -, -, heq⟩ := (step_spec s op).service
      · rw [heq, h]
      · rw [heq, asked, Service.replies_solve, h, List.tail_nil]
    rw [survivingReplies, hused, ite_self, ih hreplies, List.nil_append]

/-- **The run without its failures** ends in the same state, but for the requests that the service
remembers, and gives the same answers. -/
theorem run_surviving (s : Session α) (ops : List Operation) (received : List Request) :
    ∃ received', (s.serving (s.survivingReplies ops) received).run (s.surviving ops) =
      ((s.run ops).1.serving (s.run ops).1.service.replies received',
        (s.run ops).2.filter fun r => !failed r) := by
  induction ops generalizing s received with
  | nil => exact ⟨received, rfl⟩
  | cons op ops ih =>
    have hs := step_spec s op
    rw [surviving_cons, survivingReplies, run_cons, List.filter_cons]
    by_cases hf : failed (s.step op).2 = true
    · obtain ⟨received', heq⟩ := ih (s.step op).1 received
      rw [hs.serving_of_failed hf] at heq
      -- the operation and its reply are both dropped, so the run goes on from an equal session
      simp only [hf, if_true, List.nil_append, Bool.not_true, Bool.false_eq_true, if_false]
      exact ⟨received', heq⟩
    · rw [Bool.not_eq_true] at hf
      obtain ⟨received₁, hstep⟩ := hs.serving (survivingReplies_eq_nil · ops) received
      obtain ⟨received₂, heq⟩ := ih (s.step op).1 received₁
      simp only [hf, Bool.false_eq_true, if_false, Bool.not_false, if_true]
      rw [run_cons, hstep.eq, heq]
      exact ⟨received₂, rfl⟩

/-! ## Failures -/

theorem step_of_submit_error {s t : Session α} {now : Nat} {e : SubmitError}
    (h : s.submit now = (t, .ok (.error e))) :
    Step s (.submit now) t (.ok (.submitted (.error e))) := by
  have hs := step_spec s (.submit now)
  simp only [step, h] at hs
  exact hs

/-- A shape that is not taken changes nothing at all. -/
theorem eq_of_setShape_refused {s t : Session α} {width height : Option String} {c : Change}
    (h : s.setShape width height = (t, .ok c)) (hc : c = .ignored ∨ c = .frozen) : t = s := by
  have hs := step_spec s (.setShape width height)
  simp only [step, h] at hs
  generalize hr : Except.map Outcome.changed (.ok c : Checked Change) = r at hs
  cases hs with
  | ignore | frozen => rfl
  | @reshape _ _ shape n _ _ _ =>
    -- a new shape is answered by `applied`
    generalize (s.reshaped shape n).displayUpdated.2 = x at hr
    cases x with
    | error e => cases hr
    | ok report =>
      cases hr
      obtain hc | hc := hc <;> cases hc

/-- **Failures leave no trace.** A submission that returns an error changes nothing but the
service, which received at most one request, and none at all when the puzzle was solved already or
the givens do not fit; a shape that is ignored or refused changes nothing; and a run without its
failed submissions and their replies ends alike, with the same log and the same other answers. -/
theorem failures_leave_no_trace (s : Session α) :
    (∀ now t e, s.submit now = (t, .ok (.error e)) →
      t = { s with service := t.service } ∧
      (t.service.received = s.service.received ∨
        ∃ r, t.service.received = s.service.received ++ [r]) ∧
      (e = .alreadySolved → t = s) ∧
      ∀ n f, s.configuration.shape.side = .ok n → s.widget.givens.validate n = .error f → t = s) ∧
    (∀ width height t c, s.setShape width height = (t, .ok c) → c = .ignored ∨ c = .frozen →
      t = s) ∧
    ∀ ops, let u := s.run ops
      let v := (s.serving (s.survivingReplies ops) s.service.received).run (s.surviving ops)
      v.1 = { u.1 with service := { u.1.service with received := v.1.service.received } } ∧
        v.2 = u.2.filter fun r => !failed r := by
  refine ⟨fun now t e h => ?_, fun width height t c => eq_of_setShape_refused, fun ops => ?_⟩
  · obtain ⟨rfl, -⟩ | ⟨rfl, hne, n, side, fits⟩ := (step_of_submit_error h).of_failed rfl
    · exact ⟨rfl, .inl rfl, fun _ => rfl, fun _ _ _ _ => rfl⟩
    · refine ⟨rfl, .inr ⟨_, s.service.received_solve s.request⟩, ?_, ?_⟩
      · rintro rfl
        exact absurd rfl hne
      · intro m f hm hf
        obtain rfl : n = m := Except.ok.inj (side.symm.trans hm)
        rw [Givens.validate, fits] at hf
        cases hf
  · obtain ⟨received, heq⟩ := run_surviving s ops s.service.received
    simp only [heq]
    exact ⟨rfl, trivial⟩

theorem failures_of_sample_leave_no_trace :
    let s := (sample.run (sampleOps.take 5)).1
    let t := (s.submit 1).1
    s.submit 1 = (t, .ok (.error (.solver (.refused 503 "busy")))) ∧
      t = { s with service := t.service } ∧
      s.setShape (some "70000") (some "70000") = (s, .ok .ignored) ∧
      sample.surviving sampleOps = [.setGiven ⟨8, 8⟩ 9, .setShape (some "2") (some " +1 "),
        .clearGiven ⟨8, 8⟩, .setGiven ⟨1, 0⟩ 2, .submit 2, .setGiven ⟨5, 5⟩ 7,
        .setShape (some "4") (some "4"), .displayUpdated] ∧
      ((sample.serving (sample.survivingReplies sampleOps) []).run
        (sample.surviving sampleOps)).1.events = (sample.run sampleOps).1.events :=
  have h : ((sample.run (sampleOps.take 5)).1.submit 1) =
      (((sample.run (sampleOps.take 5)).1.submit 1).1,
        .ok (.error (.solver (.refused 503 "busy")))) := rfl
  have hrun := congrArg Session.events ((failures_leave_no_trace sample).2.2 sampleOps).1
  ⟨h, ((failures_leave_no_trace _).1 1 _ _ h).1, rfl, rfl, hrun⟩

end Session

end BoxPuzzle

import BoxPuzzle.Proofs.Session.Step
import BoxPuzzle.Session.Subscriber
import Mathlib.Data.List.Induction

/-!
# Subscribers lose nothing silently

A subscriber that is drained now and then learns of every event of a session: it receives the event,
or it is told how many it missed.

* `Channel.kept_ofLog`, `Channel.released_ofLog`: a channel keeps the newest events;
* `Drained.ofAnnounced`, **`Subscriber.drain_append`**: what one drain gives;
* `Session.AnnouncesAtMost`, `Step.announcesAtMost`, `announcesAtMost_run`: an operation announces at
  most three events;
* `Session.watch`, `watch_getElem?`, `watch_flatten`: drains between the operations of a session;
* **`drains_account_for_log`**.
-/

namespace BoxPuzzle

/-! ## What a channel keeps -/

namespace Channel

theorem ofLog_concat (log : List Event) (e : Event) : ofLog (log ++ [e]) = (ofLog log).send e := by
  rw [ofLog, List.foldl_concat, ofLog]

/-- **A channel keeps the newest events.** -/
theorem kept_ofLog (log : List Event) : (ofLog log).kept = log.drop (log.length - eventCapacity) := by
  induction log using List.reverseRecOn with
  | nil => rfl
  | append_singleton log e ih =>
    rw [ofLog_concat, kept_send, ih, List.length_drop, List.length_append, List.length_singleton]
    by_cases h : log.length < eventCapacity
    · -- there is room, so nothing has been released yet
      have h0 : log.length - eventCapacity = 0 := by omega
      have h1 : log.length + 1 - eventCapacity = 0 := by omega
      rw [h0, h1, if_pos (by omega), List.drop_zero, List.drop_zero]
    · have hpos : 0 < eventCapacity := by decide
      have h1 : log.length + 1 - eventCapacity = log.length - eventCapacity + 1 := by omega
      rw [if_neg (by omega), List.tail_drop, h1, List.drop_append_of_le_length (by omega)]

theorem length_kept_ofLog (log : List Event) :
    (ofLog log).kept.length = log.length - (log.length - eventCapacity) := by
  rw [kept_ofLog, List.length_drop]

theorem released_ofLog (log : List Event) : (ofLog log).released = log.length - eventCapacity := by
  induction log using List.reverseRecOn with
  | nil => rfl
  | append_singleton log e ih =>
    rw [ofLog_concat, released_send, ih, length_kept_ofLog, List.length_append, List.length_singleton]
    split_ifs <;> omega

theorem sent_ofLog (log : List Event) : (ofLog log).sent = log.length := by
  rw [sent, released_ofLog, length_kept_ofLog]
  omega

end Channel

/-! ## What is due to a subscriber -/

namespace Drained

/-- What a drain gives if these events were announced since the last one. -/
def ofAnnounced (announced : List Event) : Drained :=
  if announced.length ≤ eventCapacity then announced.map .event
  else .lagged (announced.length - eventCapacity) ::
    (announced.drop (announced.length - eventCapacity)).map .event

theorem ofAnnounced_of_le {announced : List Event} (h : announced.length ≤ 64) :
    ofAnnounced announced = announced.map .event :=
  if_pos h

theorem ofAnnounced_of_lt {announced : List Event} (h : 64 < announced.length) :
    ofAnnounced announced = .lagged (announced.length - 64) ::
      (announced.drop (announced.length - 64)).map .event :=
  if_neg (Nat.not_le.2 h)

theorem events_map_event (es : List Event) : Drained.events (es.map .event) = es := by
  induction es with
  | nil => rfl
  | cons e es ih => exact congrArg (e :: ·) ih

theorem lost_map_event (es : List Event) : Drained.lost (es.map .event) = 0 := by
  induction es with
  | nil => rfl
  | cons e es ih => exact (Nat.zero_add _).trans ih

/-- What is received and what is reported missing make up what was announced. -/
theorem lost_add_length_events (announced : List Event) :
    (ofAnnounced announced).lost + (ofAnnounced announced).events.length = announced.length := by
  by_cases h : announced.length ≤ 64
  · rw [ofAnnounced_of_le h, lost_map_event, events_map_event, Nat.zero_add]
  · have hlagged : ∀ (n : Nat) (es : List Event), Drained.lost (.lagged n :: es.map .event) +
        (Drained.events (.lagged n :: es.map .event)).length = n + es.length := by
      intro n es
      show n + Drained.lost (es.map .event) + (Drained.events (es.map .event)).length = n + es.length
      rw [lost_map_event, events_map_event, Nat.add_zero]
    rw [ofAnnounced_of_lt (Nat.not_le.1 h), hlagged, List.length_drop]
    omega

end Drained

/-! ## One drain -/

namespace Subscriber

variable {r : Subscriber} {c : Channel}

theorem receive?_of_lt (h : r.position < c.released) :
    r.receive? c = some (⟨c.released⟩, .lagged (c.released - r.position)) :=
  if_pos h

theorem receive?_of_le (h : c.released ≤ r.position) :
    r.receive? c = c.kept[r.position - c.released]?.map fun e => (⟨r.position + 1⟩, .event e) :=
  if_neg (Nat.not_lt.2 h)

theorem receiveAll_of_some {next : Subscriber} {x : Received} (h : r.receive? c = some (next, x)) :
    r.receiveAll c = ((next.receiveAll c).1, x :: (next.receiveAll c).2) := by
  rw [receiveAll]
  split
  · next heq =>
    rw [h] at heq
    cases heq
  · next heq =>
    rw [h] at heq
    cases heq
    rfl

/-- A subscriber that has missed nothing receives what is kept from its position on. -/
theorem receiveAll_of_le (h : c.released ≤ r.position) (h' : r.position ≤ c.sent) :
    r.receiveAll c = (⟨c.sent⟩, (c.kept.drop (r.position - c.released)).map .event) := by
  have hsent : c.sent = c.released + c.kept.length := rfl
  fun_induction receiveAll r c with
  | case1 r hnone =>
    -- everything was received before
    rw [receive?_of_le h, Option.map_eq_none_iff, List.getElem?_eq_none_iff] at hnone
    rw [List.drop_eq_nil_of_le hnone, show c.sent = r.position by omega, List.map_nil]
  | case2 r next x hsome last xs heq ih =>
    rw [receive?_of_le h, Option.map_eq_some_iff] at hsome
    obtain ⟨e, he, hnext⟩ := hsome
    cases hnext
    obtain ⟨hlt, rfl⟩ := List.getElem?_eq_some_iff.1 he
    have hle : r.position + 1 ≤ c.sent := by omega
    have hrest := ih (Nat.le_succ_of_le h) hle
    rw [heq] at hrest
    cases hrest
    rw [List.drop_eq_getElem_cons hlt, List.map_cons, Nat.sub_add_comm h]

/-- A subscriber that has missed something is told so first. -/
theorem receiveAll_of_lt (h : r.position < c.released) :
    r.receiveAll c = (⟨c.sent⟩, .lagged (c.released - r.position) :: c.kept.map .event) := by
  have hrest : receiveAll ⟨c.released⟩ c = (⟨c.sent⟩, c.kept.map .event) := by
    rw [receiveAll_of_le (Nat.le_refl c.released) (Nat.le_add_right _ _), Nat.sub_self, List.drop_zero]
  rw [receiveAll_of_some (receive?_of_lt h), hrest]

/-- **One drain.** A subscriber at the end of a log receives what was announced since, or is told how
much of it was released. -/
theorem drain_append (log announced : List Event) : drain ⟨log.length⟩ (log ++ announced) =
    (⟨(log ++ announced).length⟩, .ofAnnounced announced) := by
  have hlen : (log ++ announced).length = log.length + announced.length := List.length_append
  have hreleased := Channel.released_ofLog (log ++ announced)
  have hsent := Channel.sent_ofLog (log ++ announced)
  unfold drain Drained.ofAnnounced
  by_cases h : announced.length ≤ eventCapacity
  · have hle : (log ++ announced).length - eventCapacity ≤ log.length := by omega
    have hkept : (Channel.ofLog (log ++ announced)).kept.drop
        (log.length - ((log ++ announced).length - eventCapacity)) = announced := by
      rw [Channel.kept_ofLog, List.drop_drop, Nat.add_sub_of_le hle, List.drop_left]
    rw [if_pos h, receiveAll_of_le (hreleased ▸ hle) (hsent ▸ hlen ▸ Nat.le_add_right _ _), hreleased,
      hsent, hkept]
  · have hlt : log.length < (log ++ announced).length - eventCapacity := by omega
    have hmissed : (log ++ announced).length - eventCapacity - log.length =
        announced.length - eventCapacity := by omega
    have hkept : (Channel.ofLog (log ++ announced)).kept =
        announced.drop (announced.length - eventCapacity) := by
      rw [Channel.kept_ofLog, List.drop_append, List.drop_eq_nil_of_le (Nat.le_of_lt hlt), hmissed,
        List.nil_append]
    rw [if_neg h, receiveAll_of_lt (hreleased ▸ hlt), hreleased, hsent, hkept, hmissed]

end Subscriber

/-! ## What an operation announces -/

namespace Session

variable {α : Type}

/-- `t` has announced what `s` has, and at most `n` events more. -/
def AnnouncesAtMost (n : Nat) (s t : Session α) : Prop :=
  ∃ announced, t.events = s.events ++ announced ∧ announced.length ≤ n

namespace AnnouncesAtMost

variable {m n : Nat} {s t u : Session α}

theorem same (h : t.events = s.events) : AnnouncesAtMost n s t :=
  ⟨[], by rw [h, List.append_nil], Nat.zero_le n⟩

theorem one {e : Event} (h : t.events = s.events ++ [e]) : AnnouncesAtMost 1 s t :=
  ⟨[e], h, Nat.le_refl 1⟩

theorem mono (h : AnnouncesAtMost m s t) (hmn : m ≤ n) : AnnouncesAtMost n s t := by
  obtain ⟨announced, heq, hle⟩ := h
  exact ⟨announced, heq, Nat.le_trans hle hmn⟩

theorem trans (h : AnnouncesAtMost m s t) (h' : AnnouncesAtMost n t u) :
    AnnouncesAtMost (m + n) s u := by
  obtain ⟨first, heq, hle⟩ := h
  obtain ⟨second, heq', hle'⟩ := h'
  refine ⟨first ++ second, ?_, ?_⟩
  · rw [heq', heq, List.append_assoc]
  · rw [List.length_append]
    omega

end AnnouncesAtMost

variable [Length α]

theorem announcesAtMost_refreshLayout (s : Session α) : AnnouncesAtMost 1 s s.refreshLayout.1 := by
  unfold refreshLayout
  split
  · exact .same rfl
  · exact .one rfl

theorem announcesAtMost_displayUpdated (s : Session α) : AnnouncesAtMost 2 s s.displayUpdated.1 := by
  have hemit : AnnouncesAtMost 1 s (s.emit .displayUpdated) := .one rfl
  exact hemit.trans (announcesAtMost_refreshLayout _)

/-- **An operation announces at most three events**, whether it returns or overflows. -/
theorem Step.announcesAtMost {s t : Session α} {op : Operation} {r : Checked (Outcome α)}
    (hs : Step s op t r) : AnnouncesAtMost 3 s t := by
  cases hs with
  | @reshape _ _ shape n =>
    have hreshaped : AnnouncesAtMost 1 s (s.reshaped shape n) := .one rfl
    exact hreshaped.trans (announcesAtMost_displayUpdated _)
  | display => exact (announcesAtMost_displayUpdated s).mono (by decide)
  | refresh => exact (announcesAtMost_refreshLayout s).mono (by decide)
  | @solve now n g =>
    have hsolved : AnnouncesAtMost 1 s (s.asked.withSolution g now) := .one rfl
    exact hsolved.trans (announcesAtMost_displayUpdated _)
  | ignore | frozen | fill | clear | again | overflow | misfit | fail => exact .same rfl

theorem announcesAtMost_run (s : Session α) (ops : List Operation) :
    AnnouncesAtMost (3 * ops.length) s (s.run ops).1 := by
  induction ops generalizing s with
  | nil => exact .same rfl
  | cons op ops ih =>
    refine ((step_spec s op).announcesAtMost.trans (ih (s.step op).1)).mono ?_
    rw [List.length_cons]
    omega

/-! ## Drains between operations -/

/-- Performs lists of operations one after the other, drains a subscriber after each list, and tells
what every drain gave. -/
def watch (s : Session α) (r : Subscriber) : List (List Operation) → List Drained
  | [] => []
  | ops :: rest =>
    let t := (s.run ops).1
    let (r, d) := r.drain t.events
    d :: t.watch r rest

/-- A drained subscriber stands where one to what is announced from now on would stand. -/
theorem watch_cons {s : Session α} {ops : List Operation} {announced : List Event}
    (h : (s.run ops).1.events = s.events ++ announced) (rest : List (List Operation)) :
    s.watch s.subscribe (ops :: rest) =
      .ofAnnounced announced :: (s.run ops).1.watch (s.run ops).1.subscribe rest := by
  have hdrain : s.subscribe.drain (s.run ops).1.events =
      ((s.run ops).1.subscribe, .ofAnnounced announced) := by
    rw [subscribe, subscribe, h, Subscriber.drain_append]
  simp only [watch, hdrain]

theorem length_watch (s : Session α) (r : Subscriber) (between : List (List Operation)) :
    (s.watch r between).length = between.length := by
  induction between generalizing s r with
  | nil => rfl
  | cons ops rest ih => exact congrArg (· + 1) (ih _ _)

/-- **Every drain** gives what was announced since the one before it. -/
theorem watch_getElem? (s : Session α) (before : List (List Operation)) (ops : List Operation)
    (after : List (List Operation)) {announced : List Event}
    (h : (s.run (before.flatten ++ ops)).1.events = (s.run before.flatten).1.events ++ announced) :
    (s.watch s.subscribe (before ++ ops :: after))[before.length]? = some (.ofAnnounced announced) := by
  induction before generalizing s with
  | nil =>
    have h0 : (s.run ops).1.events = s.events ++ announced := h
    rw [List.nil_append, watch_cons h0]
    rfl
  | cons first before ih =>
    obtain ⟨announced', h', -⟩ := announcesAtMost_run s first
    rw [List.flatten_cons, List.append_assoc, run_append_fst, run_append_fst s first] at h
    rw [List.cons_append, watch_cons h', List.length_cons, List.getElem?_cons_succ]
    exact ih _ h

/-- **Frequent drains** give the whole log. -/
theorem watch_flatten (s : Session α) {between : List (List Operation)}
    (h : ∀ ops ∈ between, ops.length ≤ 21) :
    s.events.map .event ++ (s.watch s.subscribe between).flatten =
      (s.run between.flatten).1.events.map .event := by
  induction between generalizing s with
  | nil => exact List.append_nil _
  | cons ops rest ih =>
    obtain ⟨hops, hrest⟩ := List.forall_mem_cons.1 h
    obtain ⟨announced, heq, hle⟩ := announcesAtMost_run s ops
    rw [watch_cons heq, Drained.ofAnnounced_of_le (by omega), List.flatten_cons, ← List.append_assoc,
      ← List.map_append, ← heq, ih _ hrest, List.flatten_cons, run_append_fst]

/-- **Subscribers lose nothing silently.** A subscriber to a new session may be drained at any time.
Each drain gives the events that were announced since the one before it, in order, if there are at
most 64 of them, and otherwise a notice of how many are missing and then the newest 64, in order; so
what is received and what is reported missing make up what was announced. If there are never more than
21 operations before the next drain, no drain has such a notice, and all of them together give the
whole log. -/
theorem drains_account_for_log (service : Service) (host : Host α) (widget : Widget)
    (selectors : Selectors) (between : List (List Operation)) :
    let s := start service host widget selectors
    let drains := s.watch s.subscribe between
    drains.length = between.length ∧
    (∀ before ops after, between = before ++ ops :: after →
      ∃ (announced : List Event) (d : Drained),
        (s.run (before.flatten ++ ops)).1.events = (s.run before.flatten).1.events ++ announced ∧
        drains[before.length]? = some d ∧
        (announced.length ≤ 64 → d = announced.map .event) ∧
        (64 < announced.length → d = .lagged (announced.length - 64) ::
          (announced.drop (announced.length - 64)).map .event) ∧
        d.lost + d.events.length = announced.length) ∧
    ((∀ ops ∈ between, ops.length ≤ 21) →
      (∀ d ∈ drains, ∀ n, .lagged n ∉ d) ∧
      drains.flatten = (s.run between.flatten).1.events.map .event) := by
  intro s drains
  refine ⟨length_watch s s.subscribe between, ?_, fun hfrequent => ?_⟩
  · rintro before ops after rfl
    obtain ⟨announced, heq, -⟩ := announcesAtMost_run (s.run before.flatten).1 ops
    rw [← run_append_fst] at heq
    exact ⟨announced, .ofAnnounced announced, heq, watch_getElem? s before ops after heq,
      Drained.ofAnnounced_of_le, Drained.ofAnnounced_of_lt, Drained.lost_add_length_events announced⟩
  · have hall : drains.flatten = (s.run between.flatten).1.events.map .event := watch_flatten s hfrequent
    refine ⟨fun d hd n hn => ?_, hall⟩
    have hmem : .lagged n ∈ drains.flatten := List.mem_flatten.2 ⟨d, hd, hn⟩
    rw [hall] at hmem
    obtain ⟨e, -, he⟩ := List.mem_map.1 hmem
    cases he

/-- Twenty-two shapes in a row, each of which announces three events. -/
def sampleBurst : List Operation := List.replicate 22 (.setShape (some "2") (some "1"))

/-- One operation more than a channel has room for, and a run that is drained often enough. -/
theorem drains_of_burst_account_for_log :
    (∃ (announced : List Event) (d : Drained), (sample.run sampleBurst).1.events = announced ∧
      announced.length = 66 ∧
      (sample.watch sample.subscribe [sampleBurst, sampleOps])[0]? = some d ∧
      d = .lagged 2 :: (announced.drop 2).map .event) ∧
    (sample.watch sample.subscribe [sampleOps.take 7, [], sampleOps.drop 7]).flatten =
      (sample.run sampleOps).1.events.map .event := by
  have hsample : start sampleService (BoxModel.standard (500 : Float)).host {} {} = sample := rfl
  have h := drains_account_for_log sampleService (BoxModel.standard (500 : Float)).host {} {}
  rw [hsample] at h
  constructor
  · obtain ⟨announced, d, hevents, hd, -, hlagged, -⟩ :=
      (h [sampleBurst, sampleOps]).2.1 [] sampleBurst [sampleOps] rfl
    have hall : (sample.run sampleBurst).1.events = announced := hevents
    have hlen : announced.length = 66 := by
      rw [← hall]
      decide +kernel
    rw [hlen] at hlagged
    exact ⟨announced, d, hall, hlen, hd, hlagged (by decide)⟩
  · have hfrequent : ∀ ops ∈ [sampleOps.take 7, [], sampleOps.drop 7], ops.length ≤ 21 := by decide
    have hops : [sampleOps.take 7, [], sampleOps.drop 7].flatten = sampleOps := rfl
    have hflatten := ((h _).2.2 hfrequent).2
    rwa [hops] at hflatten

end Session

end BoxPuzzle

import BoxPuzzle.Session.Basic

/-!
# Subscribers

A session announces its events through a channel that keeps the newest 64 of them. A subscriber
receives them one by one and at its own pace. If events that it has not received are no longer
kept, it is first told how many it missed, and goes on with the oldest one that is kept.

* `Channel`, `Channel.send`, `Channel.ofLog`;
* `Subscriber`, `Session.subscribe`;
* `Received`, `Subscriber.receive?`: receiving once;
* `Drained`, `Subscriber.receiveAll`, `Subscriber.drain`: receiving until nothing is left.
-/

namespace BoxPuzzle

/-! ## Channels -/

/-- The number of events that are kept. -/
def eventCapacity : Nat := 64

/-- The events that are kept, oldest first, and the number of those that were released before. -/
structure Channel where
  released : Nat := 0
  kept : List Event := []
  bounded : kept.length ≤ eventCapacity := by decide
deriving DecidableEq, Repr

namespace Channel

/-- Sends an event. A full channel releases its oldest event. -/
def send (c : Channel) (e : Event) : Channel :=
  if h : c.kept.length < eventCapacity then
    { released := c.released
      kept := c.kept ++ [e]
      bounded := by rwa [List.length_append] }
  else
    { released := c.released + 1
      kept := c.kept.tail ++ [e]
      bounded := by
        have := c.bounded
        simp only [List.length_append, List.length_tail, List.length_singleton, eventCapacity] at *
        omega }

theorem kept_send (c : Channel) (e : Event) : (c.send e).kept =
    if c.kept.length < eventCapacity then c.kept ++ [e] else c.kept.tail ++ [e] := by
  by_cases h : c.kept.length < eventCapacity <;> simp [send, h]

theorem released_send (c : Channel) (e : Event) : (c.send e).released =
    if c.kept.length < eventCapacity then c.released else c.released + 1 := by
  by_cases h : c.kept.length < eventCapacity <;> simp [send, h]

/-- The channel through which the events of a log were sent. -/
def ofLog (log : List Event) : Channel := log.foldl send {}

/-- The number of events that were sent. -/
def sent (c : Channel) : Nat := c.released + c.kept.length

end Channel

/-! ## Subscribers -/

/-- The number of events that have been received or missed. -/
structure Subscriber where
  position : Nat
deriving DecidableEq, Repr

/-- A subscriber to what is announced from now on. -/
def Session.subscribe {α : Type} (s : Session α) : Subscriber := ⟨s.events.length⟩

/-- What a subscriber receives. -/
inductive Received where
  | event (e : Event)
  /-- So many events were released before they were received. -/
  | lagged (missed : Nat)
deriving DecidableEq, Repr

/-- The event that is received. -/
def Received.event? : Received → Option Event
  | event e => some e
  | lagged _ => none

/-- The number of events that are reported missing. -/
def Received.missed : Received → Nat
  | event _ => 0
  | lagged n => n

/-- What is received in one go, in order. -/
abbrev Drained := List Received

/-- The events among it. -/
def Drained.events (d : Drained) : List Event := d.filterMap Received.event?

/-- The number of events that are reported missing in all. -/
def Drained.lost (d : Drained) : Nat := d.foldr (fun x n => x.missed + n) 0

namespace Subscriber

/-- Receives once, if there is anything to receive. -/
def receive? (r : Subscriber) (c : Channel) : Option (Subscriber × Received) :=
  if r.position < c.released then some (⟨c.released⟩, .lagged (c.released - r.position))
  else c.kept[r.position - c.released]?.map fun e => (⟨r.position + 1⟩, .event e)

/-- Receiving moves a subscriber on, but not past what was sent. -/
theorem lt_position_of_receive? {r next : Subscriber} {c : Channel} {x : Received}
    (h : r.receive? c = some (next, x)) : r.position < next.position ∧ next.position ≤ c.sent := by
  unfold receive? at h
  split at h
  · next hlt =>
    cases h
    exact ⟨hlt, Nat.le_add_right _ _⟩
  · obtain ⟨e, he, heq⟩ := Option.map_eq_some_iff.1 h
    cases heq
    obtain ⟨hlt, -⟩ := List.getElem?_eq_some_iff.1 he
    exact ⟨Nat.lt_succ_self _, show r.position + 1 ≤ c.released + c.kept.length by omega⟩

/-- Receives until nothing is left. -/
def receiveAll (r : Subscriber) (c : Channel) : Subscriber × Drained :=
  match _h : r.receive? c with
  | none => (r, [])
  | some (next, x) =>
    let (last, xs) := next.receiveAll c
    (last, x :: xs)
termination_by c.sent - r.position
decreasing_by
  have := lt_position_of_receive? _h
  omega

/-- Receives all that is left of a log. -/
def drain (r : Subscriber) (log : List Event) : Subscriber × Drained := r.receiveAll (.ofLog log)

end Subscriber

end BoxPuzzle

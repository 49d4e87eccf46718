import BoxPuzzle.Headless
import BoxPuzzle.Proofs.Grid.Board
import BoxPuzzle.Proofs.Grid.Document
import BoxPuzzle.Proofs.Session.Layout
import BoxPuzzle.Proofs.Session.Submission
import BoxPuzzle.Proofs.Solver.Body
import BoxPuzzle.Proofs.Wire

/-!
# A run prints all or nothing

The style sheet is out before the board is made, so a board that failed would leave half an output.
It never does: the solution was checked against the grid that the board is made for, and that grid is
the one of the document, whose shape the session takes over and keeps. The only product that can overflow
is a square on the way to the root of the number of rows, long before anything is printed or sent.

* `Reads`, `Holds`: what the program needs to find in its source;
* `fresh`, `setShape_fresh`, `Ready`, `openSession_of_shape`: a session takes the shape of a document;
* `Ready.submit`, `finish_of_error`, `finish_of_ok`: the submission of such a session;
* `run_of_holds`, `run_of_not_holds`, `run_cases`, `run_overflow_iff`: how a run ends;
* **`run_all_or_nothing`**, `run_of_largest_square`: all runs, and one that overflows.
-/

namespace BoxPuzzle

open Session

namespace Headless

/-- The bytes are the text of a document. -/
def Reads (bytes : Option ByteArray) (document : Document) : Prop :=
  ∃ text, bytes.bind String.fromUTF8? = some text ∧ decode? text = some document

/-- The bytes are the text of a document, and boxes of this shape tile its rows. -/
structure Holds (bytes : Option ByteArray) (document : Document) (shape : BoxShape) : Prop where
  reads : Reads bytes document
  tiles : document.shape = .ok (.ok shape)

/-- The page that the settings describe. -/
def page (settings : Settings) : Host Float := (BoxModel.standard settings.container).host

/-- The session of a document before it has its shape; `n` is the side of the grid. -/
def fresh (settings : Settings) (document : Document) (n : UInt32) : Session Float :=
  start { replies := [] } (page settings) { side := n, givens := document.givens } settings.selectors

/-- The service that has this one reply to give. -/
def oneReply (reply : ServerReply) : Service := { replies := [reply.toReply] }

/-! ## Reading -/

theorem readDocument_eq_ok_iff {source : Source} {bytes : Option ByteArray} {document : Document} :
    readDocument source bytes = .ok document ↔ Reads bytes document := by
  unfold readDocument Reads
  cases bytes with
  | none => simp [throw, throwThe, MonadExceptOf.throw]
  | some raw =>
    cases ht : String.fromUTF8? raw with
    | none => simp [ht, throw, throwThe, MonadExceptOf.throw]
    | some text =>
      cases hd : (decode? text : Option Document) with
      | none => simp [ht, hd, throw, throwThe, MonadExceptOf.throw]
      | some d => simp [ht, hd, pure, Except.pure]

theorem Reads.unique {bytes : Option ByteArray} {d e : Document} (hd : Reads bytes d)
    (he : Reads bytes e) : d = e := by
  obtain ⟨text, htext, hd⟩ := hd
  obtain ⟨text', htext', he⟩ := he
  obtain rfl : text = text' := Option.some.inj (htext.symm.trans htext')
  exact Option.some.inj (hd.symm.trans he)

theorem readDocument_ne_overflow {source : Source} {bytes : Option ByteArray} {e : Overflow} :
    readDocument source bytes ≠ .error (.overflow e) := by
  unfold readDocument
  intro h
  split at h
  · split at h
    · split at h <;> cases h
    · cases h
  · cases h

/-! ## The shape -/

variable {settings : Settings} {document : Document} {shape : BoxShape} {n : UInt32}

/-- A session ready to submit the givens of a document in its shape. -/
structure Ready (settings : Settings) (document : Document) (shape : BoxShape) (s : Session Float) :
    Prop where
  host : s.host = page settings
  naming : s.style.selectors = settings.selectors
  configured : s.configuration.shape = shape
  unsolved : s.isSolved = false
  givens : s.widget.givens = document.givens

/-- On the page a grid of any shape can be laid out. -/
theorem exists_laidOut {s : Session Float} (hh : s.host = page settings)
    (hp : s.configuration.shape.Proper) : ∃ report, s.displayUpdated.2 = .ok report ∧
      s.style.relayOut (page settings) s.configuration.shape =
        (s.displayUpdated.1.style, .ok report) := by
  have hanswers : s.host.Answers := by
    rw [hh]
    exact (BoxModel.standard settings.container).answers_host
  obtain ⟨report, hreport⟩ := exists_displayUpdated hanswers hp
  obtain ⟨hlaid, -⟩ := (displayUpdated_of_ok hreport).1
  rw [hh, (frame_displayUpdated s).configuration] at hlaid
  exact ⟨report, hreport, hlaid⟩

/-- The texts of its counts give a session the shape of the document. -/
theorem setShape_fresh (hp : shape.Proper) (hn : shape.side = .ok n) :
    ∃ session, (fresh settings document n).setShape (some (wordText shape.width))
        (some (wordText shape.height)) = (session, .ok (.applied shape)) ∧
      Ready settings document shape session := by
  set s := (fresh settings document n).reshaped shape n with hs
  obtain ⟨report, hreport, hlaid⟩ := @exists_laidOut settings s rfl hp
  have hframe := frame_displayUpdated s
  refine ⟨s.displayUpdated.1, ?_, ?_⟩
  · have hset : (fresh settings document n).configuration.set (some (wordText shape.width))
        (some (wordText shape.height)) = ({ shape }, .applied shape) := by
      rw [Configuration.set, typedShape?_wordText hp]
      rfl
    have happly : (fresh settings document n).setShape (some (wordText shape.width))
        (some (wordText shape.height)) =
        (s.displayUpdated.1, s.displayUpdated.2.map fun _ => .applied shape) := by
      simp only [setShape, hset, hn]
      rfl
    rw [happly, hreport]
    rfl
  · exact {
      host := hframe.host
      naming := (Style.rules_relayOut hlaid).1
      configured := by rw [hframe.configuration]; rfl
      unsolved := by rw [hframe.isSolved]; rfl
      givens := by rw [hframe.widget]; rfl }

/-- The session of a document is the one that took its shape: no display update has to follow. -/
theorem openSession_of_shape (ht : document.shape = .ok (.ok shape)) (hn : shape.side = .ok n) :
    ∃ session, (fresh settings document n).setShape (some (wordText shape.width))
        (some (wordText shape.height)) = (session, .ok (.applied shape)) ∧
      openSession settings document = .ok session ∧ Ready settings document shape session := by
  obtain ⟨session, happly, hready⟩ := setShape_fresh (Document.proper_of_shape ht) hn
  refine ⟨session, happly, ?_, hready⟩
  simp only [fresh, page] at happly
  simp only [openSession, ht, hn, Except.mapError, bind, Except.bind, happly]
  rfl

/-! ## The submission -/

theorem Ready.serving {s : Session Float} (h : Ready settings document shape s) (service : Service) :
    Ready settings document shape { s with service } :=
  ⟨h.host, h.naming, h.configured, h.unsolved, h.givens⟩

theorem Ready.submit {s : Session Float} (h : Ready settings document shape s)
    (hn : shape.side = .ok n) (now : Nat) :
    s.submit now =
      match s.service.submitTo document.givens shape n with
      | (service, .error e) => ({ s with service }, .ok (.error e))
      | (service, .ok solution) =>
        let t := { s with service }.withSolution solution now
        (t.displayUpdated.1, t.displayUpdated.2.map fun _ => .ok solution) := by
  have hunsolved : ¬ s.isSolved = true := by rw [h.unsolved]; exact Bool.false_ne_true
  simp only [Session.submit, if_neg hunsolved, Service.submit, h.givens, h.configured, hn]
  cases s.service.submitTo document.givens shape n with
  | mk service r => cases r <;> rfl

/-- What the run of a document sends. -/
def posts (settings : Settings) (document : Document) (shape : BoxShape) (n : UInt32)
    (reply : ServerReply) : List HttpRequest :=
  ((oneReply reply).submitTo document.givens shape n).1.received.map
    (Client.ofBase settings.solverUrl).post

/-- Without a solution the run has nothing to print. -/
theorem finish_of_error {s : Session Float} {reply : ServerReply} {e : SubmitError}
    (hs : Ready settings document shape s) (hn : shape.side = .ok n)
    (h : ((oneReply reply).submitTo document.givens shape n).2 = .error e) (now : Nat) :
    finish ⟨settings, s⟩ reply now =
      { failure := some (.submit e), sent := posts settings document shape n reply } := by
  have hsubmit := (hs.serving (oneReply reply)).submit hn now
  unfold posts
  revert h hsubmit
  cases (oneReply reply).submitTo document.givens shape n with
  | mk service r =>
    rintro rfl hsubmit
    unfold oneReply at hsubmit
    simp only [finish, hsubmit]
    rfl

/-- **A solution can be shown.** It was checked against the grid of the board, and the style is the
one of a layout from scratch. -/
theorem finish_of_ok {s : Session Float} {reply : ServerReply} {solution : Givens}
    (hs : Ready settings document shape s) (hp : shape.Proper) (hn : shape.side = .ok n)
    (h : ((oneReply reply).submitTo document.givens shape n).2 = .ok solution) (now : Nat) :
    ∃ style report board,
      Style.relayOut { selectors := settings.selectors } (page settings) shape = (style, .ok report) ∧
      solution.board shape = .ok (.ok board) ∧
      finish ⟨settings, s⟩ reply now =
        { printed := style.cssText ++ "\n\n" ++ board ++ "\n"
          sent := posts settings document shape n reply } := by
  have hboard := Givens.board_eq_ok_iff.2 ⟨n, hn, Service.solution_fits h, rfl⟩
  have hsubmit := (hs.serving (oneReply reply)).submit hn now
  unfold posts
  revert h hsubmit
  cases (oneReply reply).submitTo document.givens shape n with
  | mk service r =>
    rintro rfl hsubmit
    set t := { s with service }.withSolution solution now with ht
    have hshape : t.configuration.shape = shape := hs.configured
    obtain ⟨report, hreport, hlaid⟩ := exists_laidOut (s := t) hs.host (by rwa [hshape])
    have hframe := frame_displayUpdated t
    rw [hshape] at hlaid
    refine ⟨t.displayUpdated.1.style, report, _, ?_, hboard, ?_⟩
    · rw [← hlaid]
      exact Style.relayOut_congr (s := { selectors := settings.selectors }) hs.naming.symm _ _
    · unfold oneReply at hsubmit
      simp only [finish, hsubmit, ← ht, hreport, Except.map, present, hframe.configuration, hshape,
        hframe.service, hboard]
      rfl

/-! ## The whole run -/

variable {environment : Environment} {bytes : Option ByteArray}

/-- The side of the grid is the number of rows. -/
theorem Holds.exists_side (h : Holds bytes document shape) :
    ∃ n, shape.side = .ok n ∧ n.toNat = document.rows.length :=
  Document.exists_side_of_shape h.tiles

theorem prepare_of_holds (hs : Settings.load environment = .ok settings)
    (h : Holds bytes document shape) (hn : shape.side = .ok n) (source : Source) :
    ∃ session, (fresh settings document n).setShape (some (wordText shape.width))
        (some (wordText shape.height)) = (session, .ok (.applied shape)) ∧
      prepare environment source bytes = .ok ⟨settings, session⟩ ∧
      Ready settings document shape session := by
  obtain ⟨session, happly, hopen, hready⟩ := openSession_of_shape h.tiles hn
  refine ⟨session, happly, ?_, hready⟩
  have hread : readDocument source bytes = .ok document := readDocument_eq_ok_iff.2 h.reads
  simp only [prepare, hs, hread, hopen, Except.mapError, bind, Except.bind]
  rfl

/-- Nothing else than this document is read, and the search for its root, if there is one, ends. -/
theorem Reads.not_rootless (h : Reads bytes document) {tiled : Except GridError BoxShape}
    (ht : document.shape = .ok tiled) : ¬ ∃ document, Reads bytes document ∧ document.Rootless := by
  rintro ⟨d, hd, hroot⟩
  obtain rfl : d = document := hd.unique h
  have herror : d.shape = .error .product := Document.shape_eq_error_iff.2 hroot
  exact nomatch herror.symm.trans ht

/-- A run that does not find what it needs stops before the session is opened. -/
theorem exists_prepare_error (hs : Settings.load environment = .ok settings)
    (h : ∀ document shape, ¬ Holds bytes document shape) (source : Source) :
    ∃ e, prepare environment source bytes = .error e ∧
      ((∃ o, e = .overflow o) ↔ ∃ document, Reads bytes document ∧ document.Rootless) := by
  cases hread : readDocument source bytes with
  | error e =>
    refine ⟨e, ?_, iff_of_false ?_ ?_⟩
    · simp only [prepare, hs, hread, Except.mapError, bind, Except.bind]
    · rintro ⟨o, rfl⟩
      exact readDocument_ne_overflow hread
    · rintro ⟨document, hd, -⟩
      exact nomatch hread.symm.trans (readDocument_eq_ok_iff.2 hd)
  | ok document =>
    have hd : Reads bytes document := readDocument_eq_ok_iff.1 hread
    cases hshape : document.shape with
    | error o =>
      refine ⟨.overflow o, ?_, iff_of_true ⟨o, rfl⟩ ?_⟩
      · simp only [prepare, openSession, hs, hread, hshape, Except.mapError, bind, Except.bind]
      · exact ⟨document, hd, Document.shape_eq_error_iff.1 hshape⟩
    | ok tiled =>
      cases tiled with
      | error e =>
        refine ⟨.grid e, ?_, iff_of_false ?_ (hd.not_rootless hshape)⟩
        · simp only [prepare, openSession, hs, hread, hshape, Except.mapError, bind, Except.bind]
        · rintro ⟨o, ho⟩
          cases ho
      | ok shape => exact absurd ⟨hd, hshape⟩ (h document shape)

/-- A run that finds it submits the givens and ends as the submission does. -/
theorem run_of_holds (hs : Settings.load environment = .ok settings)
    (h : Holds bytes document shape) (hn : shape.side = .ok n) (source : Source)
    (reply : ServerReply) (now : Nat) :
    let done := run environment source bytes reply now
    let submitted := ((oneReply reply).submitTo document.givens shape n).2
    done.sent = posts settings document shape n reply ∧
    (∀ e, submitted = .error e → done.printed = "" ∧ done.failure = some (.submit e)) ∧
    ∀ solution, submitted = .ok solution → ∃ style report board,
      Style.relayOut { selectors := settings.selectors } (page settings) shape = (style, .ok report) ∧
      solution.board shape = .ok (.ok board) ∧
      done.printed = style.cssText ++ "\n\n" ++ board ++ "\n" ∧ done.failure = none := by
  intro done submitted
  obtain ⟨session, -, hprepare, hready⟩ := prepare_of_holds hs h hn source
  have hdone : done = finish ⟨settings, session⟩ reply now := by simp only [done, run, hprepare]
  rw [hdone]
  cases hsubmitted : submitted with
  | error e =>
    rw [finish_of_error hready hn hsubmitted]
    refine ⟨rfl, fun e' he => ?_, fun solution h => nomatch h⟩
    cases he
    exact ⟨rfl, rfl⟩
  | ok solution =>
    obtain ⟨style, report, board, hstyle, hboard, hfinish⟩ :=
      finish_of_ok hready (Document.proper_of_shape h.tiles) hn hsubmitted now
    rw [hfinish]
    refine ⟨rfl, fun e h => (nomatch h), fun solution' heq => ?_⟩
    cases heq
    exact ⟨style, report, board, hstyle, hboard, rfl, rfl⟩

/-- A run that does not find it fails with nothing printed and nothing sent. -/
theorem run_of_not_holds (hs : Settings.load environment = .ok settings)
    (h : ¬ ∃ document shape, Holds bytes document shape) (source : Source) (reply : ServerReply)
    (now : Nat) :
    ∃ e, run environment source bytes reply now = { failure := some e } ∧
      ((∃ o, e = .overflow o) ↔ ∃ document, Reads bytes document ∧ document.Rootless) := by
  obtain ⟨e, hprepare, hoverflow⟩ := exists_prepare_error hs (fun d s hd => h ⟨d, s, hd⟩) source
  exact ⟨e, by simp only [run, hprepare], hoverflow⟩

theorem submit_eq_ok_iff (hn : shape.side = .ok n) {service : Service} {g solution : Givens} :
    (service.submit g shape).2 = .ok (.ok solution) ↔
      (service.submitTo g shape n).2 = .ok solution := by
  simp only [Service.submit, hn, Except.ok.injEq]

/-- A run fails with nothing printed, or it has a solution and does not fail. -/
theorem run_cases (hs : Settings.load environment = .ok settings) (source : Source)
    (bytes : Option ByteArray) (reply : ServerReply) (now : Nat) :
    let done := run environment source bytes reply now
    (done.printed = "" ∧ ∃ e, done.failure = some e ∧
      ((∃ o, e = .overflow o) ↔ ∃ document, Reads bytes document ∧ document.Rootless)) ∨
    (done.failure = none ∧ ∃ document shape solution, Holds bytes document shape ∧
      ((oneReply reply).submit document.givens shape).2 = .ok (.ok solution)) := by
  intro done
  by_cases hfound : ∃ document shape, Holds bytes document shape
  · obtain ⟨document, shape, hd⟩ := hfound
    obtain ⟨n, hn, -⟩ := hd.exists_side
    obtain ⟨-, herror, hok⟩ := run_of_holds hs hd hn source reply now
    cases hsubmitted : ((oneReply reply).submitTo document.givens shape n).2 with
    | error e =>
      obtain ⟨hprinted, hfailure⟩ := herror e hsubmitted
      exact .inl ⟨hprinted, _, hfailure,
        iff_of_false (fun ⟨o, h⟩ => nomatch h) (hd.reads.not_rootless hd.tiles)⟩
    | ok solution =>
      obtain ⟨-, -, -, -, -, -, hnone⟩ := hok solution hsubmitted
      exact .inr ⟨hnone, document, shape, solution, hd, (submit_eq_ok_iff hn).2 hsubmitted⟩
  · obtain ⟨e, hrun, hoverflow⟩ := run_of_not_holds hs hfound source reply now
    have hdone : done = { failure := some e } := hrun
    rw [hdone]
    exact .inl ⟨rfl, e, rfl, hoverflow⟩

/-- A run overflows exactly if the root of the number of rows is asked for and not found. -/
theorem run_overflow_iff (hs : Settings.load environment = .ok settings) (source : Source)
    (bytes : Option ByteArray) (reply : ServerReply) (now : Nat) :
    (∃ o, (run environment source bytes reply now).failure = some (.overflow o)) ↔
      ∃ document, Reads bytes document ∧ document.Rootless := by
  obtain ⟨-, e, hfailure, hoverflow⟩ | ⟨hfailure, document, shape, -, hd, -⟩ :=
    run_cases hs source bytes reply now
  · rw [hfailure]
    simpa only [Option.some.injEq] using hoverflow
  · rw [hfailure]
    exact iff_of_false (fun ⟨o, h⟩ => nomatch h) (hd.reads.not_rootless hd.tiles)

/-- **A run prints all or nothing.** The decimal texts of the counts give the session the shape of
the document. Givens that fit are sent once, as they stand in the rows; others are not sent. A
solution is printed, under the seven rules of a layout in that shape; without one the run fails and
has printed nothing. A product overflows only if the document lacks a count and has so many rows, from
`65535 × 65535` up to the largest word, that the root of their number is not found. -/
theorem run_all_or_nothing {environment : Environment} {settings : Settings}
    (hs : Settings.load environment = .ok settings) (source : Source) (bytes : Option ByteArray)
    (reply : ServerReply) (now : Nat) :
    let done := run environment source bytes reply now
    let post := (Client.ofBase settings.solverUrl).post
    ((∃ e, done.failure = some (.overflow e)) ↔ ∃ document, Reads bytes document ∧
      (document.boxes.width.toNat = 0 ∨ document.boxes.height.toNat = 0) ∧
      65535 * 65535 ≤ document.rows.length ∧ document.rows.length < 4294967296) ∧
    (∀ document shape, Holds bytes document shape →
      ∃ n, shape.side = .ok n ∧ n.toNat = document.rows.length ∧
        (∃ session, (fresh settings document n).setShape (some (wordText shape.width))
            (some (wordText shape.height)) = (session, .ok (.applied shape)) ∧
          prepare environment source bytes = .ok ⟨settings, session⟩) ∧
        (document.givens.Fits n.toNat → done.sent = [post ⟨document.givens.placements, shape⟩]) ∧
        (¬ document.givens.Fits n.toNat → done.sent = []) ∧
        document.givens.Collects (Givens.matrixEntries document.rows) ∧
        ((∀ digits ∈ document.rows, digits.length ≤ 4294967296) →
          document.RowMajor document.givens.placements) ∧
        ∀ solution, ((oneReply reply).submit document.givens shape).2 = .ok (.ok solution) →
          solution.Fits n.toNat ∧ ∃ style report board,
            Style.relayOut { selectors := settings.selectors } (page settings) shape =
              (style, .ok report) ∧
            style.size = 7 ∧ solution.board shape = .ok (.ok board) ∧
            done.printed = style.cssText ++ "\n\n" ++ board ++ "\n" ∧ done.failure = none) ∧
    ((¬ ∃ document shape, Holds bytes document shape) → done.sent = []) ∧
    ((¬ ∃ document shape solution, Holds bytes document shape ∧
        ((oneReply reply).submit document.givens shape).2 = .ok (.ok solution)) →
      done.printed = "" ∧ done.failure.isSome = true) := by
  intro done post
  refine ⟨?_, fun document shape hd => ?_, fun hnone => ?_, fun hnone => ?_⟩
  · simp only [Nat.lt_succ_iff]
    exact run_overflow_iff hs source bytes reply now
  · obtain ⟨n, hn, hrows⟩ := hd.exists_side
    obtain ⟨-, -, -, hle⟩ := Document.shape_eq_ok_iff.1 hd.tiles
    obtain ⟨session, happly, hprepare, -⟩ := prepare_of_holds hs hd hn source
    obtain ⟨hsent, -, hok⟩ := run_of_holds hs hd hn source reply now
    refine ⟨n, hn, hrows, ⟨session, happly, hprepare⟩, fun hfits => ?_, fun hmisfit => ?_,
      Givens.collects_ofList _, Document.rowMajor_givens hle, fun solution hsolution => ?_⟩
    · rw [hsent, posts, Service.received_submitTo_of_fits hfits]
      rfl
    · rw [hsent, posts, Service.submitTo_fst_of_misfit hmisfit]
      rfl
    · rw [submit_eq_ok_iff hn] at hsolution
      obtain ⟨style, report, board, hstyle, hboard, hprinted⟩ := hok solution hsolution
      exact ⟨Service.solution_fits hsolution, style, report, board, hstyle,
        Style.size_relayOut hstyle, hboard, hprinted⟩
  · obtain ⟨e, hrun, -⟩ := run_of_not_holds hs hnone source reply now
    have hdone : done = { failure := some e } := hrun
    rw [hdone]
  · obtain ⟨hprinted, e, hfailure, -⟩ | ⟨-, hsolved⟩ := run_cases hs source bytes reply now
    · exact ⟨hprinted, by rw [hfailure]; rfl⟩
    · exact absurd hsolved hnone

/-- A document of two rows with one given in them, whose boxes are the rows. -/
def sampleDocument : Document := ⟨[[none, some 2], [none, none]], ⟨2, 1⟩⟩

/-- The solution of the sample: both digits in either row. -/
def sampleSolution : List Placement := [⟨0, 0, 1⟩, ⟨0, 1, 2⟩, ⟨1, 0, 2⟩, ⟨1, 1, 1⟩]

theorem fromUTF8?_toUTF8 (text : String) : String.fromUTF8? text.toUTF8 = some text := by
  rw [String.fromUTF8?, String.toUTF8_eq_toByteArray, dif_pos text.isValidUTF8]
  rfl

theorem reads_encode (document : Document) : Reads (some (encode document).toUTF8) document := by
  refine ⟨encode document, ?_, decode?_encode document⟩
  rw [Option.bind_some, fromUTF8?_toUTF8]

theorem holds_sample : Holds (some (encode sampleDocument).toUTF8) sampleDocument ⟨2, 1⟩ :=
  ⟨reads_encode sampleDocument, rfl⟩

theorem submit_sample {reply : ServerReply} (h : reply.interpret = .ok ⟨some sampleSolution⟩) :
    ((oneReply reply).submit sampleDocument.givens ⟨2, 1⟩).2 =
      .ok (.ok (.ofPlacements sampleSolution)) := by
  have hgivens : sampleDocument.givens.Fits (2 : UInt32).toNat := Givens.fault?_eq_none_iff.1 rfl
  have hsolution : (Givens.ofPlacements sampleSolution).Fits (2 : UInt32).toNat :=
    Givens.fault?_eq_none_iff.1 rfl
  exact (@submit_eq_ok_iff ⟨2, 1⟩ 2 rfl _ _ _).2 (Service.submitTo_eq_ok_iff.2
    ⟨hgivens, sampleSolution, h, hsolution, Givens.collects_ofPlacements _⟩)

/-- With an answer the sample is printed, without one nothing is. -/
theorem run_of_sample_all_or_nothing :
    let bytes := some (encode sampleDocument).toUTF8
    let answer := ServerReply.answered 200 (encode (⟨some sampleSolution⟩ : Response))
    ∃ settings, Settings.load ⟨[]⟩ = .ok settings ∧
      let done := run ⟨[]⟩ .standardInput bytes answer 0
      let post := (Client.ofBase settings.solverUrl).post
      (∃ sheet, done.printed = sheet ++ "\n\n" ++ "-----\n|1 2|\n|---|\n|2 1|\n-----" ++ "\n") ∧
        done.failure = none ∧ done.sent = [post ⟨[⟨0, 1, 2⟩], ⟨2, 1⟩⟩] ∧
        (run ⟨[]⟩ .standardInput bytes .unreachable 0).printed = "" := by
  intro bytes answer
  obtain ⟨settings, hload⟩ : ∃ settings, Settings.load ⟨[]⟩ = .ok settings := ⟨_, rfl⟩
  have hanswer : answer.interpret = .ok ⟨some sampleSolution⟩ := by
    rw [ServerReply.interpret, if_pos (by decide), Response.ofBody_eq_ok_iff]
    exact Response.ofBody?_encode _
  obtain ⟨-, hdocument, -, -⟩ := run_all_or_nothing hload .standardInput bytes answer 0
  obtain ⟨n, hn, -, -, hsent, -, -, -, hsolved⟩ := hdocument _ _ holds_sample
  obtain rfl : 2 = n := Except.ok.inj hn
  obtain ⟨-, style, report, board, -, -, hboard, hprinted, hfailure⟩ :=
    hsolved _ (submit_sample hanswer)
  refine ⟨settings, hload, ⟨style.cssText, ?_⟩, hfailure, hsent (Givens.fault?_eq_none_iff.1 rfl), ?_⟩
  · have htext : board = "-----\n|1 2|\n|---|\n|2 1|\n-----" := by
      obtain ⟨n, hn', -, rfl⟩ := Givens.board_eq_ok_iff.1 hboard
      obtain rfl : 2 = n := Except.ok.inj hn'
      decide
    rw [hprinted, htext]
  · obtain ⟨-, -, -, hnothing⟩ := run_all_or_nothing hload .standardInput bytes .unreachable 0
    refine (hnothing ?_).1
    rintro ⟨document, shape, solution, hd, hsolution⟩
    obtain ⟨n, hn, -⟩ := hd.exists_side
    rw [submit_eq_ok_iff hn, Service.submitTo_eq_ok_iff] at hsolution
    obtain ⟨-, ps, hps, -⟩ := hsolution
    cases hps

/-- The run of a document without a root overflows, whatever the server would reply. -/
theorem run_of_rootless (hs : Settings.load environment = .ok settings) (h : document.Rootless)
    (source : Source) (reply : ServerReply) (now : Nat) :
    (run environment source (some (encode document).toUTF8) reply now).failure =
      some (.overflow .product) := by
  obtain ⟨o, ho⟩ := (run_overflow_iff hs source _ reply now).2 ⟨document, reads_encode document, h⟩
  cases o
  exact ho

/-- `65535 × 65535` empty rows without counts: with the settings of an empty environment, and without a
server, the run of their text overflows. -/
theorem run_of_largest_square :
    let document : Document := ⟨List.replicate 4294836225 [], ⟨0, 0⟩⟩
    ∃ settings, Settings.load ⟨[]⟩ = .ok settings ∧ decode? (encode document) = some document ∧
      (run ⟨[]⟩ .standardInput (some (encode document).toUTF8) .unreachable 0).failure =
        some (.overflow .product) := by
  intro document
  obtain ⟨settings, hload⟩ : ∃ settings, Settings.load ⟨[]⟩ = .ok settings := ⟨_, rfl⟩
  have hroot : Document.Rootless ⟨List.replicate 4294836225 [], ⟨0, 0⟩⟩ :=
    Document.rootless_replicate (by decide) (by decide)
  exact ⟨settings, hload, decode?_encode document, run_of_rootless hload hroot _ _ _⟩

end Headless

end BoxPuzzle

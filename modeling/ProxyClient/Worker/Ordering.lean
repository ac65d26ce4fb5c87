import ProxyClient.Worker.Handing

/-! What the writer has done at each of its exits.
Nothing follows a `Close` or a failed send, `run_writer` returns `Ok` for one of two reasons,
and every reservation it has taken over is released.
-/

namespace ProxyClient

open Foundations

namespace Wire

-----------------------------------------------------------------------------------------
-- Nothing after a `Close` or a failed send
-----------------------------------------------------------------------------------------

/-- A step hands over one frame and shows nothing else, or hands nothing over. -/
theorem handed_alone {wire next : Wire} {action : WireAction} {events : List Event}
    (taken : wire.stepAmong action = some (next, events))
    : handedFrames events = [] ∨ ∃ frame, events = [.handed frame] := by
  by_cases own : ∃ step, action = .writer step
  · obtain ⟨step, rfl⟩ := own
    cases stepped_of_step taken with
    | control | close | bulk => exact .inr ⟨_, rfl⟩
    | controlIdle | controlClosed | bulkIdle | bulkClosed | sentControl | sentClose | sentBulk
    | failedClose => exact .inl rfl
    | drained | sinkClosed | failedControl | failedBulk | panic | cancelled =>
        exact .inl (by simp [finish, Piece.lost, Event.handed?])
  · exact .inl (writer_of_stepAmong taken fun step same => own ⟨step, same⟩).2.1

/-- A halted writer stays halted and hands nothing over. -/
theorem halted_of_halted {wire next : Wire} {action : WireAction} {events : List Event}
    (taken : wire.stepAmong action = some (next, events))
    (halted : wire.writer.halted = true)
    : next.writer.halted = true ∧ handedFrames events = [] := by
  by_cases own : ∃ step, action = .writer step
  · obtain ⟨step, rfl⟩ := own
    cases stepped_of_step taken with
    | control here | close here | bulk here | controlIdle here | controlClosed here
    | bulkIdle here | bulkClosed here | drained here | sentControl here | sentBulk here
    | failedControl here | failedBulk here => simp [here, WriterPc.halted] at halted
    | sentClose | failedClose => exact ⟨rfl, rfl⟩
    | sinkClosed | panic | cancelled => exact ⟨rfl, by simp [finish, Event.handed?]⟩
  · obtain ⟨same, handed, -⟩ :=
      writer_of_stepAmong taken fun step same => own ⟨step, same⟩
    exact ⟨same ▸ halted, handed⟩

/-- The event that halts the writer. -/
theorem halted_of_halts {wire next : Wire} {action : WireAction} {events : List Event}
    (taken : wire.stepAmong action = some (next, events)) {event : Event}
    (listed : event ∈ events) (halts : event.halts = true)
    : next.writer.halted = true := by
  cases among_of_stepAmong taken with
  | writer taken =>
      cases stepped_of_step taken with
      | control here opened queued plain =>
          obtain rfl := List.mem_singleton.mp listed
          simp [Event.halts, plain] at halts
      | bulk | sentControl =>
          obtain rfl := List.mem_singleton.mp listed
          cases halts
      | sentBulk =>
          simp only [List.mem_cons, List.not_mem_nil, or_false] at listed
          rcases listed with rfl | rfl <;> cases halts
      | controlIdle | controlClosed | bulkIdle | bulkClosed =>
          exact absurd listed List.not_mem_nil
      | close | sentClose | failedClose | drained | sinkClosed | failedControl | failedBulk
      | panic | cancelled => rfl
  | control =>
      obtain rfl := trySend_events listed
      cases halts
  | bulk =>
      obtain rfl := List.mem_singleton.mp listed
      cases halts
  | dropControlSender | dropBulkSender | places | abort => exact absurd listed List.not_mem_nil

/-- After an event that halts the writer, it is halted and nothing is handed over. -/
structure Final (events : List Event) (wire : Wire) : Prop where
  halted : ∀ event ∈ events, event.halts = true → wire.writer.halted = true
  after
    : ∀ earlier event later,
        events = earlier ++ event :: later → event.halts = true → handedFrames later = []

theorem final_start (senders : Nat) : (start senders).Final [] where
  halted _ absent := absurd absent List.not_mem_nil
  after earlier event later split := by simp at split

theorem Final.step {wire next : Wire} {action : WireAction} {seen events : List Event}
    (final : wire.Final seen) (taken : wire.stepAmong action = some (next, events))
    : next.Final (seen ++ events) where
  halted event listed halts := by
    rcases List.mem_append.mp listed with earlier | new
    · exact (halted_of_halted taken (final.halted event earlier halts)).1
    · exact halted_of_halts taken new halts
  after earlier event later split halts := by
    rcases List.append_eq_append_iff.mp split with ⟨rest, same, within⟩ | ⟨rest, same, within⟩
    · -- The event is shown by this step.
      rcases handed_alone taken with none | ⟨frame, one⟩
      · have shown : handedFrames (rest ++ event :: later) = [] := within ▸ none
        rw [handedFrames_append, handedFrames_cons, List.append_eq_nil_iff,
          List.append_eq_nil_iff] at shown
        exact shown.2.2
      · rw [one] at within
        have short := congrArg List.length within
        simp only [List.length_append, List.length_cons, List.length_nil] at short
        have empty : later = [] := List.eq_nil_of_length_eq_zero (by omega)
        rw [empty]
        rfl
    · cases rest with
      | nil =>
          -- The event is the first of this step.
          rcases handed_alone taken with none | ⟨frame, one⟩
          · have shown : handedFrames (event :: later) = [] := within ▸ none
            rw [handedFrames_cons, List.append_eq_nil_iff] at shown
            exact shown.2
          · rw [one] at within
            obtain ⟨-, rfl⟩ := List.cons.inj within
            rfl
      | cons first rest =>
          simp only [List.cons_append, List.cons.injEq] at within
          obtain ⟨rfl, rfl⟩ := within
          have listed : event ∈ seen := same ▸ by simp
          have none := (halted_of_halted taken (final.halted event listed halts)).2
          have before := final.after earlier event rest same halts
          rw [handedFrames_append, before, none]
          rfl

-----------------------------------------------------------------------------------------
-- What has been sent
-----------------------------------------------------------------------------------------

/-- Unless it has halted, the writer has sent what it has handed over, but for the frame it is
sending.
-/
def Sends (events : List Event) (wire : Wire) : Prop :=
  wire.writer.halted = false → handedFrames events = sentFrames events ++ wire.writer.frames

theorem Sends.step {wire next : Wire} {action : WireAction} {seen events : List Event}
    (sends : wire.Sends seen) (taken : wire.stepAmong action = some (next, events))
    : next.Sends (seen ++ events) := by
  intro live
  have before : wire.writer.halted = false := by
    cases halted : wire.writer.halted with
    | false => rfl
    | true => simp [(halted_of_halted taken halted).1] at live
  have already := sends before
  by_cases own : ∃ step, action = .writer step
  · obtain ⟨step, rfl⟩ := own
    cases stepped_of_step taken with
    | control here | bulk here | controlIdle here | controlClosed here | bulkIdle here
    | bulkClosed here | sentControl here | sentBulk here =>
        rw [here] at already
        simp [already, here, WriterPc.frames, Event.handed?, Event.sent?]
    | close | drained | sentClose | failedControl | failedClose | failedBulk | sinkClosed
    | panic | cancelled => cases live
  · obtain ⟨same, handed, sent⟩ :=
      writer_of_stepAmong taken fun step same => own ⟨step, same⟩
    simp [already, same, handed, sent]

-----------------------------------------------------------------------------------------
-- The exits of `run_writer`
-----------------------------------------------------------------------------------------

/-- A channel that the writer has seen closed has no sender left and is empty, and a writer
that has ended leaves nothing queued.
-/
structure Shut (wire : Wire) : Prop where
  control : wire.controlOpen = false → wire.control = [] ∧ wire.controlSender = false
  bulk : wire.bulkOpen = false → wire.bulk = [] ∧ wire.bulkSenders = 0
  ended : wire.writer.hasEnded = true → wire.control = [] ∧ wire.bulk = []

theorem shut_start (senders : Nat) : (start senders).Shut where
  control := nofun
  bulk := nofun
  ended := nofun

theorem Shut.finished {wire : Wire} (shut : wire.Shut) (result : Except BoxError Unit)
    : (wire.ended result).Shut where
  control closed := ⟨rfl, (shut.control closed).2⟩
  bulk closed := ⟨rfl, (shut.bulk closed).2⟩
  ended _ := ⟨rfl, rfl⟩

theorem Shut.step {wire next : Wire} {action : WireAction} {events : List Event}
    (shut : wire.Shut) (taken : wire.stepAmong action = some (next, events))
    : next.Shut := by
  cases among_of_stepAmong taken with
  | writer taken =>
      have live := live_of_step taken
      cases stepped_of_step taken with
      | control here opened queued | close here opened queued =>
          exact { shut with
            control := fun closed => by simp [opened] at closed
            ended := nofun }
      | controlIdle | bulkIdle | sentControl | sentClose | sentBulk | failedClose =>
          exact { shut with ended := nofun }
      | controlClosed here empty closed =>
          exact { shut with
            control := fun _ => ⟨empty, closed⟩
            ended := fun ended => by simp [live] at ended }
      | bulk here opened queued =>
          exact { shut with
            bulk := fun closed => by simp [opened] at closed
            ended := nofun }
      | bulkClosed here empty closed =>
          exact { shut with bulk := fun _ => ⟨empty, closed⟩, ended := nofun }
      | drained | failedControl | failedBulk | sinkClosed | panic | cancelled =>
          exact shut.finished _
  | control sender =>
      unfold trySend
      split
      · next room =>
          simp only [controlRoom, Bool.and_eq_true, Bool.not_eq_true'] at room
          exact { shut with
            control := fun closed => by simp [(shut.control closed).2] at sender
            ended := fun ended => by simp [room.1] at ended }
      · exact shut
  | bulk sender live =>
      exact { shut with
        bulk := fun closed => by
          have none := (shut.bulk closed).2
          omega
        ended := fun ended => by
          have stopped : wire.writer.hasEnded = true := ended
          simp [live] at stopped }
  | dropControlSender =>
      exact { shut with control := fun closed => ⟨(shut.control closed).1, rfl⟩ }
  | dropBulkSender =>
      exact { shut with
        bulk := fun closed => by
          obtain ⟨empty, none⟩ := shut.bulk closed
          simp [dropBulkSender, empty, none] }
  | places | abort => exact { shut with }

/-- A `Close` has been handed over. -/
def HandedClose (events : List Event) : Prop :=
  ∃ message : Message, message.isClose = true ∧ .handed (.control message) ∈ events

/-- Both channels are closed, and everything that was queued has been sent. -/
structure Drained (events : List Event) (wire : Wire) : Prop where
  controlClosed : wire.controlSender = false
  bulkClosed : wire.bulkSenders = 0
  control : controlOf (sentFrames events) = queuedControl events
  bulk : bulkOf (sentFrames events) = queuedBulk events

/-- The reasons for which the writer has come where it is. -/
structure Exits (events : List Event) (wire : Wire) : Prop where
  closing
    : ∀ message,
        wire.writer = .sendingClose message ∨ wire.writer = .closingSink → HandedClose events
  returned
    : .writerReturned (.ok ()) ∈ events
      → HandedClose events ∨ wire.writer.hasEnded = true ∧ wire.Drained events

theorem exits_start (senders : Nat) : (start senders).Exits [] where
  closing _ absent := by rcases absent with absent | absent <;> cases absent
  returned absent := absurd absent List.not_mem_nil

theorem HandedClose.append {events : List Event} (closed : HandedClose events)
    (more : List Event)
    : HandedClose (events ++ more) := by
  obtain ⟨message, closes, listed⟩ := closed
  exact ⟨message, closes, List.mem_append_left _ listed⟩

theorem returned_not_mem_lose {result : Except BoxError Unit} (pieces : List Piece)
    : .writerReturned result ∉ lose pieces := by
  intro listed
  obtain ⟨piece, -, lost⟩ := List.mem_flatMap.mp listed
  simp [Piece.lost] at lost

/-- A step that shows no `Ok` of `run_writer` and starts no `Close`. -/
theorem Exits.quiet {wire next : Wire} {seen events : List Event} (exits : wire.Exits seen)
    (live : wire.writer.hasEnded = false) (silent : .writerReturned (.ok ()) ∉ events)
    (closing
      : ∀ message,
          next.writer = .sendingClose message ∨ next.writer = .closingSink
          → HandedClose (seen ++ events))
    : next.Exits (seen ++ events) where
  closing := closing
  returned listed := by
    rcases List.mem_append.mp listed with earlier | new
    · rcases exits.returned earlier with closed | ⟨ended, -⟩
      · exact .inl (closed.append events)
      · simp [live] at ended
    · exact absurd new silent

theorem Exits.writerStep {wire next : Wire} {action : WriterAction} {seen events : List Event}
    (exits : wire.Exits seen) (shut : wire.Shut) (fifo : wire.Fifo seen)
    (sends : wire.Sends seen) (taken : wire.step action = some (next, events))
    : next.Exits (seen ++ events) := by
  have live := live_of_step taken
  have still {message : Message} (handling
      : wire.writer = .sendingClose message ∨ wire.writer = .closingSink)
      : HandedClose (seen ++ events) :=
    (exits.closing message handling).append events
  cases stepped_of_step taken with
  | @close message rest here opened queued closes =>
      refine exits.quiet live (by simp) fun _ _ => ?_
      exact ⟨message, closes, by simp⟩
  | sentClose here | failedClose here =>
      exact exits.quiet live (by simp) fun _ _ => still (.inl here)
  | controlClosed here =>
      refine exits.quiet live (by simp) ?_
      rintro message (absent | absent) <;> simp [here] at absent
  | control | controlIdle | bulk | bulkIdle | bulkClosed | sentControl | sentBulk =>
      refine exits.quiet live (by simp) ?_
      rintro message (absent | absent) <;> cases absent
  | failedControl | failedBulk =>
      refine exits.quiet live (by simp [finish, Piece.lost, returned_not_mem_lose]) ?_
      rintro message (absent | absent) <;> cases absent
  | panic | cancelled =>
      refine exits.quiet live (by simp [returned_not_mem_lose]) ?_
      rintro message (absent | absent) <;> cases absent
  | sinkClosed here =>
      have closed := exits.closing (.close none) (.inr here)
      refine { closing := ?_, returned := fun _ => .inl (closed.append _) }
      rintro message (absent | absent) <;> cases absent
  | drained here control bulk =>
      refine { closing := ?_, returned := fun _ => .inr ⟨rfl, ?_⟩ }
      · rintro message (absent | absent) <;> cases absent
      · obtain ⟨noControl, noControlSender⟩ := shut.control control
        obtain ⟨noBulk, noBulkSender⟩ := shut.bulk bulk
        have queued := fifo.control live
        have bulked := fifo.bulk live
        have sent : handedFrames seen = sentFrames seen := by
          have same := sends (by rw [here]; rfl)
          simpa [here, WriterPc.frames] using same
        rw [noControl, List.append_nil, sent] at queued
        rw [noBulk, List.append_nil, sent] at bulked
        refine {
          controlClosed := noControlSender
          bulkClosed := noBulkSender
          control := ?_
          bulk := ?_
        }
        · simp [finish, queued, Event.sent?, Event.controlQueued?]
        · simp [finish, bulked, Event.sent?, Event.bulkQueued?]

/-- What the senders do changes none of the reasons. -/
theorem Exits.step {wire next : Wire} {action : WireAction} {seen events : List Event}
    (exits : wire.Exits seen) (shut : wire.Shut) (fifo : wire.Fifo seen)
    (sends : wire.Sends seen) (taken : wire.stepAmong action = some (next, events))
    : next.Exits (seen ++ events) := by
  cases among_of_stepAmong taken with
  | writer taken => exact exits.writerStep shut fifo sends taken
  | @control message sender =>
      obtain ⟨-, -, writer⟩ := wire.trySend_same message
      refine { closing := fun other handling => ?_, returned := fun listed => ?_ }
      · exact (exits.closing other (writer ▸ handling)).append _
      · rcases List.mem_append.mp listed with earlier | new
        · rcases exits.returned earlier with closed | ⟨ended, drained⟩
          · exact .inl (closed.append _)
          · simp [drained.controlClosed] at sender
        · cases trySend_events new
  | bulk sender live => exact exits.quiet live (by simp [push]) fun message handling =>
      (exits.closing message handling).append _
  | dropControlSender =>
      rw [List.append_nil]
      refine { exits with returned := fun listed => ?_ }
      rcases exits.returned listed with closed | ⟨ended, drained⟩
      · exact .inl closed
      · exact .inr ⟨ended, { drained with controlClosed := rfl }⟩
  | dropBulkSender =>
      rw [List.append_nil]
      refine { exits with returned := fun listed => ?_ }
      rcases exits.returned listed with closed | ⟨ended, drained⟩
      · exact .inl closed
      · have bulkClosed : wire.dropBulkSender.bulkSenders = 0 := by
          simp [dropBulkSender, drained.bulkClosed]
        exact .inr ⟨ended, { drained with bulkClosed }⟩
  | places | abort =>
      rw [List.append_nil]
      refine { exits with returned := fun listed => ?_ }
      rcases exits.returned listed with closed | ⟨ended, drained⟩
      · exact .inl closed
      · exact .inr ⟨ended, { drained with }⟩

-----------------------------------------------------------------------------------------
-- Reservations
-----------------------------------------------------------------------------------------

/-- The bytes of the writer's responses: they come in with the bulk queue and go out when
they are released.
-/
def bulkBytes : Ledger Piece Event where
  worth piece := piece.bytes
  gain
    | .bulkQueued response => response.reservation.bytes
    | _ => 0
  loss
    | .released bytes => bytes
    | _ => 0

/-- A piece that is lost releases what it holds. -/
theorem balanced_lost (piece : Piece) (rest : List Piece)
    : bulkBytes.Balanced (piece :: rest) piece.lost rest := by
  simp [Ledger.Balanced, Piece.lost, bulkBytes]
  omega

/-- Losing pieces releases what they hold, by induction over them. -/
theorem balanced_lose (pieces : List Piece) : bulkBytes.Balanced pieces (lose pieces) [] := by
  induction pieces with
  | nil => exact .refl
  | cons piece rest ih => exact (balanced_lost piece rest).trans ih

/-- Every step of the writer keeps what it holds, or releases it. -/
theorem balanced_of_step {wire next : Wire} {action : WriterAction} {events : List Event}
    (taken : wire.step action = some (next, events))
    : bulkBytes.Balanced wire.pieces events next.pieces := by
  have ended (held : List EncodedResponse) (same : wire.writer.inHand = held)
      : bulkBytes.Balanced wire.pieces (lose ((held ++ wire.bulk).map EncodedResponse.piece))
          [] := by
    subst same
    exact balanced_lose _
  cases stepped_of_step taken with
  | control here | close here | controlIdle here | bulkIdle here | bulkClosed here
  | sentControl here | sentClose here | failedClose here =>
      simp [pieces, here, WriterPc.inHand, Ledger.Balanced, bulkBytes]
  | controlClosed => exact .refl
  | bulk here opened queued =>
      simp [pieces, here, queued, WriterPc.inHand, Ledger.Balanced, bulkBytes]
  | sentBulk here =>
      simp [pieces, here, WriterPc.inHand, Ledger.Balanced, bulkBytes, EncodedResponse.piece]
      omega
  | drained here | sinkClosed here =>
      have lost := ended [] (by rw [here]; rfl)
      exact Ledger.Balanced.note rfl rfl lost
  | failedControl here =>
      have lost := ended [] (by rw [here]; rfl)
      exact Ledger.Balanced.note rfl rfl (Ledger.Balanced.note rfl rfl lost)
  | @failedBulk response error here =>
      have held
          : wire.pieces = response.piece :: wire.bulk.map EncodedResponse.piece := by
        simp [pieces, here, WriterPc.inHand]
      have lost
          : bulkBytes.Balanced (wire.bulk.map EncodedResponse.piece)
              (wire.finish (.error error)).2 [] :=
        Ledger.Balanced.note rfl rfl (balanced_lose _)
      rw [held]
      exact Ledger.Balanced.note rfl rfl ((balanced_lost _ _).trans lost)
  | panic => exact Ledger.Balanced.note rfl rfl (balanced_lose _)
  | cancelled => exact balanced_lose _

theorem balanced_of_stepAmong {wire next : Wire} {action : WireAction} {events : List Event}
    (taken : wire.stepAmong action = some (next, events))
    : bulkBytes.Balanced wire.pieces events next.pieces := by
  cases among_of_stepAmong taken with
  | writer taken => exact balanced_of_step taken
  | @control message =>
      obtain ⟨bulk, -, writer⟩ := wire.trySend_same message
      have same : (wire.trySend message).1.pieces = wire.pieces := by simp [pieces, bulk, writer]
      rw [same]
      rcases wire.trySend_cases message with queued | lost
      · rw [queued]
        exact Ledger.Balanced.note rfl rfl .refl
      · rw [lost]
        exact .refl
  | bulk =>
      simp [Ledger.Balanced, push, pieces, bulkBytes, EncodedResponse.piece]
      omega
  | dropControlSender | dropBulkSender | places | abort => exact .refl

/-- A send of a response that succeeds or fails releases its reservation. -/
theorem released_of_step {wire next : Wire} {action : WireAction} {events : List Event}
    (taken : wire.stepAmong action = some (next, events))
    : ∀ response ∈ endedSends events, .released response.reservation.bytes ∈ events := by
  have none (quiet : endedSends events = [])
      : ∀ response ∈ endedSends events, .released response.reservation.bytes ∈ events :=
    fun _ listed => absurd listed (by simp [quiet])
  cases among_of_stepAmong taken with
  | writer taken =>
      cases stepped_of_step taken with
      | sentBulk =>
          intro response listed
          obtain rfl := List.mem_singleton.mp listed
          simp
      | @failedBulk sending error =>
          have one
              : endedSends (.sendFailed (.bulk sending) :: sending.piece.lost
                  ++ (wire.finish (.error error)).2) = [sending] := by
            simp [finish, Piece.lost, Event.endedSend?]
          intro response listed
          rw [one] at listed
          obtain rfl := List.mem_singleton.mp listed
          simp [Piece.lost, EncodedResponse.piece]
      | control | close | controlIdle | controlClosed | bulk | bulkIdle | bulkClosed
      | sentControl | sentClose | failedClose => exact none rfl
      | drained | sinkClosed | failedControl | panic | cancelled =>
          exact none (by simp [finish, Event.endedSend?])
  | @control message =>
      rcases wire.trySend_cases message with queued | lost
      · rw [queued] at none ⊢
        exact none rfl
      · rw [lost] at none ⊢
        exact none rfl
  | bulk | dropControlSender | dropBulkSender | places | abort => exact none rfl

-----------------------------------------------------------------------------------------
-- Runs
-----------------------------------------------------------------------------------------

/-- What the events so far say about the writer and its queues. -/
structure Told (events : List Event) (wire : Wire) : Prop where
  fifo : wire.Fifo events
  final : wire.Final events
  sends : wire.Sends events
  shut : wire.Shut
  exits : wire.Exits events
  balanced : bulkBytes.Balanced [] events wire.pieces

theorem told_start (senders : Nat) : (start senders).Told [] where
  fifo := fifo_start senders
  final := final_start senders
  sends _ := rfl
  shut := shut_start senders
  exits := exits_start senders
  balanced := .refl

theorem Told.step {wire next : Wire} {action : WireAction} {seen events : List Event}
    (told : wire.Told seen) (taken : wire.stepAmong action = some (next, events))
    : next.Told (seen ++ events) where
  fifo := told.fifo.step taken
  final := told.final.step taken
  sends := told.sends.step taken
  shut := told.shut.step taken
  exits := told.exits.step told.shut told.fifo told.sends taken
  balanced := told.balanced.trans (balanced_of_stepAmong taken)

/-- The last step of the writer was a control poll, and it found the control queue empty. -/
def JustPolled (history : List (Transition Wire WireAction Event)) : Prop :=
  ∃ before poll between,
    history = before ++ poll :: between
    ∧ poll.action = .writer .pollControl
    ∧ poll.before.control = []
    ∧ ∀ other ∈ between, ∀ action, other.action ≠ .writer action

section Runs

variable {senders : Nat} {history : List (Transition Wire WireAction Event)} {wire : Wire}

theorem told_of_run (run : wireMachine.Run (start senders) history wire)
    : wire.Told (Machine.eventsOf history) :=
  run.historyInvariant (fun seen wire => wire.Told seen) (told_start senders) Told.step

/-- The writer comes to its bulk branch only from a control poll, by induction over the run:
the senders do not move it.
-/
theorem justPolled_of_run (run : wireMachine.Run (start senders) history wire)
    (here : wire.writer = .bulkTurn)
    : JustPolled history := by
  induction run with
  | start => cases here
  | @step history wire action events next run taken ih =>
      by_cases own : ∃ step, action = .writer step
      · obtain ⟨step, rfl⟩ := own
        cases stepped_of_step taken with
        | controlIdle turn idle =>
            have empty : wire.control = [] := by
              cases opened : wire.controlOpen with
              | true => exact (idle opened).1
              | false => exact ((told_of_run run).shut.control opened).1
            exact ⟨history, _, [], rfl, rfl, empty, fun _ absent => nomatch absent⟩
        | controlClosed turn => simp [turn] at here
        | control | close | bulk | bulkIdle | bulkClosed | drained | sentControl | sentClose
        | sentBulk | failedControl | failedClose | failedBulk | sinkClosed | panic
        | cancelled => cases here
      · have other (step : WriterAction) : action ≠ .writer step :=
          fun same => own ⟨step, same⟩
        have still := (writer_of_stepAmong taken other).1
        obtain ⟨before, poll, between, rfl, polls, empty, idle⟩ := ih (still ▸ here)
        refine ⟨before, poll, between ++ [⟨wire, action, events, next⟩], by simp, polls, empty, ?_⟩
        intro transition listed
        rcases List.mem_append.mp listed with older | new
        · exact idle transition older
        · exact List.mem_singleton.mp new ▸ other

/-- A response is handed over at the bulk branch. -/
theorem bulkTurn_of_handed {next : Wire} {action : WireAction} {events : List Event}
    {response : EncodedResponse} (taken : wire.stepAmong action = some (next, events))
    (handed : .handed (.bulk response) ∈ events)
    : wire.writer = .bulkTurn := by
  have shown : .bulk response ∈ handedFrames events :=
    List.mem_filterMap.mpr ⟨_, handed, rfl⟩
  by_cases own : ∃ step, action = .writer step
  · obtain ⟨step, rfl⟩ := own
    cases stepped_of_step taken with
    | bulk here => exact here
    | control | close | controlIdle | controlClosed | bulkIdle | bulkClosed | drained
    | sentControl | sentClose | sentBulk | failedControl | failedClose | failedBulk
    | sinkClosed | panic | cancelled =>
        simp [finish, Piece.lost, Event.handed?] at shown
  · simp [(writer_of_stepAmong taken fun step same => own ⟨step, same⟩).2.1] at shown

/-- The laws of the writer, over a run among arbitrary senders. -/
structure Ordered (history : List (Transition Wire WireAction Event)) (wire : Wire) : Prop where
  control
    : controlOf (handedFrames (Machine.eventsOf history))
      <+: queuedControl (Machine.eventsOf history)
  bulk
    : bulkOf (handedFrames (Machine.eventsOf history))
      <+: queuedBulk (Machine.eventsOf history)
  /-- A response is taken in a poll that has just found the control queue empty. -/
  polled
    : ∀ earlier take later response,
        history = earlier ++ take :: later
        → .handed (.bulk response) ∈ take.events
        → JustPolled earlier
  /-- Nothing is handed over after a `Close` or a failed send. -/
  final
    : ∀ earlier event later,
        Machine.eventsOf history = earlier ++ event :: later
        → event.halts = true
        → handedFrames later = []
  returned
    : .writerReturned (.ok ()) ∈ Machine.eventsOf history
      → HandedClose (Machine.eventsOf history) ∨ wire.Drained (Machine.eventsOf history)
  released
    : ∀ transition ∈ history, ∀ response ∈ endedSends transition.events,
        .released response.reservation.bytes ∈ transition.events
  /-- What the queued responses hold has been released, or is still held by the writer. -/
  balanced
    : bulkBytes.gained (Machine.eventsOf history)
      = bulkBytes.total wire.pieces + bulkBytes.lost (Machine.eventsOf history)
  ended : wire.writer.hasEnded = true → wire.pieces = []

theorem ordered_of_run (run : wireMachine.Run (start senders) history wire)
    : Ordered history wire := by
  have told := told_of_run run
  exact {
    control := told.fifo.controlPrefix
    bulk := told.fifo.bulkPrefix
    polled := fun earlier take later response same handed => by
      subst same
      obtain ⟨reached, taken⟩ := run.split
      exact justPolled_of_run reached (bulkTurn_of_handed taken handed)
    final := told.final.after
    returned := fun listed => (told.exits.returned listed).imp id And.right
    released := fun transition listed => by
      obtain ⟨earlier, rest, -, -, taken⟩ := run.transition_mem listed
      exact released_of_step taken
    balanced := by
      have balanced := told.balanced
      simpa [Ledger.Balanced] using balanced
    ended := fun ended => by
      have empty := (told.shut.ended ended).2
      cases here : wire.writer with
      | ended => simp [pieces, here, empty, WriterPc.inHand]
      | select | bulkTurn | sendingControl | sendingClose | sendingBulk | closingSink =>
          simp [here, WriterPc.hasEnded] at ended
  }

end Runs

end Wire

end ProxyClient

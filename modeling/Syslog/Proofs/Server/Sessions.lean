import Syslog.Server.Streams

/-!
# What sessions count

A session is counted when it opens and when it is closed. Between these a handler may keep it from
returning at all, and it may be ended by force.

* `Journal.tally`: what a journal says of sessions, with the openings that have not returned;
* `tally_callAll`: a call changes that only if it is for an opening and does not return;
* `Standing`: what a session has been counted as so far;
* `Moves`: how the standing of a session and the tally change together, in six ways;
* `Session.Moved`, `moved_act`: whatever happens to a session is one of them;
* `moved_quit`: so is its end by force, which alone makes a session leave whose opening has not
  returned.
-/

namespace Syslog

/-! ## 1. The tally of a journal -/

/-- Is it a call for an opening that has not returned? -/
def CallRecord.isHungOpening (r : CallRecord) : Bool :=
  match r.call with
  | .opened _ => r.conduct == .hangs
  | _ => false

/-- What is counted of sessions and connections. -/
structure Tally where
  opened : Nat
  closed : Nat
  /-- How many openings have not returned. -/
  hung : Nat
  rejected : Nat
  deriving DecidableEq

/-- What a call adds to the openings that have not returned. -/
def Call.hangsOpening (c : Call) (ended : Bool) : Nat :=
  match c with
  | .opened _ => if ended then 0 else 1
  | _ => 0

/-- A call that returns hangs nothing. -/
theorem Call.hangsOpening_true (c : Call) : c.hangsOpening true = 0 := by
  cases c <;> rfl

namespace Journal

/-- What the journal says of sessions and connections. -/
def tally (j : Journal) : Tally where
  opened := j.counts.opened
  closed := j.counts.closed
  hung := j.calls.countP CallRecord.isHungOpening
  rejected := j.counts.rejected

theorem tally_noteOpened (j : Journal) :
    j.noteOpened.tally = { j.tally with opened := j.tally.opened + 1 } := rfl

theorem tally_noteClosed (j : Journal) :
    j.noteClosed.tally = { j.tally with closed := j.tally.closed + 1 } := rfl

theorem tally_noteRejected (j : Journal) :
    j.noteRejected.tally = { j.tally with rejected := j.tally.rejected + 1 } := rfl

@[simp] theorem tally_noteFrame (j : Journal) (size : Nat) : (j.noteFrame size).tally = j.tally :=
  rfl

@[simp] theorem tally_noteHandlerError (j : Journal) : j.noteHandlerError.tally = j.tally := rfl

/-! ## 2. Calls -/

/-- What a record adds to them. -/
theorem hangsOpening_eq (handler : String) (c : Call) (conduct : Conduct) :
    (if (⟨handler, c, conduct⟩ : CallRecord).isHungOpening then 1 else 0) =
      c.hangsOpening (conduct != .hangs) := by
  cases c <;> cases conduct <;> rfl

theorem tally_call (j : Journal) (h : EventHandler) (c : Call) :
    (j.call h c).2.tally =
      { j.tally with hung := j.tally.hung + c.hangsOpening (j.call h c).1 } := by
  have hung : (j.calls ++ [(⟨h.name, c, h.conduct j.calls c⟩ : CallRecord)]).countP
      CallRecord.isHungOpening = j.tally.hung + c.hangsOpening (h.conduct j.calls c != .hangs) := by
    rw [List.countP_append, List.countP_singleton, hangsOpening_eq]
    rfl
  unfold call
  show (if _ then _ else _ : Journal).tally = _
  split
  · rw [tally_noteHandlerError]
    exact congrArg (Tally.mk _ _ · _) hung
  · exact congrArg (Tally.mk _ _ · _) hung

/-- **What calls of all handlers change**: only a call for an opening that does not return is noted.
-/
theorem tally_callAll (j : Journal) (c : Call) (handlers : List EventHandler) :
    (j.callAll c handlers).2.tally =
      { j.tally with hung := j.tally.hung + c.hangsOpening (j.callAll c handlers).1 } := by
  induction handlers generalizing j with
  | nil => cases c <;> rfl
  | cons h rest ih =>
    have first := j.tally_call h c
    cases called : j.call h c with
    | mk ended j' =>
      rw [called] at first
      cases ended with
      | true =>
        rw [c.hangsOpening_true] at first
        have goes_on : j.callAll c (h :: rest) = j'.callAll c rest := by
          simp only [callAll, called, if_true]
        rw [goes_on, ih, first]
        rfl
      | false =>
        have stops : j.callAll c (h :: rest) = (false, j') := by
          simp only [callAll, called, Bool.false_eq_true, if_false]
        rw [stops]
        exact first

/-- A call for anything but an opening leaves the tally as it is. -/
theorem tally_callAll_of_other (j : Journal) {c : Call} (handlers : List EventHandler)
    (other : c.hangsOpening false = 0) : (j.callAll c handlers).2.tally = j.tally := by
  have nothing : ∀ ended, c.hangsOpening ended = 0
    | true => c.hangsOpening_true
    | false => other
  rw [tally_callAll, nothing]
  rfl

end Journal

/-- Messages that are given to the handlers leave the tally as it is. -/
theorem SessionContext.tally_deliver (ctx : SessionContext) (info : SessionInfo) (line : Bytes)
    (j : Journal) : (ctx.deliver info line j).2.tally = j.tally := by
  unfold deliver
  split
  · rfl
  · rw [Journal.tally_callAll_of_other _ _ rfl, Journal.tally_noteFrame]

theorem SessionContext.tally_deliverAll (ctx : SessionContext) (info : SessionInfo)
    (frames : List Frame) (j : Journal) : (ctx.deliverAll info frames j).2.tally = j.tally := by
  induction frames generalizing j with
  | nil => rfl
  | cons frame rest ih =>
    cases frame with
    | tooLong size => exact ih j.noteOversized
    | line line =>
      have first := ctx.tally_deliver info line j
      unfold deliverAll
      cases delivered : ctx.deliver info line j with
      | mk ended j' =>
        rw [delivered] at first
        cases ended with
        | true => exact (ih j').trans first
        | false => exact first

/-! ## 3. Standings -/

/-- What a session has been counted as so far. -/
inductive Standing where
  /-- It has not been counted. -/
  | unopened
  /-- It has been counted as opened, and its opening has returned. -/
  | opened
  /-- It has been counted as opened, but its opening has not returned. -/
  | hung
  | ended
  deriving DecidableEq

/-- The standing of a session in a phase. -/
def SessionPhase.standing : SessionPhase → Standing
  | greeting => .unopened
  | reading | draining _ | stuck => .opened
  | stuckOpening => .hung
  | ended => .ended

/-- How the standing of a session and the tally can change together; with `final`, also when the
session is ended by force. -/
inductive Moves (final : Bool) : Standing → Tally → Standing → Tally → Prop
  | stays {st : Standing} {t : Tally} : Moves final st t st t
  | opens {t : Tally} : Moves final .unopened t .opened { t with opened := t.opened + 1 }
  | hangs {t : Tally} :
      Moves final .unopened t .hung { t with opened := t.opened + 1, hung := t.hung + 1 }
  | closes {t : Tally} : Moves final .opened t .ended { t with closed := t.closed + 1 }
  | drops {t : Tally} : Moves final .unopened t .ended t
  | forgets {t : Tally} (forced : final = true) : Moves final .hung t .ended t

/-- No move rejects a connection. -/
theorem Moves.rejected {final : Bool} {t t' : Tally} {st st' : Standing}
    (moves : Moves final st t st' t') : t'.rejected = t.rejected := by
  cases moves <;> rfl

/-- Two moves of an open session are one. -/
theorem Moves.trans_opened {final : Bool} {t t' t'' : Tally} {st st' : Standing}
    (first : Moves final .opened t st t') (second : Moves final st t' st' t'') :
    Moves final .opened t st' t'' := by
  cases first with
  | stays => exact second
  | closes =>
    cases second with
    | stays => exact .closes

/-- A session and the journal move, and the session is still the same one. -/
structure Session.Moved (final : Bool) (s : Session) (j : Journal) (after : Session × Journal) :
    Prop where
  moves : Moves final s.phase.standing j.tally after.1.phase.standing after.2.tally
  info : after.1.info = s.info

namespace Session

variable {final : Bool} {ctx : SessionContext} {s : Session} {j j' : Journal}

/-! ## 4. What happens to a session -/

/-- Nothing that is counted has happened. -/
theorem moved_of_same {s' : Session} (standing : s'.phase.standing = s.phase.standing)
    (tally : j'.tally = j.tally) (info : s'.info = s.info) : Moved final s j (s', j') := by
  refine ⟨?_, info⟩
  show Moves final s.phase.standing j.tally s'.phase.standing j'.tally
  rw [standing, tally]
  exact .stays

theorem moved_self : Moved final s j (s, j) := moved_of_same rfl rfl rfl

theorem moved_openUp (unopened : s.phase = .greeting) : Moved final s j (s.openUp ctx j) := by
  have called := j.noteOpened.tally_callAll (.opened s.info) ctx.handlers
  unfold openUp
  cases calls : j.noteOpened.callAll (.opened s.info) ctx.handlers with
  | mk ended j' =>
    rw [calls, j.tally_noteOpened] at called
    refine ⟨?_, rfl⟩
    rw [unopened]
    show Moves final .unopened j.tally (SessionPhase.standing (if ended then _ else _)) j'.tally
    rw [called]
    cases ended with
    | true => exact .opens
    | false => exact .hangs

theorem moved_close (opened : s.phase.standing = .opened) (tally : j'.tally = j.tally) :
    Moved final s j (s.close ctx j') := by
  have called := j'.tally_callAll_of_other (c := .closed s.info) ctx.handlers rfl
  unfold close
  cases calls : j'.callAll (.closed s.info) ctx.handlers with
  | mk ended j'' =>
    rw [calls, tally] at called
    cases ended with
    | true =>
      refine ⟨?_, rfl⟩
      show Moves final s.phase.standing j.tally .ended j''.noteClosed.tally
      rw [opened, j''.tally_noteClosed, called]
      exact .closes
    | false => exact moved_of_same opened.symm called rfl

theorem moved_flush (opened : s.phase.standing = .opened) (tally : j'.tally = j.tally) :
    Moved final s j (s.flush ctx j') := by
  have delivered := ctx.tally_deliverAll s.info s.decoder.finishAll j'
  unfold flush
  cases delivers : ctx.deliverAll s.info s.decoder.finishAll j' with
  | mk ended j'' =>
    rw [delivers, tally] at delivered
    cases ended with
    | true => exact moved_close opened delivered
    | false => exact moved_of_same opened.symm delivered rfl

/-- A session that breaks off counts as closed. -/
theorem moved_breakOff (opened : s.phase.standing = .opened) : Moved final s j (s.breakOff j) := by
  refine ⟨?_, rfl⟩
  show Moves final s.phase.standing j.tally .ended j.noteClosed.tally
  rw [opened]
  exact .closes

theorem moved_drain (wait : Time.Duration) : Moved final s j (s.drain ctx wait j) := by
  unfold drain
  split
  · rename_i reads
    have opened : s.phase.standing = .opened := congrArg _ reads
    split
    · exact moved_breakOff opened
    · split
      · exact moved_flush opened rfl
      · exact moved_of_same opened.symm rfl rfl
  · exact moved_self

theorem moved_read (opened : s.phase.standing = .opened) (bytes : Bytes) :
    Moved final s j (s.read ctx bytes j) := by
  unfold Session.read
  obtain ⟨frames, decoder⟩ := (s.decoder.feed bytes).all
  have delivered := ctx.tally_deliverAll s.info frames j
  cases delivers : ctx.deliverAll s.info frames j with
  | mk ended j' =>
    rw [delivers] at delivered
    have still : SessionPhase.standing (if ended then .reading else .stuck) = .opened := by
      cases ended <;> rfl
    simp only [delivers]
    exact moved_of_same (still.trans opened.symm) delivered rfl

theorem moved_readLast (opened : s.phase.standing = .opened) (bytes : Bytes) :
    Moved final s j (s.readLast ctx bytes j) := by
  unfold readLast
  obtain ⟨frames, dry, decoder⟩ := (s.decoder.feed bytes).allUntilDry
  have delivered := ctx.tally_deliverAll s.info frames j
  cases delivers : ctx.deliverAll s.info frames j with
  | mk ended j' =>
    rw [delivers] at delivered
    have flushed : Moved final { s with decoder } j (flush ctx { s with decoder } j') :=
      moved_flush opened delivered
    simp only [delivers]
    cases ended with
    | false => exact moved_of_same opened.symm delivered rfl
    | true =>
      cases dry with
      | true => exact ⟨flushed.moves, flushed.info⟩
      | false => exact moved_of_same rfl delivered rfl

theorem moved_feed (bytes : Bytes) : Moved final s j (s.feed ctx bytes j) := by
  unfold feed
  split
  · rename_i reads
    exact moved_read (congrArg _ reads) bytes
  · rename_i drains
    exact moved_readLast (congrArg _ drains) bytes
  · exact moved_self

theorem moved_finish : Moved final s j (s.finish ctx j) := by
  unfold finish
  split
  · rename_i reads
    exact moved_flush (congrArg _ reads) rfl
  · rename_i drains
    exact moved_flush (congrArg _ drains) rfl
  · exact moved_self

theorem moved_fail (fault : LinkFault) : Moved final s j (s.fail ctx fault j) := by
  unfold fail
  split
  · rename_i reads
    refine moved_close (congrArg _ reads) ?_
    split <;> rfl
  · rename_i drains
    exact moved_flush (congrArg _ drains) rfl
  · exact moved_self

theorem moved_pass (time : Time.Duration) : Moved final s j (s.pass ctx time j) := by
  unfold pass
  split
  · rename_i greets
    dsimp only
    split
    · refine ⟨?_, rfl⟩
      rw [greets]
      exact .drops
    · exact moved_of_same rfl rfl rfl
  · rename_i reads
    have opened : s.phase.standing = .opened := congrArg _ reads
    dsimp only
    split
    · split
      · have closed : Moved final { s with silent := ⟨s.silent.nanoseconds + time.nanoseconds⟩ } j
            (close ctx { s with silent := ⟨s.silent.nanoseconds + time.nanoseconds⟩ } j) :=
          moved_close opened rfl
        exact ⟨closed.moves, closed.info⟩
      · exact moved_of_same rfl rfl rfl
    · exact moved_of_same rfl rfl rfl
  · rename_i drains
    have opened : s.phase.standing = .opened := congrArg _ drains
    split
    · exact moved_flush opened rfl
    · exact moved_of_same opened.symm rfl rfl
  · exact moved_self

theorem moved_secured : Moved final s j (Streams.secured ctx s j) := by
  unfold Streams.secured
  by_cases greets : s.phase = .greeting
  · rw [if_pos greets]
    exact moved_openUp greets
  · rw [if_neg greets]
    exact moved_self

theorem moved_unsecured : Moved final s j (Streams.unsecured s j) := by
  unfold Streams.unsecured
  by_cases greets : s.phase = .greeting
  · rw [if_pos greets]
    refine ⟨?_, rfl⟩
    rw [greets]
    exact .drops
  · rw [if_neg greets]
    exact moved_self

/-- What can happen to a session of itself or from outside. -/
inductive Happening where
  | secured
  | unsecured
  | fed (bytes : Bytes)
  | finished
  | failed (fault : LinkFault)
  | passed (time : Time.Duration)
  | drained (wait : Time.Duration)

/-- What it does. -/
def Happening.act (ctx : SessionContext) : Happening → Streams.SessionAct
  | secured => Streams.secured ctx
  | unsecured => Streams.unsecured
  | fed bytes => Session.feed ctx bytes
  | finished => Session.finish ctx
  | failed fault => Session.fail ctx fault
  | passed time => Session.pass ctx time
  | drained wait => Session.drain ctx wait

/-- **Whatever happens to a session moves it.** -/
theorem moved_act (h : Happening) (s : Session) (j : Journal) :
    Moved final s j (h.act ctx s j) := by
  cases h with
  | secured => exact moved_secured
  | unsecured => exact moved_unsecured
  | fed bytes => exact moved_feed bytes
  | finished => exact moved_finish
  | failed fault => exact moved_fail fault
  | passed time => exact moved_pass time
  | drained wait => exact moved_drain wait

/-! ## 5. Ends by force -/

theorem moved_abort : Moved true s j (s.abort j) := by
  unfold abort
  split
  · rename_i reads
    exact moved_breakOff (congrArg _ reads)
  · rename_i drains
    exact moved_breakOff (congrArg _ drains)
  · rename_i stuck
    exact moved_breakOff (congrArg _ stuck)
  · rename_i greets
    exact ⟨greets ▸ .drops, rfl⟩
  · rename_i stuck
    exact ⟨stuck ▸ .forgets rfl, rfl⟩
  · exact moved_self

theorem ended_abort (s : Session) (j : Journal) : (s.abort j).1.phase = .ended := by
  unfold abort
  split
  · rfl
  · rfl
  · rfl
  · rfl
  · rfl
  · assumption

/-- What is still in the middle of a message gives what it has before it is ended. -/
theorem moved_quit : Moved true s j (Streams.quit ctx s j) := by
  unfold Streams.quit
  cases phase : s.phase with
  | draining left =>
    have opened : s.phase.standing = .opened := congrArg _ phase
    have flushed : Moved true s j (s.flush ctx j) := moved_flush opened rfl
    have aborted : Moved true (s.flush ctx j).1 (s.flush ctx j).2 _ := moved_abort
    have first := flushed.moves
    rw [opened] at first
    refine ⟨?_, aborted.info.trans flushed.info⟩
    rw [opened]
    exact first.trans_opened aborted.moves
  | greeting | reading | stuckOpening | stuck | ended => exact moved_abort

theorem ended_quit (s : Session) (j : Journal) : (Streams.quit ctx s j).1.phase = .ended :=
  ended_abort _ _

end Session

end Syslog

import Mathlib.Algebra.Ring.Nat
import Syslog.Server.Session

/-!
# What is added to a journal

A journal only grows, and what one piece of work adds to it is a journal of its own. Sessions add
openings and closings, what their streams have brought, and calls.

* `Journal.told`: what a session adds, which depends on the messages and on how the calls ended;
* `callAll_told`, `deliverAll_told`: every handler is called, whatever the calls before have done;
* `openUp_told`, `close_told`, `flush_told`: what a session adds when it opens and when it ends.
-/

namespace Syslog

/-! ## 1. Journals that grow -/

/-- What was counted at first, and what was counted then. -/
instance : Add ServerCounts where
  add a b :=
    { opened := a.opened + b.opened
      closed := a.closed + b.closed
      rejected := a.rejected + b.rejected
      frames := a.frames + b.frames
      bytes := a.bytes + b.bytes
      oversized := a.oversized + b.oversized
      handlerErrors := a.handlerErrors + b.handlerErrors
      errors := a.errors + b.errors }

/-- A journal that goes on with another. -/
instance : Append Journal where
  append j more := { counts := j.counts + more.counts, calls := j.calls ++ more.calls }

theorem ServerCounts.add_assoc (a b c : ServerCounts) : a + b + c = a + (b + c) := by
  show ServerCounts.mk _ _ _ _ _ _ _ _ = ServerCounts.mk _ _ _ _ _ _ _ _
  congr 1 <;> exact Nat.add_assoc ..

theorem ServerCounts.add_left_cancel {a b c : ServerCounts} (same : a + b = a + c) : b = c := by
  have fields := ServerCounts.mk.inj same
  obtain ⟨opened, closed, rejected, frames, bytes, oversized, handlerErrors, errors⟩ := fields
  cases b
  cases c
  congr 1 <;> exact Nat.add_left_cancel ‹_›

namespace Journal

theorem append_assoc (j more rest : Journal) : j ++ more ++ rest = j ++ (more ++ rest) := by
  show Journal.mk (j.counts + more.counts + rest.counts) (j.calls ++ more.calls ++ rest.calls) = _
  rw [ServerCounts.add_assoc, List.append_assoc]
  rfl

/-- What was added is known from the journals before and after. -/
theorem append_left_cancel {j more more' : Journal} (same : j ++ more = j ++ more') :
    more = more' := by
  obtain ⟨counts, calls⟩ := Journal.mk.inj same
  show Journal.mk more.counts more.calls = Journal.mk more'.counts more'.calls
  rw [ServerCounts.add_left_cancel counts, List.append_cancel_left calls]

end Journal

/-! ## 2. What sessions add -/

/-- A message for the handlers. -/
def Frame.message? : Frame → Option Bytes
  | .line bytes => if bytes.isEmpty then none else some bytes
  | .tooLong _ => none

/-- Is it a message over the limit? -/
def Frame.isTooLong : Frame → Bool
  | .line _ => false
  | .tooLong _ => true

namespace CallRecord

/-- Was a failure of the call counted? -/
def isCounted (r : CallRecord) : Bool := Journal.fails r.conduct r.call

/-- Has the call reported a failure of an event? -/
def isFailedEvent (r : CallRecord) : Bool :=
  match r.call with
  | .event .. => r.conduct == .fails
  | _ => false

/-- Has the call panicked? -/
def isPanic (r : CallRecord) : Bool := r.conduct == .panics

/-- Failures of events are counted, and panics of all calls. -/
theorem countP_isCounted (records : List CallRecord) :
    records.countP isCounted = records.countP isFailedEvent + records.countP isPanic := by
  induction records with
  | nil => rfl
  | cons r rest ih =>
    have one : (if r.isCounted then 1 else 0) =
        (if r.isFailedEvent then 1 else 0) + if r.isPanic then 1 else 0 := by
      obtain ⟨handler, call, conduct⟩ := r
      cases call <;> cases conduct <;> rfl
    rw [List.countP_cons, List.countP_cons, List.countP_cons, ih, one]
    omega

/-- Which handler was called, and for what. -/
def made (r : CallRecord) : String × Call := (r.handler, r.call)

end CallRecord

/-- The calls of all handlers for one thing, in their order. -/
def SessionContext.callsOf (ctx : SessionContext) (c : Call) : List (String × Call) :=
  ctx.handlers.map fun h => (h.name, c)

/-- The calls for what a stream has brought: every message is given to each handler. -/
def SessionContext.callsFor (ctx : SessionContext) (info : SessionInfo) (frames : List Frame) :
    List (String × Call) :=
  (frames.filterMap Frame.message?).flatMap fun line =>
    ctx.callsOf (.event info (Event.ofBytes ctx.charset line))

theorem SessionContext.callsFor_append (ctx : SessionContext) (info : SessionInfo)
    (frames more : List Frame) :
    ctx.callsFor info (frames ++ more) = ctx.callsFor info frames ++ ctx.callsFor info more := by
  unfold callsFor
  rw [List.filterMap_append, List.flatMap_append]

namespace Journal

/-- What sessions add to a journal: so many openings and closings, what streams have brought, and
calls. -/
def told (opened closed : Nat) (frames : List Frame) (records : List CallRecord) : Journal where
  counts :=
    { opened
      closed
      frames := (frames.filterMap Frame.message?).length
      bytes := ((frames.filterMap Frame.message?).map List.length).sum
      oversized := frames.countP Frame.isTooLong
      handlerErrors := records.countP CallRecord.isCounted }
  calls := records

theorem told_append (opened closed opened' closed' : Nat) (frames frames' : List Frame)
    (records records' : List CallRecord) :
    told opened closed frames records ++ told opened' closed' frames' records' =
      told (opened + opened') (closed + closed') (frames ++ frames') (records ++ records') := by
  unfold told
  rw [List.filterMap_append, List.length_append, List.map_append, List.sum_append_nat,
    List.countP_append, List.countP_append]
  rfl

/-- Nothing was added. -/
theorem append_told_nil (j : Journal) : j ++ told 0 0 [] [] = j :=
  congrArg (Journal.mk j.counts) (List.append_nil j.calls)

theorem noteOpened_eq (j : Journal) : j.noteOpened = j ++ told 1 0 [] [] :=
  congrArg (Journal.mk _) (List.append_nil j.calls).symm

theorem noteClosed_eq (j : Journal) : j.noteClosed = j ++ told 0 1 [] [] :=
  congrArg (Journal.mk _) (List.append_nil j.calls).symm

theorem noteOversized_eq (j : Journal) (size : Nat) :
    j.noteOversized = j ++ told 0 0 [.tooLong size] [] :=
  congrArg (Journal.mk _) (List.append_nil j.calls).symm

theorem noteFrame_eq (j : Journal) {line : Bytes} (nonempty : line.isEmpty = false) :
    j.noteFrame line.length = j ++ told 0 0 [.line line] [] := by
  have message : [Frame.line line].filterMap Frame.message? = [line] := by
    simp [Frame.message?, nonempty]
  unfold told
  rw [message]
  exact congrArg (Journal.mk _) (List.append_nil j.calls).symm

/-- An empty message is not given to anybody. -/
theorem told_empty {line : Bytes} (empty : line.isEmpty = true) :
    told 0 0 [.line line] [] = told 0 0 [] [] := by
  have message : [Frame.line line].filterMap Frame.message? = [] := by
    simp [Frame.message?, empty]
  unfold told
  rw [message]
  rfl

theorem call_told (j : Journal) (h : EventHandler) (c : Call) :
    j.call h c = (h.conduct j.calls c != .hangs,
      j ++ told 0 0 [] [⟨h.name, c, h.conduct j.calls c⟩]) := by
  unfold call
  generalize h.conduct j.calls c = conduct
  refine congrArg (Prod.mk _) ?_
  cases counted : fails conduct c with
  | true =>
    have one : [(⟨h.name, c, conduct⟩ : CallRecord)].countP CallRecord.isCounted = 1 := by
      rw [List.countP_singleton, CallRecord.isCounted, counted, if_pos rfl]
    unfold told
    rw [one]
    rfl
  | false =>
    have none_counted : [(⟨h.name, c, conduct⟩ : CallRecord)].countP CallRecord.isCounted = 0 := by
      rw [List.countP_singleton, CallRecord.isCounted, counted, if_neg Bool.false_ne_true]
    unfold told
    rw [none_counted]
    rfl

end Journal

/-! ## 3. Every handler is called -/

/-- All calls of the handlers come to an end. -/
def Returning (handlers : List EventHandler) : Prop :=
  ∀ h ∈ handlers, ∀ calls c, h.conduct calls c ≠ .hangs

/-- **Each handler is called once, in its turn**, whatever the calls before have done. -/
theorem Journal.callAll_told {handlers : List EventHandler} (returning : Returning handlers)
    (j : Journal) (c : Call) :
    ∃ records, records.map CallRecord.made = handlers.map (fun h => (h.name, c)) ∧
      j.callAll c handlers = (true, j ++ told 0 0 [] records) := by
  induction handlers generalizing j with
  | nil => exact ⟨[], rfl, congrArg (Prod.mk true) j.append_told_nil.symm⟩
  | cons h rest ih =>
    have ends : (h.conduct j.calls c != .hangs) = true :=
      bne_iff_ne.2 (returning h List.mem_cons_self j.calls c)
    have called := j.call_told h c
    rw [ends] at called
    obtain ⟨records, made, all⟩ :=
      ih (fun h' member => returning h' (List.mem_cons_of_mem h member))
        (j ++ told 0 0 [] [⟨h.name, c, h.conduct j.calls c⟩])
    refine ⟨⟨h.name, c, h.conduct j.calls c⟩ :: records, congrArg (List.cons (h.name, c)) made, ?_⟩
    simp only [callAll, called, if_true]
    rw [all, append_assoc, told_append]
    rfl

variable {ctx : SessionContext}

namespace SessionContext

/-- A message is given to each handler, unless it is empty. -/
theorem deliver_told (returning : Returning ctx.handlers) (info : SessionInfo) (line : Bytes)
    (j : Journal) :
    ∃ records, records.map CallRecord.made = ctx.callsFor info [.line line] ∧
      ctx.deliver info line j = (true, j ++ .told 0 0 [.line line] records) := by
  unfold deliver
  cases empty : line.isEmpty with
  | true =>
    refine ⟨[], by simp [callsFor, Frame.message?, empty], ?_⟩
    rw [if_pos rfl, Journal.told_empty empty, j.append_told_nil]
  | false =>
    obtain ⟨records, made, all⟩ := (j.noteFrame line.length).callAll_told returning
      (.event info (Event.ofBytes ctx.charset line))
    refine ⟨records, made.trans ?_, ?_⟩
    · simp [callsFor, callsOf, Frame.message?, empty]
    · rw [if_neg Bool.false_ne_true, all, j.noteFrame_eq empty, Journal.append_assoc,
        Journal.told_append]
      rfl

/-- **All messages are given to the handlers**, one after the other. -/
theorem deliverAll_told (returning : Returning ctx.handlers) (info : SessionInfo)
    (frames : List Frame) (j : Journal) :
    ∃ records, records.map CallRecord.made = ctx.callsFor info frames ∧
      ctx.deliverAll info frames j = (true, j ++ .told 0 0 frames records) := by
  induction frames generalizing j with
  | nil => exact ⟨[], rfl, congrArg (Prod.mk true) j.append_told_nil.symm⟩
  | cons frame rest ih =>
    cases frame with
    | tooLong size =>
      obtain ⟨records, made, all⟩ := ih j.noteOversized
      refine ⟨records, made, ?_⟩
      rw [deliverAll, all, j.noteOversized_eq size, Journal.append_assoc, Journal.told_append]
      rfl
    | line line =>
      obtain ⟨records, made, first⟩ := deliver_told returning info line j
      obtain ⟨records', made', all⟩ := ih (j ++ .told 0 0 [.line line] records)
      refine ⟨records ++ records', ?_, ?_⟩
      · rw [List.map_append, made, made', ← callsFor_append]
        rfl
      · simp only [deliverAll, first, if_true]
        rw [all, Journal.append_assoc, Journal.told_append]
        rfl

end SessionContext

/-! ## 4. The ends of a session -/

namespace Session

/-- A session that opens is counted, and each handler is told. -/
theorem openUp_told (returning : Returning ctx.handlers) (s : Session) (j : Journal) :
    ∃ records, records.map CallRecord.made = ctx.callsOf (.opened s.info) ∧
      s.openUp ctx j =
        ({ s with phase := .reading, silent := .zero }, j ++ .told 1 0 [] records) := by
  obtain ⟨records, made, all⟩ := j.noteOpened.callAll_told returning (.opened s.info)
  refine ⟨records, made, ?_⟩
  unfold openUp
  rw [all, j.noteOpened_eq, Journal.append_assoc, Journal.told_append]
  rfl

/-- Each handler is told that the session is over, and it is counted. -/
theorem close_told (returning : Returning ctx.handlers) (s : Session) (j : Journal) :
    ∃ records, records.map CallRecord.made = ctx.callsOf (.closed s.info) ∧
      s.close ctx j = ({ s with phase := .ended }, j ++ .told 0 1 [] records) := by
  obtain ⟨records, made, all⟩ := j.callAll_told returning (.closed s.info)
  refine ⟨records, made, ?_⟩
  unfold close
  rw [all]
  show ({ s with phase := .ended }, _) = _
  rw [Journal.noteClosed_eq, Journal.append_assoc, Journal.told_append, List.append_nil records]
  rfl

/-- **What is left is given to the handlers, and the session closed.** -/
theorem flush_told (returning : Returning ctx.handlers) (s : Session) (j : Journal) :
    ∃ records,
      records.map CallRecord.made =
        ctx.callsFor s.info s.decoder.finishAll ++ ctx.callsOf (.closed s.info) ∧
      s.flush ctx j = ({ s with phase := .ended }, j ++ .told 0 1 s.decoder.finishAll records) := by
  obtain ⟨records, made, given⟩ := ctx.deliverAll_told returning s.info s.decoder.finishAll j
  obtain ⟨records', made', closed⟩ :=
    s.close_told returning (j ++ .told 0 0 s.decoder.finishAll records)
  refine ⟨records ++ records', ?_, ?_⟩
  · rw [List.map_append, made, made']
  · unfold flush
    rw [given]
    show s.close ctx _ = _
    rw [closed, Journal.append_assoc, Journal.told_append, List.append_nil]

end Session

end Syslog

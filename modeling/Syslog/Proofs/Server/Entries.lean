import Syslog.Proofs.Server.Calls
import Syslog.Proofs.Server.Streams
import Syslog.Server.Datagrams

/-!
# What calls are about

Calls are only ever added to a journal. A session adds calls about itself, a server of streams adds
calls about sessions that it has, and a server of datagrams adds calls about its one session, in the
name of one peer or another.

* `Journal.Adds`: journals that go on by calls of one kind;
* `Session.adds_act`, `Session.adds_quit`: what a session adds;
* `Streams.adds_perform`: what a server of streams adds;
* `Datagrams.Speaks`: what a server of datagrams adds.
-/

namespace Syslog

/-! ## 1. Journals that go on -/

namespace Journal

/-- The journal goes on by calls of one kind. -/
def Adds (kind : Call → Prop) (j j' : Journal) : Prop :=
  ∃ more, j'.calls = j.calls ++ more ∧ ∀ r ∈ more, kind r.call

variable {kind kind' : Call → Prop} {j j' j'' : Journal}

theorem adds_of_calls (same : j'.calls = j.calls) : Adds kind j j' :=
  ⟨[], same.trans (List.append_nil _).symm, fun _ member => nomatch member⟩

theorem Adds.refl (j : Journal) : Adds kind j j := adds_of_calls rfl

theorem Adds.trans (first : Adds kind j j') (second : Adds kind j' j'') : Adds kind j j'' := by
  obtain ⟨more, eq, all⟩ := first
  obtain ⟨rest, eq', all'⟩ := second
  refine ⟨more ++ rest, by rw [eq', eq, List.append_assoc], fun r member => ?_⟩
  rcases List.mem_append.1 member with early | late
  · exact all r early
  · exact all' r late

theorem Adds.mono (adds : Adds kind j j') (wider : ∀ c, kind c → kind' c) : Adds kind' j j' := by
  obtain ⟨more, eq, all⟩ := adds
  exact ⟨more, eq, fun r member => wider _ (all r member)⟩

/-- What has been added since. -/
theorem Adds.of_mem_drop (adds : Adds kind j j') {r : CallRecord}
    (member : r ∈ j'.calls.drop j.calls.length) : kind r.call := by
  obtain ⟨more, eq, all⟩ := adds
  rw [eq, List.drop_left] at member
  exact all r member

/-- A call that ends is followed by the calls of the others, one that does not end by none. -/
theorem callAll_cons (j : Journal) (c : Call) (h : EventHandler) (rest : List EventHandler) :
    j.callAll c (h :: rest) =
      if (j.call h c).1 then (j.call h c).2.callAll c rest else (false, (j.call h c).2) := rfl

theorem calls_call (j : Journal) (h : EventHandler) (c : Call) :
    (j.call h c).2.calls = j.calls ++ [⟨h.name, c, h.conduct j.calls c⟩] := by
  unfold call
  dsimp only
  split <;> rfl

/-- **Calls for one thing are of its kind.** -/
theorem adds_callAll {c : Call} (is : kind c) (j : Journal) (handlers : List EventHandler) :
    Adds kind j (j.callAll c handlers).2 := by
  induction handlers generalizing j with
  | nil => exact .refl j
  | cons h rest ih =>
    have first : Adds kind j (j.call h c).2 :=
      ⟨_, j.calls_call h c, fun r member => List.mem_singleton.1 member ▸ is⟩
    rw [callAll_cons]
    split
    · exact first.trans (ih _)
    · exact first

end Journal

open Journal (Adds)

/-- The calls about a session. -/
def SessionInfo.Concerned (info : SessionInfo) (c : Call) : Prop := c.session? = some info

theorem SessionInfo.adds_callAll {info : SessionInfo} {c : Call} (about : c.session? = some info)
    (j : Journal) (handlers : List EventHandler) :
    Adds info.Concerned j (j.callAll c handlers).2 := Journal.adds_callAll about j handlers

/-! ## 2. Sessions -/

variable {ctx : SessionContext} {j : Journal}

namespace SessionContext

theorem adds_deliver (ctx : SessionContext) (info : SessionInfo) (line : Bytes) (j : Journal) :
    Adds info.Concerned j (ctx.deliver info line j).2 := by
  unfold deliver
  split
  · exact .refl j
  · exact (Journal.adds_of_calls rfl).trans (info.adds_callAll rfl _ _)

theorem adds_deliverAll (ctx : SessionContext) (info : SessionInfo) (frames : List Frame)
    (j : Journal) : Adds info.Concerned j (ctx.deliverAll info frames j).2 := by
  induction frames generalizing j with
  | nil => exact .refl j
  | cons frame rest ih =>
    cases frame with
    | tooLong size => exact (Journal.adds_of_calls rfl).trans (ih j.noteOversized)
    | line line =>
      have first := ctx.adds_deliver info line j
      unfold deliverAll
      dsimp only
      split
      · exact first.trans (ih _)
      · exact first

end SessionContext

namespace Session

variable {s : Session}

theorem adds_openUp : Adds s.info.Concerned j (s.openUp ctx j).2 :=
  (Journal.adds_of_calls rfl).trans (s.info.adds_callAll rfl j.noteOpened ctx.handlers)

theorem adds_close : Adds s.info.Concerned j (s.close ctx j).2 := by
  have called : Adds s.info.Concerned j (j.callAll (.closed s.info) ctx.handlers).2 :=
    s.info.adds_callAll rfl j ctx.handlers
  unfold close
  dsimp only
  split
  · exact called.trans (Journal.adds_of_calls rfl)
  · exact called

theorem adds_flush : Adds s.info.Concerned j (s.flush ctx j).2 := by
  have delivered := ctx.adds_deliverAll s.info s.decoder.finishAll j
  unfold flush
  dsimp only
  split
  · exact delivered.trans adds_close
  · exact delivered

theorem adds_drain (wait : Time.Duration) : Adds s.info.Concerned j (s.drain ctx wait j).2 := by
  unfold drain
  split
  · split
    · exact Journal.adds_of_calls rfl
    · split
      · exact adds_flush
      · exact .refl j
  · exact .refl j

theorem adds_feed (bytes : Bytes) : Adds s.info.Concerned j (s.feed ctx bytes j).2 := by
  unfold feed
  split
  · exact ctx.adds_deliverAll s.info _ j
  · unfold readLast
    obtain ⟨frames, dry, decoder⟩ := (s.decoder.feed bytes).allUntilDry
    have delivered := ctx.adds_deliverAll s.info frames j
    dsimp only
    split
    · exact delivered
    · split
      · exact delivered.trans (adds_flush (s := { s with decoder }))
      · exact delivered
  · exact .refl j

theorem adds_finish : Adds s.info.Concerned j (s.finish ctx j).2 := by
  unfold finish
  split
  · exact adds_flush
  · exact adds_flush
  · exact .refl j

theorem adds_fail (fault : LinkFault) : Adds s.info.Concerned j (s.fail ctx fault j).2 := by
  unfold fail
  split
  · refine Journal.Adds.trans (Journal.adds_of_calls ?_) adds_close
    split <;> rfl
  · exact adds_flush
  · exact .refl j

theorem adds_pass (time : Time.Duration) : Adds s.info.Concerned j (s.pass ctx time j).2 := by
  unfold pass
  split
  · dsimp only
    split
    · exact Journal.adds_of_calls rfl
    · exact .refl j
  · dsimp only
    split
    · split
      · exact adds_close (s := { s with silent := ⟨s.silent.nanoseconds + time.nanoseconds⟩ })
      · exact .refl j
    · exact .refl j
  · split
    · exact adds_flush
    · exact .refl j
  · exact .refl j

/-- **Whatever happens to a session, the calls are about it.** -/
theorem adds_act (h : Happening) (s : Session) (j : Journal) :
    Adds s.info.Concerned j (h.act ctx s j).2 := by
  cases h with
  | secured =>
    show Adds _ j (Streams.secured ctx s j).2
    unfold Streams.secured
    split
    · exact adds_openUp
    · exact .refl j
  | unsecured =>
    show Adds _ j (Streams.unsecured s j).2
    unfold Streams.unsecured
    split
    · exact Journal.adds_of_calls rfl
    · exact .refl j
  | fed bytes => exact adds_feed bytes
  | finished => exact adds_finish
  | failed fault => exact adds_fail fault
  | passed time => exact adds_pass time
  | drained wait => exact adds_drain wait

theorem adds_quit (s : Session) (j : Journal) :
    Adds s.info.Concerned j (Streams.quit ctx s j).2 := by
  have aborted : ∀ (s' : Session) (j : Journal), Adds s.info.Concerned j (s'.abort j).2 := by
    intro s' j
    refine Journal.adds_of_calls ?_
    unfold abort
    split <;> rfl
  unfold Streams.quit
  cases s.phase with
  | draining left => exact adds_flush.trans (aborted _ _)
  | greeting | reading | stuckOpening | stuck | ended => exact aborted _ _

end Session

/-! ## 3. Streams -/

namespace Streams

variable {s : Streams}

/-- The calls about sessions that connections have got. -/
def Concerned (seats : List (Nat × SessionInfo)) (c : Call) : Prop :=
  ∃ seat ∈ seats, seat.2.Concerned c

theorem Concerned.mono {seats seats' : List (Nat × SessionInfo)} (fewer : seats ⊆ seats') (c : Call)
    (concerned : Concerned seats c) : Concerned seats' c := by
  obtain ⟨seat, member, about⟩ := concerned
  exact ⟨seat, fewer member, about⟩

theorem adds_actEach {act : SessionAct}
    (adds : ∀ s j, Adds s.info.Concerned j (act s j).2) (who : Nat → Bool)
    (sessions : List (Nat × Session)) (j : Journal) :
    Adds (Concerned (seats sessions)) j (actEach who act sessions j).2 := by
  induction sessions generalizing j with
  | nil => exact .refl j
  | cons entry rest ih =>
    obtain ⟨c, session⟩ := entry
    have first : Adds session.info.Concerned j
        (if who c then act session j else (session, j)).2 := by
      split
      · exact adds session j
      · exact .refl j
    have own : Adds (Concerned (seats ((c, session) :: rest))) j _ :=
      first.mono fun _ about => ⟨(c, session.info), List.mem_cons_self, about⟩
    exact own.trans ((ih _).mono (Concerned.mono (List.subset_cons_self _ _)))

/-- A connection that is admitted has the session that opens. -/
theorem adds_seat (ctx : SessionContext) (s : Streams) (a : Arrival) (j : Journal) :
    Adds (Concerned (seats (seat ctx s a j).1.sessions)) j (seat ctx s a j).2 := by
  unfold seat
  dsimp only
  split
  · exact .refl j
  · refine Session.adds_openUp.mono fun _ about => ⟨(a.connection, _), ?_, about⟩
    rw [seats_append]
    exact List.mem_append_right _ (List.mem_singleton_self _)

/-- **Whatever happens to a server of streams, the calls are about sessions that it has.** -/
theorem adds_perform (ctx : SessionContext) (s : Streams) (j : Journal) (happening : Happening) :
    Adds (Concerned (seats (perform ctx s j happening).2.1.sessions)) j
      (perform ctx s j happening).2.2 := by
  cases happening with
  | arrives a => exact .refl j
  | accepts =>
    show Adds (Concerned (seats (acceptNext ctx s j).2.1.sessions)) j (acceptNext ctx s j).2.2
    unfold acceptNext
    split
    · exact .refl j
    · split
      · exact .refl j
      · exact adds_seat ctx _ _ j
      · exact Journal.adds_of_calls rfl
  | fails =>
    refine Journal.adds_of_calls ?_
    show (s.fail j).2.calls = j.calls
    unfold fail
    split <;> rfl
  | waits time => exact .refl j
  | acts who h =>
    have moved : ∀ session j, Session.Moved false session j (h.act ctx session j) :=
      fun session j => Session.moved_act h session j
    show Adds (Concerned (seats (actEach who (h.act ctx) s.sessions j).1)) j _
    rw [seats_actEach moved]
    exact adds_actEach (Session.adds_act h) who s.sessions j
  | collects => exact .refl j
  | stops => exact .refl j
  | quits who =>
    rcases perform_quits ctx s j who with ⟨-, eq⟩ | ⟨-, eq⟩
    · have moved : ∀ session j, Session.Moved true session j (quit ctx session j) :=
        fun _ _ => Session.moved_quit
      rw [eq]
      show Adds (Concerned (seats (actEach who (quit ctx) s.sessions j).1)) j _
      rw [seats_actEach moved]
      exact adds_actEach Session.adds_quit who s.sessions j
    · rw [eq]
      exact .refl j

end Streams

/-! ## 4. Datagrams -/

namespace Datagrams

variable {d d' : Datagrams}

/-- The calls about a session in the name of a peer. -/
def Concerned (info : SessionInfo) (c : Call) : Prop :=
  ∃ peer, ({ info with peer } : SessionInfo).Concerned c

/-- The loop goes on with its session, and the calls are about it. -/
structure Speaks (d : Datagrams) (j : Journal) (after : Datagrams × Journal) : Prop where
  info : after.1.info = d.info
  adds : Adds (Concerned d.info) j after.2

theorem Speaks.refl (d : Datagrams) (j : Journal) : Speaks d j (d, j) := ⟨rfl, .refl j⟩

theorem Speaks.trans {j' : Journal} {after : Datagrams × Journal} (first : Speaks d j (d', j'))
    (second : Speaks d' j' after) : Speaks d j after :=
  ⟨second.info.trans first.info, first.adds.trans (first.info ▸ second.adds)⟩

theorem Speaks.of_info {after : Datagrams × Journal} (speaks : Speaks d' j after)
    (same : d'.info = d.info) : Speaks d j after :=
  ⟨speaks.info.trans same, same ▸ speaks.adds⟩

theorem speaks_settle (ctx : SessionContext) (d : Datagrams) (j : Journal) :
    Speaks d j (d.settle ctx j) := by
  unfold settle
  split
  · exact ⟨rfl, (Journal.adds_of_calls rfl).trans
      (Journal.adds_callAll ⟨d.info.peer, rfl⟩ j.noteOpened ctx.handlers)⟩
  · exact .refl d j

theorem adds_deliverEach (ctx : SessionContext) (info : SessionInfo)
    (messages : List (String × Bytes)) (j : Journal) :
    Adds (Concerned info) j (deliverEach ctx info messages j).2 := by
  induction messages generalizing j with
  | nil => exact .refl j
  | cons message rest ih =>
    obtain ⟨peer, message⟩ := message
    have first : Adds (Concerned info) j
        (ctx.deliver { info with peer } message.dropEnd j).2 :=
      (ctx.adds_deliver { info with peer } message.dropEnd j).mono fun _ about => ⟨peer, about⟩
    unfold deliverEach
    dsimp only
    split
    · exact first.trans (ih _)
    · exact first

theorem speaks_give (ctx : SessionContext) (messages : List (String × Bytes)) (d : Datagrams)
    (j : Journal) : Speaks d j (d.give ctx messages j) := by
  refine ⟨?_, adds_deliverEach ctx d.info messages j⟩
  show (if _ then d else { d with phase := .stuck }).info = d.info
  split <;> rfl

theorem speaks_receive (ctx : SessionContext) (peer : String) (datagram : Bytes) (d : Datagrams)
    (j : Journal) : Speaks d j (d.receive ctx peer datagram j) := by
  unfold receive
  split
  · dsimp only
    split <;> exact (speaks_give ctx _ _ j).of_info rfl
  · exact .refl d j

theorem speaks_fail (fault : LinkFault) (d : Datagrams) (j : Journal) :
    Speaks d j (d.fail fault j) := by
  unfold fail
  split
  · exact ⟨rfl, Journal.adds_of_calls rfl⟩
  · exact .refl d j

theorem speaks_pass (ctx : SessionContext) (time : Time.Duration) (d : Datagrams) (j : Journal) :
    Speaks d j (d.pass ctx time j) := by
  unfold pass
  dsimp only
  split
  · split
    · exact (speaks_give ctx _ _ j).of_info rfl
    · exact ⟨rfl, .refl j⟩
  · exact ⟨rfl, .refl j⟩

theorem speaks_close (ctx : SessionContext) (d : Datagrams) (j : Journal) :
    Speaks d j (d.close ctx j) := by
  have called : Adds (Concerned d.info) j (j.callAll (.closed d.info) ctx.handlers).2 :=
    Journal.adds_callAll ⟨d.info.peer, rfl⟩ j ctx.handlers
  unfold close
  dsimp only
  split
  · exact ⟨rfl, called.trans (Journal.adds_of_calls rfl)⟩
  · exact ⟨rfl, called⟩

/-- **The loop for datagrams ends with calls about its session.** -/
theorem speaks_finish (ctx : SessionContext) (d : Datagrams) (j : Journal) :
    Speaks d j (d.finish ctx j) := by
  have begun := speaks_settle ctx d j
  have ends : ∀ (pending : List (String × Bytes)) (d' : Datagrams) (j' : Journal),
      Speaks d j (d', j') → Speaks d j (if (d'.give ctx pending j').1.phase = .reading then
        (d'.give ctx pending j').1.close ctx (d'.give ctx pending j').2
      else d'.give ctx pending j') := by
    intro pending d' j' before
    have given := before.trans (speaks_give ctx pending d' j')
    split
    · exact given.trans (speaks_close ctx _ _)
    · exact given
  unfold finish
  dsimp only
  split
  · exact ends _ _ _ ⟨begun.info, begun.adds⟩
  · exact begun

end Datagrams

end Syslog

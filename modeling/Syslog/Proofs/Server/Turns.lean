import Syslog.Proofs.Server.Entries

/-!
# Calls for starts and stops

Handlers are told that the server starts and that it has stopped. Nothing that happens to sessions,
streams or datagrams tells them so.

* `Journal.turns`: these calls, in their order;
* `turns_callAll`: every handler is told once, if such calls come to an end;
* `Streams.Reaches.turns`, `Datagrams.Speaks.turns`: streams and datagrams make no such call;
* `Datagrams.Flowing`, `ended_finish`: the loop for datagrams comes to its end, if the calls that it
  makes do.
-/

namespace Syslog

/-! ## 1. Turns of a journal -/

/-- Is the call for a start or a stop? -/
def Call.isTurn : Call → Bool
  | .started _ | .stopped _ => true
  | _ => false

/-- The calls for one thing come to an end. -/
def Ending (handlers : List EventHandler) (c : Call) : Prop :=
  ∀ h ∈ handlers, ∀ calls, h.conduct calls c ≠ .hangs

/-- The handlers return when a session opens and when it closes. -/
structure Hosting (handlers : List EventHandler) : Prop where
  opened : ∀ info, Ending handlers (.opened info)
  closed : ∀ info, Ending handlers (.closed info)

/-- The handlers return from every event. -/
def Taking (handlers : List EventHandler) : Prop :=
  ∀ info event, Ending handlers (.event info event)

namespace Journal

/-- The calls for starts and stops, each with the handler that was called. -/
def turns (j : Journal) : List (String × Call) :=
  (j.calls.map CallRecord.made).filter (·.2.isTurn)

theorem turns_call (j : Journal) (h : EventHandler) (c : Call) :
    (j.call h c).2.turns = j.turns ++ if c.isTurn then [(h.name, c)] else [] := by
  have added : [(h.name, c)].filter (·.2.isTurn) = if c.isTurn then [(h.name, c)] else [] := by
    rw [List.filter_cons, List.filter_nil]
  rw [turns, calls_call, List.map_append, List.filter_append, ← added]
  rfl

/-- Calls that are for nothing of the kind leave the turns as they are. -/
theorem Adds.turns {kind : Call → Prop} {j j' : Journal} (adds : Adds kind j j')
    (other : ∀ c, kind c → c.isTurn = false) : j'.turns = j.turns := by
  obtain ⟨more, eq, all⟩ := adds
  have none_made : (more.map CallRecord.made).filter (·.2.isTurn) = [] := by
    refine List.filter_eq_nil_iff.2 fun made member => ?_
    obtain ⟨r, inside, rfl⟩ := List.mem_map.1 member
    exact Bool.eq_false_iff.1 (other r.call (all r inside))
  rw [Journal.turns, eq, List.map_append, List.filter_append, none_made, List.append_nil]
  rfl

/-- Calls that come to an end are made of all handlers. -/
theorem callAll_ended {handlers : List EventHandler} {c : Call} (ending : Ending handlers c)
    (j : Journal) : (j.callAll c handlers).1 = true := by
  induction handlers generalizing j with
  | nil => rfl
  | cons h rest ih =>
    have ended : (j.call h c).1 = true := bne_iff_ne.2 (ending h List.mem_cons_self j.calls)
    rw [callAll_cons, if_pos ended]
    exact ih (fun other member => ending other (List.mem_cons_of_mem h member)) _

/-- **Every handler is told once of a start or a stop**, if such calls come to an end. -/
theorem turns_callAll {handlers : List EventHandler} {c : Call} (turn : c.isTurn = true)
    (ending : Ending handlers c) (j : Journal) :
    (j.callAll c handlers).2.turns = j.turns ++ handlers.map fun h => (h.name, c) := by
  induction handlers generalizing j with
  | nil => exact (List.append_nil _).symm
  | cons h rest ih =>
    have ended : (j.call h c).1 = true := bne_iff_ne.2 (ending h List.mem_cons_self j.calls)
    have first := j.turns_call h c
    rw [if_pos turn] at first
    rw [callAll_cons, if_pos ended,
      ih fun other member => ending other (List.mem_cons_of_mem h member), first, List.append_assoc]
    rfl

end Journal

/-- A call about a session is no start or stop. -/
theorem SessionInfo.Concerned.isTurn {info : SessionInfo} {c : Call} (about : info.Concerned c) :
    c.isTurn = false := by
  cases c with
  | opened _ | event _ _ | closed _ => rfl
  | started _ | stopped _ => cases about

variable {ctx : SessionContext} {j : Journal}

/-! ## 2. Streams -/

namespace Streams

variable {s : Streams}

theorem turns_of_adds {seats : List (Nat × SessionInfo)} {j' : Journal}
    (adds : Journal.Adds (Concerned seats) j j') : j'.turns = j.turns := by
  refine adds.turns fun c concerned => ?_
  obtain ⟨seat, -, about⟩ := concerned
  exact about.isTurn

/-- **No run of a server of streams is told as a start or a stop.** -/
theorem Reaches.turns {after : Streams × Journal} (reaches : Reaches s j after) :
    after.2.turns = j.turns := by
  obtain ⟨run, rfl⟩ := reaches
  induction run generalizing s j with
  | nil => rfl
  | cons first rest ih =>
    obtain ⟨ctx, happening⟩ := first
    exact ih.trans (turns_of_adds (adds_perform ctx s j happening))

end Streams

/-! ## 3. Datagrams -/

namespace Datagrams

variable {d : Datagrams}

/-- **What a server of datagrams says is no start or stop.** -/
theorem Speaks.turns {after : Datagrams × Journal} (speaks : Speaks d j after) :
    after.2.turns = j.turns := by
  refine speaks.adds.turns fun c concerned => ?_
  obtain ⟨peer, about⟩ := concerned
  exact about.isTurn

/-- No part of a message waits for the rest. -/
def Clear (d : Datagrams) : Prop := ∀ joiner, d.joiner = some joiner → joiner.pending = []

/-- No call keeps the loop from its end. -/
structure Flowing (handlers : List EventHandler) (d : Datagrams) : Prop where
  phase : d.phase = .greeting ∨ d.phase = .reading
  /-- The end gives what waits to the handlers. -/
  free : Taking handlers ∨ d.Clear

/-- The loop flows on, or has ended before. -/
structure Flows (handlers : List EventHandler) (d d' : Datagrams) : Prop where
  flowing : d.Flowing handlers → d'.Flowing handlers
  ended : d.phase = .ended → d'.phase = .ended

section Flows

variable {handlers : List EventHandler} {d' d'' : Datagrams}

theorem Flows.refl (d : Datagrams) : Flows handlers d d := ⟨id, id⟩

theorem Flows.trans (first : Flows handlers d d') (second : Flows handlers d' d'') :
    Flows handlers d d'' :=
  ⟨fun flowing => second.flowing (first.flowing flowing), fun ended =>
    second.ended (first.ended ended)⟩

/-- If the handlers return from events, only the phase counts. -/
theorem flows_of_taking (taking : Taking handlers) (same : d'.phase = d.phase) :
    Flows handlers d d' :=
  ⟨fun flowing => ⟨same ▸ flowing.phase, .inl taking⟩, fun ended => same.trans ended⟩

end Flows

/-- A loop that flows reads once it has begun. -/
theorem Flowing.settle_eq (flowing : d.Flowing ctx.handlers) (hosting : Hosting ctx.handlers) :
    (d.settle ctx j).1 = { d with phase := .reading } := by
  unfold settle
  rcases flowing.phase with greets | reads
  · have ended := Journal.callAll_ended (hosting.opened d.info) j.noteOpened
    rw [if_pos greets]
    show ({ d with phase := if _ then _ else _ } : Datagrams) = _
    rw [if_pos ended]
  · rw [if_neg (by rw [reads]; decide), ← reads]

theorem flows_settle (ctx : SessionContext) (hosting : Hosting ctx.handlers) (d : Datagrams)
    (j : Journal) : Flows ctx.handlers d (d.settle ctx j).1 := by
  refine ⟨fun flowing => ?_, fun ended => ?_⟩
  · rw [flowing.settle_eq hosting]
    exact ⟨.inr rfl, flowing.free⟩
  · unfold settle
    rw [if_neg (by rw [ended]; decide)]
    exact ended

/-- Messages that the handlers return from leave the loop as it is. -/
theorem give_eq {messages : List (String × Bytes)} (free : Taking ctx.handlers ∨ messages = [])
    (d : Datagrams) (j : Journal) : (d.give ctx messages j).1 = d := by
  have ended : (deliverEach ctx d.info messages j).1 = true := by
    rcases free with taking | rfl
    · induction messages generalizing j with
      | nil => rfl
      | cons message rest ih =>
        obtain ⟨peer, message⟩ := message
        have given : (ctx.deliver { d.info with peer } message.dropEnd j).1 = true := by
          unfold SessionContext.deliver
          split
          · rfl
          · exact Journal.callAll_ended (taking _ _) _
        unfold deliverEach
        dsimp only
        rw [if_pos given]
        exact ih _
    · rfl
  show (if _ then _ else _) = _
  rw [if_pos ended]

/-- A loop that does not read takes no datagram. -/
theorem receive_of_not_reading (ctx : SessionContext) (away : d.phase ≠ .reading) (peer : String)
    (datagram : Bytes) (j : Journal) : d.receive ctx peer datagram j = (d, j) := if_neg away

theorem flows_receive (ctx : SessionContext) (taking : Taking ctx.handlers) (peer : String)
    (datagram : Bytes) (d : Datagrams) (j : Journal) :
    Flows ctx.handlers d (d.receive ctx peer datagram j).1 := by
  refine flows_of_taking taking ?_
  unfold receive
  split
  · dsimp only
    split <;> rw [give_eq (.inl taking)]
  · rfl

theorem flows_fail (handlers : List EventHandler) (fault : LinkFault) (d : Datagrams)
    (j : Journal) : Flows handlers d (d.fail fault j).1 := by
  unfold fail
  split <;> exact .refl d

/-- What has waited too long is given, which is nothing if nothing waits. -/
theorem flows_pass (ctx : SessionContext) (time : Time.Duration) (d : Datagrams) (j : Journal) :
    Flows ctx.handlers d (d.pass ctx time j).1 := by
  unfold pass
  dsimp only
  split
  · rename_i joiner joins
    split
    · rename_i reads
      refine ⟨fun flowing => ?_, fun ended => by rw [reads] at ended; cases ended⟩
      rcases flowing.free with taking | clear
      · rw [give_eq (.inl taking)]
        exact ⟨flowing.phase, .inl taking⟩
      · have nothing : joiner.pending = [] := clear joiner joins
        rw [give_eq (.inr (by rw [Reassembler.expire, nothing]; rfl))]
        refine ⟨flowing.phase, .inr fun joiner' same => ?_⟩
        obtain rfl := Option.some.inj same
        rw [Reassembler.expire, nothing]
        rfl
    · exact ⟨fun flowing => ⟨flowing.phase, flowing.free⟩, id⟩
  · exact ⟨fun flowing => ⟨flowing.phase, flowing.free⟩, id⟩

/-- **A loop that flows comes to its end.** -/
theorem ended_finish (hosting : Hosting ctx.handlers) (flowing : d.Flowing ctx.handlers) :
    (d.finish ctx j).1.phase = .ended := by
  have closes : ∀ (d : Datagrams) (j : Journal), (d.close ctx j).1.phase = .ended := by
    intro d j
    have ended := Journal.callAll_ended (hosting.closed d.info) j
    unfold close
    dsimp only
    rw [if_pos ended]
  unfold finish
  dsimp only
  rw [flowing.settle_eq hosting, if_pos rfl]
  cases joins : d.joiner with
  | none =>
    dsimp only
    rw [give_eq (.inr rfl), if_pos rfl]
    exact closes _ _
  | some joiner =>
    have free : Taking ctx.handlers ∨ joiner.drain.1 = [] :=
      flowing.free.imp_right fun clear => by rw [Reassembler.drain, clear joiner joins]; rfl
    dsimp only
    rw [give_eq free, if_pos rfl]
    exact closes _ _

end Datagrams

end Syslog

import Syslog.Proofs.Framing.RoundTrip
import Syslog.Proofs.Server.Calls
import Syslog.Server

/-!
# What a session tells the handlers

A session takes messages out of what it has read, in between reads on, and may learn at any point
that the server shuts down. Whatever the order of these things, the handlers are told the messages
of the bytes that it has read, each once and in order, and nothing else but its opening and its end.

* `Gives`: a decoder gives messages of what it holds; `gives_next`, `gives_all`,
  `gives_allUntilDry`: so it does in each of the ways in which a session asks it;
* `Moment`, `Run`: what happens to a session, one thing at a time, with the bytes that it has read
  and what it has added to the journal, to which other sessions may add in between;
* `exists_looks_of_feed`: bytes that come are read at once, and given one message at a time;
* `Going`, `Over`: what a session has told while it goes on, and when it is over;
* `Going.act`, `Run.tells`: every moment keeps that, and so does a run;
* `Run.finish_eq`, `Run.phase_drain`, `Run.pass_eq`: what makes a session end;
* `session_tells`: what a session has told that has ended; `exists_ended_run`: there is one for
  whatever a peer sends;
* `untold_at_shutdown`: what it has read is lost if the clock cannot show the end of a shutdown.
-/

namespace Syslog

namespace Framing.Decoder

variable {f : Framing} {d d' d'' : Decoder}

/-! ## 1. Messages out of a buffer -/

/-- A decoder gives messages, and goes on as another, which holds what was not given. -/
def Gives (f : Framing) (d : Decoder) (frames : List Frame) (d' : Decoder) : Prop :=
  ∀ pending, Holds f d pending → ∃ pending', Holds f d' pending' ∧
    ∀ later, f.framesOf (pending ++ later) = frames ++ f.framesOf (pending' ++ later)

theorem gives_nothing : Gives f d [] d := fun pending h => ⟨pending, h, fun _ => rfl⟩

theorem Gives.trans {frames more : List Frame} (first : Gives f d frames d')
    (second : Gives f d' more d'') : Gives f d (frames ++ more) d'' := by
  intro pending h
  obtain ⟨pending', h', split⟩ := first pending h
  obtain ⟨pending'', h'', split'⟩ := second pending' h'
  refine ⟨pending'', h'', fun later => ?_⟩
  rw [split, split', List.append_assoc]

/-- One request. -/
theorem gives_next (fits : f.maxSize + f.keep < UInt64.size) :
    Gives f d d.next.1.toList d.next.2 := by
  intro pending h
  obtain ⟨pending', h', split⟩ := ask_frames fits 1 h
  refine ⟨pending', h', fun later => ?_⟩
  rw [split later]
  exact congrArg (· ++ _) (List.append_nil _)

/-- Requests until no message has come to its delimiter. -/
theorem gives_all (fits : f.maxSize + f.keep < UInt64.size) : Gives f d d.all.1 d.all.2 := by
  intro pending h
  obtain ⟨gs, kept, frames, h', -, -, pieces⟩ := all_pieces fits h
  refine ⟨kept, h', fun later => ?_⟩
  unfold framesOf
  rw [frames, pieces, List.map_append, List.append_assoc]

theorem allUntilDry_of_some {frame : Frame} (left : ¬ d.buffer.isEmpty = true)
    (step : d.next = (some frame, d')) :
    d.allUntilDry = (frame :: d'.allUntilDry.1, d'.allUntilDry.2) := by
  rw [allUntilDry.eq_def, if_neg left]
  split
  · rename_i frame' d'' taken
    rw [step] at taken
    cases taken
    rfl
  · rename_i d'' taken
    rw [step] at taken
    cases taken

theorem allUntilDry_of_none (left : ¬ d.buffer.isEmpty = true) (step : d.next = (none, d')) :
    d.allUntilDry = ([], false, d') := by
  rw [allUntilDry.eq_def, if_neg left]
  split
  · rename_i frame' d'' taken
    rw [step] at taken
    cases taken
  · rename_i d'' taken
    rw [step] at taken
    cases taken
    rfl

theorem allUntilDry_of_empty (empty : d.buffer.isEmpty = true) :
    d.allUntilDry = ([], true, d) := by
  rw [allUntilDry.eq_def, if_pos empty]

/-- Requests until no byte is left, or no message has come to its delimiter. -/
theorem gives_allUntilDry (fits : f.maxSize + f.keep < UInt64.size) (d : Decoder) :
    Gives f d d.allUntilDry.1 d.allUntilDry.2.2 := by
  induction d using allUntilDry.induct with
  | case1 d empty =>
    rw [allUntilDry_of_empty empty]
    exact gives_nothing
  | case2 d left frame d' step frames dry rest later ih =>
    have first : Gives f d [frame] d' := by
      have one := gives_next (d := d) fits
      rw [step] at one
      exact one
    rw [allUntilDry_of_some left step]
    exact first.trans ih
  | case3 d left d' step =>
    have first : Gives f d [] d' := by
      have one := gives_next (d := d) fits
      rw [step] at one
      exact one
    rw [allUntilDry_of_none left step]
    exact first

end Framing.Decoder

/-! ## 2. What happens to a session -/

namespace Session

/-- Does the session read? -/
def IsLive (s : Session) : Prop := s.phase = .reading ∨ ∃ left, s.phase = .draining left

theorem IsLive.ne_ended {s : Session} (live : s.IsLive) : s.phase ≠ .ended := by
  rcases live with reading | ⟨left, draining⟩
  · rw [reading]
    exact nofun
  · rw [draining]
    exact nofun

/-- The next message is taken out of the buffer. -/
def giveNext (ctx : SessionContext) (s : Session) (j : Journal) : Session × Journal :=
  let (frame, decoder) := s.decoder.next
  let (ended, j) := ctx.deliverAll s.info frame.toList j
  ({ s with
      decoder
      silent := if s.phase = .reading ∧ frame.isSome then .zero else s.silent
      phase := if ended then s.phase else .stuck }, j)

/-- The session looks for a message; one that only completes what it has begun is over when no byte
is left. -/
def look (ctx : SessionContext) (s : Session) (j : Journal) : Session × Journal :=
  match s.phase with
  | .reading => s.giveNext ctx j
  | .draining _ => if s.decoder.buffer.isEmpty then s.flush ctx j else s.giveNext ctx j
  | _ => (s, j)

theorem look_reading {ctx : SessionContext} {s : Session} (reading : s.phase = .reading)
    (j : Journal) : s.look ctx j = s.giveNext ctx j := by
  unfold look
  rw [reading]

theorem look_draining {ctx : SessionContext} {s : Session} {left : Time.Duration}
    (draining : s.phase = .draining left) (j : Journal) :
    s.look ctx j =
      if s.decoder.buffer.isEmpty then s.flush ctx j else s.giveNext ctx j := by
  unfold look
  rw [draining]

/-- What happens to a session. -/
inductive Moment where
  /-- Bytes come, and all messages that they complete are given. -/
  | fed (bytes : Bytes)
  /-- Bytes come, and stay in the buffer. -/
  | pulled (bytes : Bytes)
  /-- The session looks for one message in its buffer. -/
  | looked
  /-- The peer sends no more. -/
  | finished
  /-- The connection fails. -/
  | failed (fault : LinkFault)
  /-- The server shuts down, at the time that the clock shows. -/
  | drained (now wait : Time.Duration)
  | passed (time : Time.Duration)
  /-- The time for shutting down is over. -/
  | quit

namespace Moment

/-- What a session does then. -/
def act (ctx : SessionContext) : Moment → Session → Journal → Session × Journal
  | fed bytes => Session.feed ctx bytes
  | pulled bytes => fun s j => ({ s with decoder := s.decoder.feed bytes }, j)
  | looked => Session.look ctx
  | finished => Session.finish ctx
  | failed fault => Session.fail ctx fault
  | drained now wait => Session.drain { ctx with now } wait
  | passed time => Session.pass ctx time
  | quit => Streams.quit ctx

/-- The bytes that are read then. -/
def bytes : Moment → Bytes
  | fed bytes | pulled bytes => bytes
  | _ => []

/-- A session ends because the peer sends no more, or because the server shuts down and the clock can
show the end of the time that is left: it is not silent for too long, and its connection does not
fail and it is not ended by force before it has learned of that. -/
def Allowed (ctx : SessionContext) (s : Session) : Moment → Prop
  | drained now wait => s.phase = .reading → SessionContext.canAwait { ctx with now } wait = true
  | passed time => s.phase = .reading → ∀ limit, ctx.timeout = some limit →
      s.silent.nanoseconds + time.nanoseconds < limit.nanoseconds
  | failed _ | quit => s.phase ≠ .reading
  | _ => True

end Moment

/-- A run of a session that begins with its opening, one moment after the other, with the bytes that
it has read and what it has added to the journal. -/
inductive Run (ctx : SessionContext) (info : SessionInfo) (f : Framing) :
    Session → Bytes → Journal → Prop
  | opened {j made : Journal} {s : Session}
      (opens : openUp ctx { info, decoder := { framing := f } } j = (s, j ++ made)) :
      Run ctx info f s [] made
  | acted {s s' : Session} {bytes : Bytes} {made j more : Journal}
      (run : Run ctx info f s bytes made) (live : s.IsLive) (m : Moment)
      (allowed : m.Allowed ctx s) (acts : m.act ctx s j = (s', j ++ more)) :
      Run ctx info f s' (bytes ++ m.bytes) (made ++ more)

/-- Looks for so many messages, one after the other. -/
def looks (ctx : SessionContext) : Nat → Session → Journal → Session × Journal
  | 0, s, j => (s, j)
  | n + 1, s, j => looks ctx n (s.look ctx j).1 (s.look ctx j).2

theorem deliverAll_cons {ctx : SessionContext} {info : SessionInfo} {frame : Frame}
    {j j' : Journal} (first : ctx.deliverAll info [frame] j = (true, j')) (rest : List Frame) :
    ctx.deliverAll info (frame :: rest) j = ctx.deliverAll info rest j' := by
  cases frame with
  | tooLong size =>
    cases first
    rfl
  | line line =>
    simp only [SessionContext.deliverAll] at first ⊢
    cases delivered : ctx.deliver info line j with
    | mk ended j'' =>
      rw [delivered] at first
      cases ended with
      | true =>
        cases first
        rfl
      | false => cases first

/-- What one look does when a message has come to its delimiter, or none has. -/
theorem giveNext_some {ctx : SessionContext} {s : Session} {j j' : Journal} {frame : Frame}
    {d : Framing.Decoder} (step : s.decoder.next = (some frame, d))
    (first : ctx.deliverAll s.info [frame] j = (true, j')) :
    s.giveNext ctx j =
      ({ s with decoder := d, silent := if s.phase = .reading then .zero else s.silent }, j') := by
  unfold giveNext
  rw [step]
  simp only [Option.toList_some, first, Option.isSome_some, and_true, if_true]

theorem giveNext_none {ctx : SessionContext} {s : Session} {j : Journal} {d : Framing.Decoder}
    (step : s.decoder.next = (none, d)) :
    s.giveNext ctx j = ({ s with decoder := d }, j) := by
  unfold giveNext
  rw [step]
  simp [SessionContext.deliverAll]

section Looks

variable {ctx : SessionContext} (returning : Returning ctx.handlers)
include returning

theorem exists_deliverAll (info : SessionInfo) (frames : List Frame) (j : Journal) :
    ∃ j', ctx.deliverAll info frames j = (true, j') := by
  obtain ⟨records, -, given⟩ := ctx.deliverAll_told returning info frames j
  exact ⟨_, given⟩

/-- A session that reads looks through its buffer. -/
theorem exists_looks_all (d : Framing.Decoder) (s : Session) (j : Journal) (is : s.decoder = d)
    (reading : s.phase = .reading) :
    ∃ n, looks ctx n s j =
      ({ s with
          decoder := d.all.2
          silent := if d.all.1.isEmpty then s.silent else .zero },
        (ctx.deliverAll s.info d.all.1 j).2) := by
  induction d using Framing.Decoder.all.induct generalizing s j with
  | case1 d frame d' step frames rest later ih =>
    subst is
    obtain ⟨j', first⟩ := exists_deliverAll returning s.info [frame] j
    have look : s.look ctx j = ({ s with decoder := d', silent := .zero }, j') := by
      rw [look_reading reading, giveNext_some step first, if_pos reading]
    obtain ⟨n, done⟩ := ih { s with decoder := d', silent := .zero } j' rfl reading
    refine ⟨n + 1, ?_⟩
    rw [looks, look, done, Framing.Decoder.all_of_some step, deliverAll_cons first]
    simp
  | case2 d d' step =>
    subst is
    have look : s.look ctx j = ({ s with decoder := d' }, j) := by
      rw [look_reading reading, giveNext_none step]
    refine ⟨1, ?_⟩
    rw [looks, look, Framing.Decoder.all_of_none step]
    rfl

/-- So does one that only completes what it has begun, until it is over or no message has come to
its delimiter. -/
theorem exists_looks_untilDry (d : Framing.Decoder) (s : Session) (j : Journal)
    (is : s.decoder = d) {left : Time.Duration} (draining : s.phase = .draining left) :
    ∃ n, looks ctx n s j =
      if d.allUntilDry.2.1 then
        flush ctx { s with decoder := d.allUntilDry.2.2 }
          (ctx.deliverAll s.info d.allUntilDry.1 j).2
      else ({ s with decoder := d.allUntilDry.2.2 },
        (ctx.deliverAll s.info d.allUntilDry.1 j).2) := by
  induction d using Framing.Decoder.allUntilDry.induct generalizing s j with
  | case1 d empty =>
    subst is
    refine ⟨1, ?_⟩
    have look : s.look ctx j = s.flush ctx j := by
      rw [look_draining draining, if_pos empty]
    rw [looks, look, Framing.Decoder.allUntilDry_of_empty empty]
    rfl
  | case2 d nonempty frame d' step frames dry rest later ih =>
    subst is
    obtain ⟨j', first⟩ := exists_deliverAll returning s.info [frame] j
    have not_reading : s.phase ≠ .reading := by
      rw [draining]
      exact nofun
    have look : s.look ctx j = ({ s with decoder := d' }, j') := by
      rw [look_draining draining, if_neg nonempty, giveNext_some step first, if_neg not_reading]
    obtain ⟨n, done⟩ := ih { s with decoder := d' } j' rfl draining
    refine ⟨n + 1, ?_⟩
    rw [looks, look, done, Framing.Decoder.allUntilDry_of_some nonempty step,
      deliverAll_cons first]
  | case3 d nonempty d' step =>
    subst is
    have look : s.look ctx j = ({ s with decoder := d' }, j) := by
      rw [look_draining draining, if_neg nonempty, giveNext_none step]
    refine ⟨1, ?_⟩
    rw [looks, look, Framing.Decoder.allUntilDry_of_none nonempty step]
    rfl

/-- **Bytes that come are read, and then looked through** for one message after the other. -/
theorem exists_looks_of_feed (s : Session) (live : s.IsLive) (bytes : Bytes) (j : Journal) :
    ∃ n, looks ctx n { s with decoder := s.decoder.feed bytes } j = s.feed ctx bytes j := by
  rcases live with reading | ⟨left, draining⟩
  · obtain ⟨n, done⟩ := exists_looks_all returning (s.decoder.feed bytes)
      { s with decoder := s.decoder.feed bytes } j rfl reading
    obtain ⟨j', given⟩ := exists_deliverAll returning s.info (s.decoder.feed bytes).all.1 j
    have fed : s.feed ctx bytes j = s.read ctx bytes j := by
      unfold Session.feed
      rw [reading]
    refine ⟨n, done.trans ?_⟩
    simp only [fed, Session.read, given, reading, if_true]
  · obtain ⟨n, done⟩ := exists_looks_untilDry returning (s.decoder.feed bytes)
      { s with decoder := s.decoder.feed bytes } j rfl draining
    obtain ⟨j', given⟩ :=
      exists_deliverAll returning s.info (s.decoder.feed bytes).allUntilDry.1 j
    have fed : s.feed ctx bytes j = s.readLast ctx bytes j := by
      unfold Session.feed
      rw [draining]
    refine ⟨n, done.trans ?_⟩
    simp only [fed, Session.readLast, given, Bool.not_true, Bool.false_eq_true, if_false]

end Looks

/-- What is given does not depend on the clock. -/
theorem deliverAll_now (ctx : SessionContext) (now : Time.Duration) (info : SessionInfo)
    (frames : List Frame) (j : Journal) :
    SessionContext.deliverAll { ctx with now } info frames j = ctx.deliverAll info frames j := by
  induction frames generalizing j with
  | nil => rfl
  | cons frame rest ih =>
    cases frame with
    | tooLong size => exact ih j.noteOversized
    | line line =>
      unfold SessionContext.deliverAll
      simp only [ih]
      rfl

theorem flush_now (ctx : SessionContext) (now : Time.Duration) (s : Session) (j : Journal) :
    s.flush { ctx with now } j = s.flush ctx j := by
  unfold flush
  rw [deliverAll_now]
  rfl

/-! ## 3. What a session has told -/

variable {ctx : SessionContext} {info : SessionInfo} {f : Framing} {s s' : Session}
  {bytes : Bytes} {made : Journal}

/-- A session that goes on has told of its opening, and of the first messages of what it has read;
its decoder holds the rest. -/
structure Going (ctx : SessionContext) (info : SessionInfo) (f : Framing) (s : Session)
    (bytes : Bytes) (made : Journal) : Prop where
  live : s.IsLive
  same : s.info = info
  told : ∃ pending frames records, Framing.Decoder.Holds f s.decoder pending ∧
    (∀ later, f.framesOf (bytes ++ later) = frames ++ f.framesOf (pending ++ later)) ∧
    records.map CallRecord.made = ctx.callsOf (.opened info) ++ ctx.callsFor info frames ∧
    made = .told 1 0 frames records

/-- A session that is over has told of its opening, of all messages of what it has read, and of its
end. -/
structure Over (ctx : SessionContext) (info : SessionInfo) (f : Framing) (s : Session)
    (bytes : Bytes) (made : Journal) : Prop where
  ended : s.phase = .ended
  told : ∃ records,
    records.map CallRecord.made = ctx.callsOf (.opened info) ++
      ctx.callsFor info (f.framesOf bytes) ++ ctx.callsOf (.closed info) ∧
    made = .told 1 1 (f.framesOf bytes) records

/-- What was done adds to the journal, and the session goes on or is over. -/
def Goes (ctx : SessionContext) (info : SessionInfo) (f : Framing) (bytes : Bytes)
    (made j : Journal) (after : Session × Journal) : Prop :=
  ∃ more, after.2 = j ++ more ∧
    (Going ctx info f after.1 bytes (made ++ more) ∨ Over ctx info f after.1 bytes (made ++ more))

/-- Nothing is told, and the session goes on with the same decoder. -/
theorem Going.quiet (going : Going ctx info f s bytes made) (j : Journal) (live : s'.IsLive)
    (same : s'.info = s.info) (decoder : s'.decoder = s.decoder) :
    Goes ctx info f bytes made j (s', j) := by
  obtain ⟨-, is_info, pending, frames, records, holds, split, calls, rfl⟩ := going
  refine ⟨.told 0 0 [] [], j.append_told_nil.symm, .inl ⟨live, same.trans is_info, ?_⟩⟩
  rw [Journal.append_told_nil]
  exact ⟨pending, frames, records, decoder ▸ holds, split, calls, rfl⟩

/-- Bytes are read. -/
theorem Going.pull (going : Going ctx info f s bytes made) (more : Bytes) :
    Going ctx info f { s with decoder := s.decoder.feed more } (bytes ++ more) made := by
  obtain ⟨live, same, pending, frames, records, holds, split, calls, rfl⟩ := going
  refine ⟨live, same, pending ++ more, frames, records, holds.feed more, ?_, calls, rfl⟩
  intro later
  rw [List.append_assoc, List.append_assoc]
  exact split (more ++ later)

/-- **Messages that the decoder gives are told.** -/
theorem Going.deliver (going : Going ctx info f s bytes made)
    (returning : Returning ctx.handlers) {frames : List Frame} {decoder : Framing.Decoder}
    (gives : Framing.Decoder.Gives f s.decoder frames decoder) (j : Journal) :
    ∃ more, ctx.deliverAll s.info frames j = (true, j ++ more) ∧
      ∀ s' : Session, s'.IsLive → s'.info = s.info → s'.decoder = decoder →
        Going ctx info f s' bytes (made ++ more) := by
  obtain ⟨-, is_info, pending, before, records, holds, split, calls, rfl⟩ := going
  obtain ⟨records', calls', given⟩ := ctx.deliverAll_told returning s.info frames j
  obtain ⟨pending', holds', split'⟩ := gives pending holds
  have all_calls : (records ++ records').map CallRecord.made =
      ctx.callsOf (.opened info) ++ ctx.callsFor info (before ++ frames) := by
    rw [List.map_append, calls, calls', is_info, SessionContext.callsFor_append,
      List.append_assoc]
  refine ⟨_, given, ?_⟩
  intro s' live same is_decoder
  refine ⟨live, same.trans is_info, pending', before ++ frames, records ++ records',
    is_decoder ▸ holds', ?_, all_calls, Journal.told_append ..⟩
  intro later
  rw [split, split', List.append_assoc]

/-- **A session that is over has told all that was left.** -/
theorem Going.flush (going : Going ctx info f s bytes made) (returning : Returning ctx.handlers)
    (fits : f.maxSize + f.keep < UInt64.size) (j : Journal) :
    ∃ more, s.flush ctx j = ({ s with phase := .ended }, j ++ more) ∧
      Over ctx info f { s with phase := .ended } bytes (made ++ more) := by
  obtain ⟨-, is_info, pending, before, records, holds, split, calls, rfl⟩ := going
  obtain ⟨records', calls', flushed⟩ := s.flush_told returning j
  have rest : s.decoder.finishAll = f.framesOf pending :=
    Framing.Decoder.finishAll_frames fits holds
  have whole : f.framesOf bytes = before ++ f.framesOf pending := by
    have all := split []
    rw [List.append_nil, List.append_nil] at all
    exact all
  have all_calls : (records ++ records').map CallRecord.made =
      ctx.callsOf (.opened info) ++ ctx.callsFor info (f.framesOf bytes) ++
        ctx.callsOf (.closed info) := by
    rw [List.map_append, calls, calls', is_info, rest, whole, SessionContext.callsFor_append,
      List.append_assoc, List.append_assoc, List.append_assoc]
  refine ⟨_, flushed, rfl, records ++ records', all_calls, ?_⟩
  rw [Journal.told_append, rest, whole]

theorem Going.flushes (going : Going ctx info f s bytes made)
    (returning : Returning ctx.handlers) (fits : f.maxSize + f.keep < UInt64.size) (j : Journal) :
    Goes ctx info f bytes made j (s.flush ctx j) := by
  obtain ⟨more, flushed, complete⟩ := going.flush returning fits j
  rw [flushed]
  exact ⟨more, rfl, .inr complete⟩

/-! ## 4. One moment -/

section Act

variable (going : Going ctx info f s bytes made) (returning : Returning ctx.handlers)
  (fits : f.maxSize + f.keep < UInt64.size) (j : Journal)
include going returning fits

theorem Going.read (more : Bytes) :
    Goes ctx info f (bytes ++ more) made j (s.read ctx more j) := by
  have gives := Framing.Decoder.gives_all (d := s.decoder.feed more) fits
  unfold Session.read
  generalize (s.decoder.feed more).all = taken at gives ⊢
  obtain ⟨frames, decoder⟩ := taken
  obtain ⟨told, given, goes_on⟩ := (going.pull more).deliver returning gives j
  simp only at given ⊢
  rw [given]
  exact ⟨told, rfl, .inl (goes_on _ (.inl rfl) rfl rfl)⟩

/-- A session that only completes what it has begun reads on, or is over. -/
theorem Going.readLast (more : Bytes) {left : Time.Duration} (draining : s.phase = .draining left) :
    Goes ctx info f (bytes ++ more) made j (s.readLast ctx more j) := by
  have gives := Framing.Decoder.gives_allUntilDry fits (s.decoder.feed more)
  unfold Session.readLast
  generalize (s.decoder.feed more).allUntilDry = taken at gives ⊢
  obtain ⟨frames, dry, decoder⟩ := taken
  obtain ⟨told, given, goes_on⟩ := (going.pull more).deliver returning gives j
  have later := goes_on { s with decoder } (.inr ⟨left, draining⟩) rfl rfl
  simp only at given ⊢
  rw [given]
  simp only [Bool.not_true, Bool.false_eq_true, if_false]
  cases dry with
  | true =>
    obtain ⟨told', flushed, complete⟩ := later.flush returning fits (j ++ told)
    rw [if_pos rfl, flushed]
    refine ⟨told ++ told', Journal.append_assoc .., .inr ?_⟩
    rw [← Journal.append_assoc]
    exact complete
  | false => exact ⟨told, rfl, .inl later⟩

theorem Going.giveNext : Goes ctx info f bytes made j (s.giveNext ctx j) := by
  have gives := Framing.Decoder.gives_next (d := s.decoder) fits
  unfold Session.giveNext
  generalize s.decoder.next = taken at gives ⊢
  obtain ⟨frame, decoder⟩ := taken
  obtain ⟨told, given, goes_on⟩ := going.deliver returning gives j
  simp only at given ⊢
  rw [given]
  exact ⟨told, rfl, .inl (goes_on _ going.live rfl rfl)⟩

/-- **Every moment keeps what a session has told.** -/
theorem Going.act (m : Moment) (allowed : m.Allowed ctx s) :
    Goes ctx info f (bytes ++ m.bytes) made j (m.act ctx s j) := by
  have nothing : bytes ++ [] = bytes := List.append_nil bytes
  have live := going.live
  cases m with
  | fed more =>
    show Goes ctx info f (bytes ++ more) made j (s.feed ctx more j)
    unfold Session.feed
    rcases live with reading | ⟨left, draining⟩
    · rw [reading]
      exact going.read returning fits j more
    · rw [draining]
      exact going.readLast returning fits j more draining
  | pulled more =>
    exact (going.pull more).quiet j live rfl rfl
  | looked =>
    show Goes ctx info f (bytes ++ []) made j (s.look ctx j)
    rw [nothing]
    rcases live with reading | ⟨left, draining⟩
    · rw [look_reading reading]
      exact going.giveNext returning fits j
    · rw [look_draining draining]
      split
      · exact going.flushes returning fits j
      · exact going.giveNext returning fits j
  | finished =>
    show Goes ctx info f (bytes ++ []) made j (s.finish ctx j)
    rw [nothing]
    unfold Session.finish
    rcases live with reading | ⟨left, draining⟩
    · rw [reading]
      exact going.flushes returning fits j
    · rw [draining]
      exact going.flushes returning fits j
  | failed fault =>
    show Goes ctx info f (bytes ++ []) made j (s.fail ctx fault j)
    rw [nothing]
    unfold Session.fail
    rcases live with reading | ⟨left, draining⟩
    · exact absurd reading allowed
    · rw [draining]
      exact going.flushes returning fits j
  | drained now wait =>
    show Goes ctx info f (bytes ++ []) made j (s.drain { ctx with now } wait j)
    rw [nothing]
    unfold Session.drain
    rcases live with reading | ⟨left, draining⟩
    · rw [reading]
      simp only [allowed reading, Bool.not_true, Bool.false_eq_true, if_false]
      split
      · rw [flush_now]
        exact going.flushes returning fits j
      · exact going.quiet j (.inr ⟨wait, rfl⟩) rfl rfl
    · rw [draining]
      exact going.quiet j going.live rfl rfl
  | passed time =>
    show Goes ctx info f (bytes ++ []) made j (s.pass ctx time j)
    rw [nothing]
    unfold Session.pass
    rcases live with reading | ⟨left, draining⟩
    · rw [reading]
      simp only
      split
      · rename_i limit set
        have awake := allowed reading limit set
        rw [if_neg (Nat.not_le.2 awake)]
        exact going.quiet j (.inl rfl) rfl rfl
      · exact going.quiet j (.inl rfl) rfl rfl
    · rw [draining]
      simp only
      split
      · exact going.flushes returning fits j
      · exact going.quiet j (.inr ⟨_, rfl⟩) rfl rfl
  | quit =>
    show Goes ctx info f (bytes ++ []) made j (Streams.quit ctx s j)
    rw [nothing]
    unfold Streams.quit
    rcases live with reading | ⟨left, draining⟩
    · exact absurd reading allowed
    · rw [draining]
      obtain ⟨told, flushed, complete⟩ := going.flush returning fits j
      simp only
      rw [flushed]
      exact ⟨told, rfl, .inr complete⟩

end Act

/-! ## 5. A whole run -/

/-- **What a session tells in a run.** -/
theorem Run.tells (returning : Returning ctx.handlers) (fits : f.maxSize + f.keep < UInt64.size)
    (run : Run ctx info f s bytes made) :
    Going ctx info f s bytes made ∨ Over ctx info f s bytes made := by
  induction run with
  | @opened j made s opens =>
    obtain ⟨records, calls, opened⟩ :=
      openUp_told returning { info, decoder := { framing := f } } j
    obtain ⟨rfl, added⟩ := Prod.mk.inj (opens.symm.trans opened)
    obtain rfl := Journal.append_left_cancel added
    refine .inl ⟨.inl rfl, rfl, [], [], records, Framing.Decoder.holds_fresh [],
      fun _ => rfl, ?_, rfl⟩
    rw [calls]
    exact (List.append_nil _).symm
  | @acted s s' bytes made j more run live m allowed acts ih =>
    rcases ih with going | complete
    · obtain ⟨told, added, after⟩ := going.act returning fits j m allowed
      rw [acts] at added after
      obtain rfl := Journal.append_left_cancel added
      exact after
    · exact absurd complete.ended live.ne_ended

/-- A session that reads ends when the peer sends no more. -/
theorem Run.finish_eq (returning : Returning ctx.handlers) (fits : f.maxSize + f.keep < UInt64.size)
    (run : Run ctx info f s bytes made) (live : s.IsLive) (j : Journal) :
    ∃ more, s.finish ctx j = ({ s with phase := .ended }, j ++ more) := by
  rcases run.tells returning fits with going | complete
  · obtain ⟨more, flushed, -⟩ := going.flush returning fits j
    refine ⟨more, ?_⟩
    unfold Session.finish
    rcases live with reading | ⟨left, draining⟩
    · rw [reading]
      exact flushed
    · rw [draining]
      exact flushed
  · exact absurd complete.ended live.ne_ended

/-- So does one that only completes what it has begun, when the time for that is over. -/
theorem Run.pass_eq (returning : Returning ctx.handlers) (fits : f.maxSize + f.keep < UInt64.size)
    (run : Run ctx info f s bytes made) {left : Time.Duration} (draining : s.phase = .draining left)
    {time : Time.Duration} (late : left.nanoseconds ≤ time.nanoseconds) (j : Journal) :
    ∃ more, s.pass ctx time j = ({ s with phase := .ended }, j ++ more) := by
  rcases run.tells returning fits with going | complete
  · obtain ⟨more, flushed, -⟩ := going.flush returning fits j
    refine ⟨more, ?_⟩
    unfold Session.pass
    rw [draining]
    exact (if_pos late).trans flushed
  · exact absurd (draining.symm.trans complete.ended) nofun

/-- A session that learns of the shutdown is over, or completes what it has begun. -/
theorem Run.phase_drain (returning : Returning ctx.handlers)
    (fits : f.maxSize + f.keep < UInt64.size) (run : Run ctx info f s bytes made)
    (reading : s.phase = .reading) {now wait : Time.Duration}
    (shown : SessionContext.canAwait { ctx with now } wait = true) (j : Journal) :
    (s.drain { ctx with now } wait j).1.phase =
      if s.decoder.buffer.isEmpty then .ended else .draining wait := by
  rcases run.tells returning fits with going | complete
  · obtain ⟨more, flushed, -⟩ := going.flush returning fits j
    unfold Session.drain
    rw [reading]
    simp only [shown, Bool.not_true, Bool.false_eq_true, if_false]
    by_cases empty : s.decoder.buffer.isEmpty = true
    · rw [if_pos empty, if_pos empty, flush_now, flushed]
    · rw [if_neg empty, if_neg empty]
  · exact absurd (reading.symm.trans complete.ended) nofun

/-- **A session tells each handler what it has read, once and in order**, whatever the calls of the
handlers do, if they return: that it opens, then every message of the bytes that it has read that is
not empty, and that it is over. It counts these messages, their bytes and those over the limit, the
events that handlers have failed on and the calls that have panicked. And it does end: when the peer
sends no more; when the server shuts down and no byte is left; or else at the end of the time that it
then has.

Which messages these are, `Framing.framesOf` says of all bytes at once, for a limit that fits into a
word together with the delimiter. -/
theorem session_tells (returning : Returning ctx.handlers)
    (fits : f.maxSize + f.keep < UInt64.size) (run : Run ctx info f s bytes made) :
    let messages := (f.framesOf bytes).filterMap Frame.message?
    (s.phase = .ended →
      made.calls.map CallRecord.made =
          ctx.callsOf (.opened info) ++
            (messages.flatMap fun line =>
              ctx.callsOf (.event info (Event.ofBytes ctx.charset line))) ++
            ctx.callsOf (.closed info) ∧
        made.counts =
          { opened := 1
            closed := 1
            frames := messages.length
            bytes := (messages.map List.length).sum
            oversized := (f.framesOf bytes).countP Frame.isTooLong
            handlerErrors := made.calls.countP CallRecord.isFailedEvent +
              made.calls.countP CallRecord.isPanic }) ∧
      (s.phase ≠ .ended → s.IsLive ∧
        (∀ j, (s.finish ctx j).1.phase = .ended) ∧
        (∀ now wait j, s.phase = .reading →
          SessionContext.canAwait { ctx with now } wait = true →
          (s.drain { ctx with now } wait j).1.phase =
            if s.decoder.buffer.isEmpty then .ended else .draining wait) ∧
        ∀ left time j, s.phase = .draining left → left.nanoseconds ≤ time.nanoseconds →
          (s.pass ctx time j).1.phase = .ended) := by
  refine ⟨fun ended => ?_, fun going_on => ?_⟩
  · rcases run.tells returning fits with going | complete
    · exact absurd ended going.live.ne_ended
    · obtain ⟨-, records, calls, rfl⟩ := complete
      refine ⟨calls, ?_⟩
      rw [← CallRecord.countP_isCounted]
      rfl
  · have live : s.IsLive := by
      rcases run.tells returning fits with going | complete
      · exact going.live
      · exact absurd complete.ended going_on
    refine ⟨live, fun j => ?_, fun now wait j reading shown =>
      run.phase_drain returning fits reading shown j, fun left time j draining late => ?_⟩
    · obtain ⟨more, finished⟩ := run.finish_eq returning fits live j
      rw [finished]
    · obtain ⟨more, passed⟩ := run.pass_eq returning fits draining late j
      rw [passed]

/-- A session ends when the peer sends no more. -/
theorem Run.ends (returning : Returning ctx.handlers) (fits : f.maxSize + f.keep < UInt64.size)
    (run : Run ctx info f s bytes made) (live : s.IsLive) :
    ∃ made', Run ctx info f { s with phase := .ended } bytes made' := by
  obtain ⟨more, finished⟩ := run.finish_eq returning fits live {}
  have last : Run ctx info f { s with phase := .ended } (bytes ++ []) (made ++ more) :=
    run.acted live .finished trivial finished
  rw [List.append_nil] at last
  exact ⟨made ++ more, last⟩

/-- There is a run for whatever a peer sends. -/
theorem exists_ended_run (returning : Returning ctx.handlers)
    (fits : f.maxSize + f.keep < UInt64.size) (info : SessionInfo) (bytes : Bytes) :
    ∃ s made, Run ctx info f s bytes made ∧ s.phase = .ended := by
  obtain ⟨records, -, opens⟩ := openUp_told returning { info, decoder := { framing := f } } {}
  have opened := Run.opened opens
  have nothing : ({} : Journal) = {} ++ .told 0 0 [] [] := (Journal.append_told_nil _).symm
  have pulled := opened.acted (.inl rfl) (.pulled bytes) trivial (congrArg (Prod.mk _) nothing)
  obtain ⟨made, run⟩ := pulled.ends returning fits (.inl rfl)
  exact ⟨_, made, run, rfl⟩

/-- Two handlers, of which one fails on every event and the other panics whenever it is called: both
are told of the two messages, and not of the empty one between them. -/
theorem session_tells_of_failures :
    let failing := EventHandler.failing "a"
    let panicking : EventHandler := ⟨"b", fun _ _ => .panics⟩
    let ctx : SessionContext := ⟨[failing, panicking], .utf8, none, .zero⟩
    let info : SessionInfo := ⟨1, "srv", "peer"⟩
    let f := Framing.make [0x0a] 4
    let event (line : Bytes) := Call.event info (Event.ofBytes .utf8 line)
    Returning ctx.handlers ∧ f.maxSize + f.keep < UInt64.size ∧
      ∃ s made, Run ctx info f s [0x68, 0x69, 0x0a, 0x0a, 0x79, 0x6f] made ∧ s.phase = .ended ∧
        made.calls.map CallRecord.made =
          [("a", .opened info), ("b", .opened info), ("a", event [0x68, 0x69]),
            ("b", event [0x68, 0x69]), ("a", event [0x79, 0x6f]), ("b", event [0x79, 0x6f]),
            ("a", .closed info), ("b", .closed info)] ∧
        made.counts.frames = 2 ∧ made.counts.bytes = 4 := by
  intro failing panicking ctx info f event
  have returning : Returning ctx.handlers := by
    intro h member calls c
    rcases List.mem_cons.1 member with rfl | member
    · cases c <;> exact nofun
    · rw [List.mem_singleton.1 member]
      exact nofun
  have fits : f.maxSize + f.keep < UInt64.size := by decide
  obtain ⟨s, made, run, ended⟩ :=
    exists_ended_run returning fits info [0x68, 0x69, 0x0a, 0x0a, 0x79, 0x6f]
  obtain ⟨calls, counts⟩ := (session_tells returning fits run).1 ended
  have cut : Framing.Cut f.delimiter ([0x68, 0x69] ++ [0x0a] ++ ([] ++ [0x0a] ++ [0x79, 0x6f]))
      [[0x68, 0x69], []] [0x79, 0x6f] :=
    .piece (by decide) (.piece (by decide) (.rest (by decide)))
  have pieces : f.pieces [0x68, 0x69, 0x0a, 0x0a, 0x79, 0x6f] =
      ([[0x68, 0x69], []], [0x79, 0x6f]) := Framing.cut_iff_pieces.1 cut
  have frames : f.framesOf [0x68, 0x69, 0x0a, 0x0a, 0x79, 0x6f] =
      [.line [0x68, 0x69], .line [], .line [0x79, 0x6f]] := by
    unfold Framing.framesOf
    rw [pieces]
    decide
  rw [frames] at calls counts
  refine ⟨returning, fits, s, made, run, ended, calls, ?_, ?_⟩
  · exact congrArg ServerCounts.frames counts
  · exact congrArg ServerCounts.bytes counts

/-- A server shuts down so slowly that the clock cannot show the end of that. A session has read two
bytes, and is over without another call: neither is what it has read told, nor that it is over. -/
theorem untold_at_shutdown :
    let s : Server :=
      { name := "srv"
        settings := {
          kind := .unix, socketType := .stream, path := "s"
          shutdownWait := .ofSeconds (2 ^ 64 - 1) }
        handlers := ⟨[{ name := "a" }]⟩ }
    let machine : Machine := { certificates := fun _ => .ok 1, privateKey := fun _ => .ok () }
    let reading := ((s.start machine {}).2.1.connect 0 "").feed 0 [0x68, 0x69]
    let after := (reading.shutdown {}).1
    reading.isServing 0 = true ∧ after.state = .stopped ∧ after.journal.counts.opened = 1 ∧
      after.journal.counts.closed = 1 ∧ after.journal.counts.frames = 0 ∧
      (after.callsSince reading).map (·.call.session?) = [none] := by
  decide +kernel

end Session

end Syslog

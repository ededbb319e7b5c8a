import Mathlib.Algebra.Ring.Nat
import Mathlib.Data.List.Induction
import Mathlib.Data.List.Nodup
import Mathlib.Logic.Relation
import Syslog.Bytes
import Syslog.Transport.Error

/-!
# Who writes on which connection

Writes are under way at the same time, each on a connection that it owns until it is over. What a
transport does about them comes down to a few moves on a board, which shows what is on every
connection, which connections may be taken for a write, and how far every write has come.

* `WriteStage`, `WriteTask`, `Board`: the board;
* `Move`, `Moves`: what can happen on it, in eight ways;
* `Shared`: nobody shares a connection, and on each are whole frames, with a part of
  one at most behind them;
* `Counted`: a write that has succeeded has sent its frame once, and was counted once;
* `sound_move`, `Moves.sound`: every move keeps both, and so does a run of them;
* `Lost`, `Moves.lost`: on a connection that nobody owns and nobody may take nothing is written any
  more; `Moves.followed`: such is one over which a write has failed;
* `Orderly`, `NeverBehind`: what that makes of the wire, at any time and from then on.
-/

namespace Syslog

/-- How far a write has come. -/
inductive WriteStage where
  /-- It waits for its turn. -/
  | waiting
  /-- It has its turn, and looks for a connection. -/
  | admitted
  /-- A connection is being opened for it. -/
  | dialing
  /-- It owns a connection, on which the rest of its frame has still to be put. -/
  | writing (connection : Nat) (rest : Bytes)
  | ended (result : Except TransportError Unit)

/-- A write that was begun. -/
structure WriteTask where
  payload : Bytes
  stage : WriteStage

/-- The frame of a write that has succeeded: which one it is, and where it stands. -/
structure SentFrame where
  writer : Nat
  payload : Bytes
  connection : Nat

/-- What is known of writes and connections. Writes are numbered as they begin, and connections as
they are opened. -/
structure Board where
  /-- The bytes on every connection. -/
  streams : List Bytes
  /-- The connections that may be taken for a write. -/
  free : List Nat
  tasks : List WriteTask
  /-- The frames of the writes that have succeeded, in that order. -/
  sent : List SentFrame
  /-- How many writes were counted as sent, and how many bytes. -/
  messages : Nat
  bytes : Nat

/-- Neither on a connection nor sent. -/
def WriteStage.isIdle : WriteStage → Bool
  | waiting | admitted | dialing | ended (.error _) => true
  | writing _ _ | ended (.ok _) => false

/-- Has the write succeeded? -/
def WriteTask.isSent (t : WriteTask) : Bool :=
  match t.stage with
  | .ended (.ok _) => true
  | _ => false

/-! ## 1. Tasks that change -/

section Change

variable {tasks : List WriteTask} {k i : Nat} {t t' : WriteTask}

/-- The task that was changed, or another one. -/
theorem getElem?_set_cases {x : WriteTask} (h : (tasks.set k t)[i]? = some x) :
    (i = k ∧ x = t) ∨ (i ≠ k ∧ tasks[i]? = some x) := by
  rw [List.getElem?_set] at h
  by_cases same : k = i
  · rw [if_pos same] at h
    split at h
    · exact .inl ⟨same.symm, (Option.some.inj h).symm⟩
    · cases h
  · rw [if_neg same] at h
    exact .inr ⟨fun eq => same eq.symm, h⟩

theorem getElem?_set_self_of (here : tasks[k]? = some t) : (tasks.set k t')[k]? = some t' :=
  List.getElem?_set_self (List.getElem?_eq_some_iff.1 here).1

theorem getElem?_set_of_ne (other : i ≠ k) : (tasks.set k t)[i]? = tasks[i]? :=
  List.getElem?_set_ne fun same => other same.symm

/-- The task that has just begun, or another one. -/
theorem getElem?_concat_cases {x : WriteTask} (h : (tasks ++ [t])[i]? = some x) :
    x = t ∨ tasks[i]? = some x := by
  by_cases old : i < tasks.length
  · rw [List.getElem?_append_left old] at h
    exact .inr h
  · rw [List.getElem?_append_right (Nat.not_lt.1 old)] at h
    exact .inl (List.mem_singleton.1 (List.mem_of_getElem? h))

theorem getElem?_concat_of (here : tasks[k]? = some t) : (tasks ++ [t'])[k]? = some t := by
  have inside : k < tasks.length := (List.getElem?_eq_some_iff.1 here).1
  rw [List.getElem?_append_left inside]
  exact here

/-- One more task is among those that are counted. -/
theorem perm_filter_set {q : WriteTask → Bool} (here : tasks[k]? = some t) (before : q t = false)
    (after : q t' = true) : ((tasks.set k t').filter q).Perm (t' :: tasks.filter q) := by
  induction tasks generalizing k with
  | nil => cases here
  | cons first rest ih =>
    cases k with
    | zero =>
      cases here
      rw [List.set_cons_zero, List.filter_cons_of_pos after,
        List.filter_cons_of_neg (Bool.eq_false_iff.1 before)]
    | succ k =>
      have later := ih (k := k) here
      rw [List.set_cons_succ]
      cases chosen : q first with
      | true =>
        rw [List.filter_cons_of_pos chosen, List.filter_cons_of_pos chosen]
        exact (later.cons first).trans (.swap ..)
      | false =>
        rw [List.filter_cons_of_neg (Bool.eq_false_iff.1 chosen),
          List.filter_cons_of_neg (Bool.eq_false_iff.1 chosen)]
        exact later

/-- The tasks that are counted are the same. -/
theorem filter_set_eq {q : WriteTask → Bool} (here : tasks[k]? = some t) (before : q t = false)
    (after : q t' = false) : (tasks.set k t').filter q = tasks.filter q := by
  induction tasks generalizing k with
  | nil => cases here
  | cons first rest ih =>
    cases k with
    | zero =>
      cases here
      rw [List.set_cons_zero, List.filter_cons_of_neg (Bool.eq_false_iff.1 after),
        List.filter_cons_of_neg (Bool.eq_false_iff.1 before)]
    | succ k =>
      rw [List.set_cons_succ, List.filter_cons, List.filter_cons, ih (k := k) here]

end Change

/-- A write owns a connection, with the rest of its frame. -/
def Owns (tasks : List WriteTask) (k : Nat) (payload : Bytes) (c : Nat) (rest : Bytes) : Prop :=
  tasks[k]? = some ⟨payload, .writing c rest⟩

/-- Who owns a connection after a task was changed. -/
theorem Owns.of_set {tasks : List WriteTask} {k i c : Nat} {payload payload' rest : Bytes}
    {stage : WriteStage} (owns : Owns (tasks.set k ⟨payload, stage⟩) i payload' c rest) :
    (i = k ∧ payload' = payload ∧ stage = .writing c rest) ∨
      (i ≠ k ∧ Owns tasks i payload' c rest) := by
  rcases getElem?_set_cases owns with ⟨rfl, same⟩ | ⟨other, before⟩
  · cases same
    exact .inl ⟨rfl, rfl, rfl⟩
  · exact .inr ⟨other, before⟩

/-- Nobody owns a connection for a change to an idle stage. -/
theorem Owns.of_set_idle {tasks : List WriteTask} {k i c : Nat} {payload payload' rest : Bytes}
    {stage : WriteStage} (owns : Owns (tasks.set k ⟨payload, stage⟩) i payload' c rest)
    (idle : ∀ c rest, stage ≠ .writing c rest) : i ≠ k ∧ Owns tasks i payload' c rest := by
  rcases owns.of_set with ⟨-, -, writes⟩ | before
  · exact absurd writes (idle _ _)
  · exact before

theorem Owns.of_set_ended {tasks : List WriteTask} {k i c : Nat} {payload payload' rest : Bytes}
    {result : Except TransportError Unit}
    (owns : Owns (tasks.set k ⟨payload, .ended result⟩) i payload' c rest) :
    i ≠ k ∧ Owns tasks i payload' c rest := owns.of_set_idle fun _ _ eq => nomatch eq

theorem not_writing_of_isIdle {stage : WriteStage} (idle : stage.isIdle = true) (c : Nat)
    (rest : Bytes) : stage ≠ .writing c rest := by
  intro writes
  rw [writes] at idle
  cases idle

/-- Nobody owns a connection for a write that begins. -/
theorem Owns.of_append_idle {tasks : List WriteTask} {i c : Nat} {payload payload' rest : Bytes}
    {stage : WriteStage} (owns : Owns (tasks ++ [⟨payload, stage⟩]) i payload' c rest)
    (idle : stage.isIdle = true) : Owns tasks i payload' c rest := by
  rcases getElem?_concat_cases owns with new | old
  · cases new
    cases idle
  · exact old

/-- The frames that were sent over a connection, one behind the other. -/
def framesOver (frame : Bytes → Bytes) (sent : List SentFrame) (c : Nat) : Bytes :=
  ((sent.filter (·.connection == c)).map fun x => frame x.payload).flatten

theorem framesOver_append_self (frame : Bytes → Bytes) (sent : List SentFrame) (k c : Nat)
    (payload : Bytes) :
    framesOver frame (sent ++ [⟨k, payload, c⟩]) c = framesOver frame sent c ++ frame payload := by
  unfold framesOver
  rw [List.filter_append, List.filter_singleton, beq_self_eq_true, cond_true, List.map_append,
    List.flatten_append]
  exact congrArg (_ ++ ·) (List.append_nil _)

theorem framesOver_append_of_ne (frame : Bytes → Bytes) (sent : List SentFrame) (k : Nat)
    (payload : Bytes) {c c' : Nat} (other : c ≠ c') :
    framesOver frame (sent ++ [⟨k, payload, c'⟩]) c = framesOver frame sent c := by
  unfold framesOver
  have apart : (c' == c) = false := beq_eq_false_iff_ne.2 fun same => other same.symm
  rw [List.filter_append, List.filter_singleton, apart, cond_false, List.append_nil]

namespace Board

/-- A connection that is left was there before. -/
theorem mem_of_count_le {free before : List Nat} (fewer : ∀ c, free.count c ≤ before.count c)
    {c : Nat} (member : c ∈ free) : c ∈ before := by
  have left : 0 < free.count c := List.count_pos_iff.2 member
  have more : 0 < before.count c := Nat.lt_of_lt_of_le left (fewer c)
  exact List.count_pos_iff.1 more

theorem getElem?_modify_of_ne {streams : List Bytes} {c c' : Nat} (f : Bytes → Bytes)
    (other : c' ≠ c) : (streams.modify c f)[c']? = streams[c']? :=
  List.getElem?_modify_ne f streams fun same => other same.symm

variable {frame : Bytes → Bytes} {b b' : Board}

/-! ## 2. Moves -/

/-- What can happen on a board. -/
inductive Move (frame : Bytes → Bytes) (b : Board) : Board → Prop
  | begins (payload : Bytes) {stage : WriteStage} (idle : stage.isIdle = true) :
      Move frame b { b with tasks := b.tasks ++ [⟨payload, stage⟩] }
  | turns {k : Nat} {payload : Bytes} {stage stage' : WriteStage}
      (here : b.tasks[k]? = some ⟨payload, stage⟩) (idle : stage.isIdle = true)
      (idle' : stage'.isIdle = true) :
      Move frame b { b with tasks := b.tasks.set k ⟨payload, stage'⟩ }
  | opens :
      Move frame b { b with streams := b.streams ++ [[]], free := b.free ++ [b.streams.length] }
  | drops {free : List Nat} (fewer : ∀ c, free.count c ≤ b.free.count c) :
      Move frame b { b with free }
  | takes {k : Nat} {payload : Bytes} {stage : WriteStage} {c : Nat}
      (here : b.tasks[k]? = some ⟨payload, stage⟩) (idle : stage.isIdle = true)
      (free : c ∈ b.free) :
      Move frame b { b with
        free := b.free.erase c
        tasks := b.tasks.set k ⟨payload, .writing c (frame payload)⟩ }
  | puts {k : Nat} {payload : Bytes} {c : Nat} {part rest : Bytes}
      (owns : Owns b.tasks k payload c (part ++ rest)) :
      Move frame b { b with
        streams := b.streams.modify c (· ++ part)
        tasks := b.tasks.set k ⟨payload, .writing c rest⟩ }
  | completes {k : Nat} {payload : Bytes} {c : Nat} {rest : Bytes}
      (owns : Owns b.tasks k payload c rest) :
      Move frame b
        { streams := b.streams.modify c (· ++ rest)
          free := b.free ++ [c]
          tasks := b.tasks.set k ⟨payload, .ended (.ok ())⟩
          sent := b.sent ++ [⟨k, payload, c⟩]
          messages := b.messages + 1
          bytes := b.bytes + (frame payload).length }
  | fails {k : Nat} {payload : Bytes} {c : Nat} {part rest : Bytes} {e : TransportError}
      (owns : Owns b.tasks k payload c (part ++ rest)) :
      Move frame b { b with
        streams := b.streams.modify c (· ++ part)
        tasks := b.tasks.set k ⟨payload, .ended (.error e)⟩ }

/-- Moves, one after the other. -/
abbrev Moves (frame : Bytes → Bytes) : Board → Board → Prop := Relation.ReflTransGen (Move frame)

/-- Nothing has been opened and no write begun. -/
def fresh : Board := ⟨[], [], [], [], 0, 0⟩

/-! ## 3. Connections -/

/-- Nobody shares a connection, and on each are whole frames, with a part of one at most behind
them. -/
structure Shared (frame : Bytes → Bytes) (b : Board) : Prop where
  /-- No connection may be taken twice. -/
  once : ∀ c, b.free.count c ≤ 1
  /-- A connection that a write owns may not be taken. -/
  apart : ∀ {k payload c rest}, Owns b.tasks k payload c rest → c ∉ b.free
  /-- No two writes own the same connection. -/
  alone : ∀ {k payload c rest k' payload' rest'}, Owns b.tasks k payload c rest →
    Owns b.tasks k' payload' c rest' → k = k'
  /-- On a connection that may be taken are whole frames. -/
  whole : ∀ c ∈ b.free, b.streams[c]? = some (framesOver frame b.sent c)
  /-- A write that owns a connection has put there what is not in the rest of its frame. -/
  begun : ∀ {k payload c rest}, Owns b.tasks k payload c rest →
    ∃ part, part ++ rest = frame payload ∧
      b.streams[c]? = some (framesOver frame b.sent c ++ part)
  shape : ∀ c bytes, b.streams[c]? = some bytes →
    ∃ part, bytes = framesOver frame b.sent c ++ part ∧
      (part = [] ∨ ∃ t ∈ b.tasks, part <+: frame t.payload)

theorem shared_fresh : Shared frame fresh where
  once _ := Nat.zero_le 1
  apart owns := nomatch owns
  alone owns := nomatch owns
  whole _ member := nomatch member
  begun owns := nomatch owns
  shape _ _ at_c := nomatch at_c

/-- A change of a task loses no payload. -/
theorem exists_mem_set {tasks : List WriteTask} {k : Nat} {payload : Bytes}
    {stage stage' : WriteStage} (here : tasks[k]? = some ⟨payload, stage⟩) (t : WriteTask)
    (member : t ∈ tasks) : ∃ t' ∈ tasks.set k ⟨payload, stage'⟩, t'.payload = t.payload := by
  obtain ⟨i, at_i⟩ := List.mem_iff_getElem?.1 member
  by_cases same : i = k
  · subst same
    rw [here] at at_i
    cases at_i
    exact ⟨_, List.mem_of_getElem? (getElem?_set_self_of here), rfl⟩
  · exact ⟨t, List.mem_of_getElem? ((getElem?_set_of_ne same).trans at_i), rfl⟩

/-- What stands behind whole frames is still a part of one if no payload is lost. -/
theorem Shared.shape_of_tasks (h : Shared frame b) {tasks : List WriteTask}
    (payloads : ∀ t ∈ b.tasks, ∃ t' ∈ tasks, t'.payload = t.payload) (c : Nat) (bytes : Bytes)
    (at_c : b.streams[c]? = some bytes) :
    ∃ part, bytes = framesOver frame b.sent c ++ part ∧
      (part = [] ∨ ∃ t ∈ tasks, part <+: frame t.payload) := by
  obtain ⟨part, eq, nothing | ⟨t, member, cut⟩⟩ := h.shape c bytes at_c
  · exact ⟨part, eq, .inl nothing⟩
  · obtain ⟨t', member', same⟩ := payloads t member
    exact ⟨part, eq, .inr ⟨t', member', same ▸ cut⟩⟩

/-- Tasks that own no more connections than before, with the same payloads. -/
theorem Shared.of_tasks (h : Shared frame b) {tasks : List WriteTask}
    (owned : ∀ {k payload c rest}, Owns tasks k payload c rest → Owns b.tasks k payload c rest)
    (payloads : ∀ t ∈ b.tasks, ∃ t' ∈ tasks, t'.payload = t.payload) :
    Shared frame { b with tasks } where
  once := h.once
  apart owns := h.apart (owned owns)
  alone owns owns' := h.alone (owned owns) (owned owns')
  whole := h.whole
  begun owns := h.begun (owned owns)
  shape := h.shape_of_tasks payloads

/-- A connection is dropped: it may not be taken any more. -/
theorem Shared.drops (h : Shared frame b) {free : List Nat}
    (fewer : ∀ c, free.count c ≤ b.free.count c) : Shared frame { b with free } where
  once c := Nat.le_trans (fewer c) (h.once c)
  apart owns member := h.apart owns (mem_of_count_le fewer member)
  alone := h.alone
  whole c member := h.whole c (mem_of_count_le fewer member)
  begun := h.begun
  shape := h.shape

/-- What is there was opened. -/
theorem Shared.lt_of_mem (h : Shared frame b) {c : Nat} (member : c ∈ b.free) :
    c < b.streams.length := (List.getElem?_eq_some_iff.1 (h.whole c member)).1

theorem Shared.lt_of_owns (h : Shared frame b) {k c : Nat} {payload rest : Bytes}
    (owns : Owns b.tasks k payload c rest) : c < b.streams.length := by
  obtain ⟨part, -, at_c⟩ := h.begun owns
  exact (List.getElem?_eq_some_iff.1 at_c).1

/-- A connection that may be taken is not the one that a write owns. -/
theorem Shared.ne_of_mem (h : Shared frame b) {k c c' : Nat} {payload rest : Bytes}
    (owns : Owns b.tasks k payload c rest) (member : c' ∈ b.free) : c' ≠ c := by
  intro same
  rw [same] at member
  exact h.apart owns member

/-- The connection of another write is not the one that a write owns. -/
theorem Shared.ne_of_owns (h : Shared frame b) {k c i c' : Nat}
    {payload rest payload' rest' : Bytes} (owns : Owns b.tasks k payload c rest) (other : i ≠ k)
    (owns' : Owns b.tasks i payload' c' rest') : c' ≠ c := by
  intro same
  rw [same] at owns'
  exact other (h.alone owns' owns)

/-- No frame was sent over a connection that is not open. -/
theorem framesOver_of_le (placed : ∀ x ∈ b.sent, x.connection < b.streams.length) :
    framesOver frame b.sent b.streams.length = [] := by
  unfold framesOver
  have nothing : b.sent.filter (·.connection == b.streams.length) = [] := by
    refine List.filter_eq_nil_iff.2 fun x member same => ?_
    have inside := placed x member
    rw [beq_iff_eq.1 same] at inside
    exact Nat.lt_irrefl _ inside
  rw [nothing]
  rfl

theorem Shared.opens (h : Shared frame b)
    (placed : ∀ x ∈ b.sent, x.connection < b.streams.length) :
    Shared frame
      { b with streams := b.streams ++ [[]], free := b.free ++ [b.streams.length] } where
  once c := by
    show (b.free ++ [b.streams.length]).count c ≤ 1
    rw [List.count_append, List.count_singleton]
    split
    · rename_i same
      have new : c ∉ b.free := fun member => by
        have old := h.lt_of_mem member
        rw [beq_iff_eq.1 same] at old
        exact Nat.lt_irrefl _ old
      have absent := List.count_eq_zero_of_not_mem new
      omega
    · exact h.once c
  apart owns member := by
    rcases List.mem_append.1 member with before | new
    · exact h.apart owns before
    · have old := h.lt_of_owns owns
      rw [List.mem_singleton.1 new] at old
      exact Nat.lt_irrefl _ old
  alone := h.alone
  whole c member := by
    rcases List.mem_append.1 member with before | new
    · exact (List.getElem?_append_left (h.lt_of_mem before)).trans (h.whole c before)
    · rw [List.mem_singleton.1 new]
      show (b.streams ++ [[]])[b.streams.length]? = some (framesOver frame b.sent b.streams.length)
      rw [List.getElem?_concat_length, framesOver_of_le placed]
  begun owns := by
    obtain ⟨part, eq, at_c⟩ := h.begun owns
    exact ⟨part, eq, (List.getElem?_append_left (h.lt_of_owns owns)).trans at_c⟩
  shape c bytes at_c := by
    by_cases old : c < b.streams.length
    · exact h.shape c bytes ((List.getElem?_append_left old).symm.trans at_c)
    · have inside := (List.getElem?_eq_some_iff.1 at_c).1
      rw [List.length_append, List.length_singleton] at inside
      have new : c = b.streams.length := by omega
      subst new
      have empty : some [] = some bytes := List.getElem?_concat_length.symm.trans at_c
      cases empty
      exact ⟨[], by rw [framesOver_of_le placed]; rfl, .inl rfl⟩

/-- A write takes a connection. -/
theorem Shared.takes (h : Shared frame b) {k c : Nat} {payload : Bytes} {stage : WriteStage}
    (here : b.tasks[k]? = some ⟨payload, stage⟩) (free : c ∈ b.free) :
    Shared frame { b with
      free := b.free.erase c
      tasks := b.tasks.set k ⟨payload, .writing c (frame payload)⟩ } where
  once c' := Nat.le_trans (List.erase_sublist.count_le c') (h.once c')
  apart {i payload' c' rest} owns member := by
    rcases owns.of_set with ⟨-, -, writes⟩ | ⟨-, before⟩
    · cases writes
      have left : 0 < (b.free.erase c).count c := List.count_pos_iff.2 member
      have once := h.once c
      rw [List.count_erase_self] at left
      omega
    · exact h.apart before (List.mem_of_mem_erase member)
  alone owns owns' := by
    rcases owns.of_set with ⟨rfl, -, writes⟩ | ⟨-, before⟩ <;>
      rcases owns'.of_set with ⟨rfl, -, writes'⟩ | ⟨-, before'⟩
    · rfl
    · cases writes
      exact absurd free (h.apart before')
    · cases writes'
      exact absurd free (h.apart before)
    · exact h.alone before before'
  whole c' member := h.whole c' (List.mem_of_mem_erase member)
  begun owns := by
    rcases owns.of_set with ⟨-, rfl, writes⟩ | ⟨-, before⟩
    · cases writes
      exact ⟨[], rfl, (h.whole c free).trans (congrArg some (List.append_nil _).symm)⟩
    · exact h.begun before
  shape := h.shape_of_tasks (exists_mem_set here)

/-- Bytes are put on a connection by the write that owns it. -/
theorem Shared.streams_of_owns (h : Shared frame b) {k c : Nat} {payload part rest : Bytes}
    (owns : Owns b.tasks k payload c (part ++ rest)) :
    ∃ before, before ++ part ++ rest = frame payload ∧
      (b.streams.modify c (· ++ part))[c]? =
        some (framesOver frame b.sent c ++ (before ++ part)) := by
  obtain ⟨before, eq, at_c⟩ := h.begun owns
  refine ⟨before, (List.append_assoc ..).trans eq, ?_⟩
  rw [List.getElem?_modify_eq, at_c, ← List.append_assoc]
  rfl

/-- On other connections it changes nothing: not on those that may be taken, -/
theorem Shared.whole_modify (h : Shared frame b) {k c : Nat} {payload rest : Bytes}
    (owns : Owns b.tasks k payload c rest) (f : Bytes → Bytes) (c' : Nat) (member : c' ∈ b.free) :
    (b.streams.modify c f)[c']? = some (framesOver frame b.sent c') := by
  rw [getElem?_modify_of_ne f (h.ne_of_mem owns member)]
  exact h.whole c' member

/-- and not on those of other writes. -/
theorem Shared.begun_modify (h : Shared frame b) {k c i c' : Nat}
    {payload rest payload' rest' : Bytes} (owns : Owns b.tasks k payload c rest)
    (f : Bytes → Bytes) (other : i ≠ k) (owns' : Owns b.tasks i payload' c' rest') :
    ∃ part, part ++ rest' = frame payload' ∧
      (b.streams.modify c f)[c']? = some (framesOver frame b.sent c' ++ part) := by
  obtain ⟨part, eq, at_c⟩ := h.begun owns'
  refine ⟨part, eq, ?_⟩
  rw [getElem?_modify_of_ne f (h.ne_of_owns owns other owns')]
  exact at_c

/-- What the bytes of one write leave on every connection. -/
theorem Shared.shape_of_owns (h : Shared frame b) {k c : Nat} {payload part rest : Bytes}
    {stage : WriteStage} (owns : Owns b.tasks k payload c (part ++ rest)) (c' : Nat)
    (bytes : Bytes) (at_c : (b.streams.modify c (· ++ part))[c']? = some bytes) :
    ∃ part', bytes = framesOver frame b.sent c' ++ part' ∧
      (part' = [] ∨ ∃ t ∈ b.tasks.set k ⟨payload, stage⟩, part' <+: frame t.payload) := by
  by_cases same : c' = c
  · subst same
    obtain ⟨before, eq, put⟩ := h.streams_of_owns owns
    rw [put] at at_c
    cases at_c
    exact ⟨before ++ part, rfl, .inr
      ⟨_, List.mem_of_getElem? (getElem?_set_self_of owns), eq ▸ List.prefix_append _ _⟩⟩
  · rw [getElem?_modify_of_ne _ same] at at_c
    exact h.shape_of_tasks (exists_mem_set owns) c' bytes at_c

theorem Shared.puts (h : Shared frame b) {k c : Nat} {payload part rest : Bytes}
    (owns : Owns b.tasks k payload c (part ++ rest)) :
    Shared frame { b with
      streams := b.streams.modify c (· ++ part)
      tasks := b.tasks.set k ⟨payload, .writing c rest⟩ } where
  once := h.once
  apart owns' := by
    rcases owns'.of_set with ⟨-, -, writes⟩ | ⟨-, before⟩
    · cases writes
      exact h.apart owns
    · exact h.apart before
  alone owns₁ owns₂ := by
    rcases owns₁.of_set with ⟨rfl, -, writes₁⟩ | ⟨-, before₁⟩ <;>
      rcases owns₂.of_set with ⟨rfl, -, writes₂⟩ | ⟨-, before₂⟩
    · rfl
    · cases writes₁
      exact h.alone owns before₂
    · cases writes₂
      exact h.alone before₁ owns
    · exact h.alone before₁ before₂
  whole := h.whole_modify owns _
  begun owns' := by
    rcases owns'.of_set with ⟨-, rfl, writes⟩ | ⟨other, before⟩
    · cases writes
      obtain ⟨before, eq, put⟩ := h.streams_of_owns owns
      exact ⟨before ++ part, eq, put⟩
    · exact h.begun_modify owns _ other before
  shape := h.shape_of_owns owns

/-- A write has failed: nobody owns its connection, and nobody may take it. -/
theorem Shared.fails (h : Shared frame b) {k c : Nat} {payload part rest : Bytes}
    (owns : Owns b.tasks k payload c (part ++ rest)) (e : TransportError) :
    Shared frame { b with
      streams := b.streams.modify c (· ++ part)
      tasks := b.tasks.set k ⟨payload, .ended (.error e)⟩ } where
  once := h.once
  apart owns' := h.apart owns'.of_set_ended.2
  alone owns₁ owns₂ := h.alone owns₁.of_set_ended.2 owns₂.of_set_ended.2
  whole := h.whole_modify owns _
  begun owns' := by
    obtain ⟨other, before⟩ := owns'.of_set_ended
    exact h.begun_modify owns _ other before
  shape := h.shape_of_owns owns

/-- A write has put its whole frame on its connection, which may be taken again. -/
theorem Shared.completes (h : Shared frame b) {k c : Nat} {payload rest : Bytes}
    (owns : Owns b.tasks k payload c rest) (messages bytes : Nat) :
    Shared frame
      { streams := b.streams.modify c (· ++ rest)
        free := b.free ++ [c]
        tasks := b.tasks.set k ⟨payload, .ended (.ok ())⟩
        sent := b.sent ++ [⟨k, payload, c⟩]
        messages
        bytes } := by
  have put : (b.streams.modify c (· ++ rest))[c]? =
      some (framesOver frame (b.sent ++ [⟨k, payload, c⟩]) c) := by
    obtain ⟨before, eq, at_c⟩ := h.begun owns
    rw [List.getElem?_modify_eq, at_c, framesOver_append_self, ← eq, ← List.append_assoc]
    rfl
  have same_frames : ∀ {c' : Nat}, c' ≠ c →
      framesOver frame (b.sent ++ [⟨k, payload, c⟩]) c' = framesOver frame b.sent c' :=
    fun other => framesOver_append_of_ne frame b.sent k payload other
  constructor
  case once =>
    intro c'
    show (b.free ++ [c]).count c' ≤ 1
    rw [List.count_append, List.count_singleton]
    split
    · rename_i same
      have absent := List.count_eq_zero_of_not_mem (h.apart owns)
      rw [← beq_iff_eq.1 same]
      omega
    · exact h.once c'
  case apart =>
    intro i payload' c' rest' owns' member
    obtain ⟨other, before⟩ := owns'.of_set_ended
    rcases List.mem_append.1 member with old | new
    · exact h.apart before old
    · exact h.ne_of_owns owns other before (List.mem_singleton.1 new)
  case alone =>
    intro k₁ payload₁ c' rest₁ k₂ payload₂ rest₂ owns₁ owns₂
    exact h.alone owns₁.of_set_ended.2 owns₂.of_set_ended.2
  case whole =>
    intro c' member
    rcases List.mem_append.1 member with old | new
    · show _ = some (framesOver frame (_ ++ _) c')
      rw [same_frames (h.ne_of_mem owns old)]
      exact h.whole_modify owns _ c' old
    · rw [List.mem_singleton.1 new]
      exact put
  case begun =>
    intro i payload' c' rest' owns'
    obtain ⟨other, before⟩ := owns'.of_set_ended
    show ∃ part, _ ∧ _ = some (framesOver frame (_ ++ _) c' ++ part)
    rw [same_frames (h.ne_of_owns owns other before)]
    exact h.begun_modify owns _ other before
  case shape =>
    intro c' bytes' at_c
    by_cases same : c' = c
    · subst same
      cases put.symm.trans at_c
      exact ⟨[], (List.append_nil _).symm, .inl rfl⟩
    · show ∃ part, bytes' = framesOver frame (_ ++ _) c' ++ part ∧ _
      rw [same_frames same]
      have before : b.streams[c']? = some bytes' :=
        (getElem?_modify_of_ne _ same).symm.trans at_c
      exact h.shape_of_tasks (exists_mem_set owns) c' bytes' before

/-! ## 4. Counts -/

/-- A write that has succeeded has sent its frame once, and was counted once. -/
structure Counted (frame : Bytes → Bytes) (b : Board) : Prop where
  succeeded : ∀ k payload, b.tasks[k]? = some ⟨payload, .ended (.ok ())⟩ ↔
    ∃ c, SentFrame.mk k payload c ∈ b.sent
  distinct : (b.sent.map (·.writer)).Nodup
  placed : ∀ x ∈ b.sent, x.connection < b.streams.length
  messages : b.messages = (b.tasks.filter WriteTask.isSent).length
  bytes : b.bytes = ((b.tasks.filter WriteTask.isSent).map fun t => (frame t.payload).length).sum

theorem counted_fresh : Counted frame fresh where
  succeeded _ _ := ⟨fun at_k => (nomatch at_k), fun ⟨_, member⟩ => (nomatch member)⟩
  distinct := .nil
  placed _ member := nomatch member
  messages := rfl
  bytes := rfl

/-- What does not change the tasks that have succeeded changes no count. -/
theorem Counted.of_tasks (h : Counted frame b) {streams : List Bytes} {free : List Nat}
    {tasks : List WriteTask} (length : b.streams.length ≤ streams.length)
    (sent : tasks.filter WriteTask.isSent = b.tasks.filter WriteTask.isSent)
    (succeeded : ∀ (k : Nat) (payload : Bytes), tasks[k]? = some ⟨payload, .ended (.ok ())⟩ ↔
      b.tasks[k]? = some ⟨payload, .ended (.ok ())⟩) :
    Counted frame { b with streams, free, tasks } where
  succeeded k payload := (succeeded k payload).trans (h.succeeded k payload)
  distinct := h.distinct
  placed x member := Nat.lt_of_lt_of_le (h.placed x member) length
  messages := h.messages.trans (congrArg List.length sent.symm)
  bytes := by
    show b.bytes = ((tasks.filter WriteTask.isSent).map _).sum
    rw [sent]
    exact h.bytes

/-- A task that has not succeeded changes, and has still not. -/
theorem Counted.set (h : Counted frame b) {streams : List Bytes} {free : List Nat} {k : Nat}
    {payload : Bytes} {stage stage' : WriteStage}
    (length : b.streams.length ≤ streams.length) (here : b.tasks[k]? = some ⟨payload, stage⟩)
    (before : (WriteTask.mk payload stage).isSent = false)
    (after : (WriteTask.mk payload stage').isSent = false) :
    Counted frame { b with streams, free, tasks := b.tasks.set k ⟨payload, stage'⟩ } := by
  refine h.of_tasks length (filter_set_eq here before after) fun i payload' => ?_
  by_cases same : i = k
  · subst same
    rw [getElem?_set_self_of here, here]
    refine iff_of_false (fun eq => ?_) fun eq => ?_
    · cases eq
      cases after
    · cases eq
      cases before
  · rw [getElem?_set_of_ne same]

theorem Counted.begins (h : Counted frame b) {payload : Bytes} {stage : WriteStage}
    (unsent : (WriteTask.mk payload stage).isSent = false) :
    Counted frame { b with tasks := b.tasks ++ [⟨payload, stage⟩] } := by
  refine h.of_tasks (Nat.le_refl _) ?_ fun k payload' => ?_
  · rw [List.filter_append, List.filter_cons_of_neg (Bool.eq_false_iff.1 unsent), List.filter_nil,
      List.append_nil]
  · constructor
    · intro sent
      rcases getElem?_concat_cases sent with new | old
      · cases new
        cases unsent
      · exact old
    · exact getElem?_concat_of

theorem isSent_of_isIdle {payload : Bytes} {stage : WriteStage} (idle : stage.isIdle = true) :
    (WriteTask.mk payload stage).isSent = false := by
  cases stage with
  | waiting | admitted | dialing | writing _ _ => rfl
  | ended result =>
    cases result with
    | ok _ => cases idle
    | error e => rfl

/-- A write that owns a connection has not succeeded before. -/
theorem Counted.unsent_of_owns (h : Counted frame b) {k c : Nat} {payload rest : Bytes}
    (owns : Owns b.tasks k payload c rest) (x : SentFrame) (member : x ∈ b.sent) :
    x.writer ≠ k := by
  intro same
  have sent := (h.succeeded x.writer x.payload).2 ⟨x.connection, member⟩
  rw [same, show b.tasks[k]? = _ from owns] at sent
  cases sent

theorem Counted.completes (h : Counted frame b) {k c : Nat} {payload rest : Bytes}
    (owns : Owns b.tasks k payload c rest) (open_ : c < b.streams.length) (free : List Nat) :
    Counted frame
      { streams := b.streams.modify c (· ++ rest)
        free
        tasks := b.tasks.set k ⟨payload, .ended (.ok ())⟩
        sent := b.sent ++ [⟨k, payload, c⟩]
        messages := b.messages + 1
        bytes := b.bytes + (frame payload).length } := by
  have new : ((b.tasks.set k ⟨payload, .ended (.ok ())⟩).filter WriteTask.isSent).Perm
      (⟨payload, .ended (.ok ())⟩ :: b.tasks.filter WriteTask.isSent) :=
    perm_filter_set owns rfl rfl
  constructor
  case succeeded =>
    intro i payload'
    show (b.tasks.set k _)[i]? = _ ↔ ∃ c', _ ∈ b.sent ++ [_]
    simp only [List.mem_append, List.mem_singleton, SentFrame.mk.injEq]
    by_cases same : i = k
    · subst same
      rw [getElem?_set_self_of owns]
      constructor
      · intro eq
        cases eq
        exact ⟨c, .inr ⟨rfl, rfl, rfl⟩⟩
      · rintro ⟨c', old | ⟨-, rfl, -⟩⟩
        · exact absurd rfl (h.unsent_of_owns owns _ old)
        · rfl
    · rw [getElem?_set_of_ne same, h.succeeded]
      constructor
      · rintro ⟨c', old⟩
        exact ⟨c', .inl old⟩
      · rintro ⟨c', old | ⟨eq, -, -⟩⟩
        · exact ⟨c', old⟩
        · exact absurd eq same
  case distinct =>
    show ((b.sent ++ [SentFrame.mk k payload c]).map SentFrame.writer).Nodup
    rw [List.map_append, List.map_singleton]
    refine List.nodup_append.2 ⟨h.distinct, List.nodup_singleton k, ?_⟩
    intro i old j last same
    obtain ⟨x, member, writer⟩ := List.mem_map.1 old
    have other : x.writer ≠ k := h.unsent_of_owns owns x member
    rw [List.mem_singleton.1 last] at same
    exact other (writer.trans same)
  case placed =>
    intro x member
    show x.connection < (b.streams.modify c _).length
    rw [List.length_modify]
    rcases List.mem_append.1 member with old | new
    · exact h.placed x old
    · rw [List.mem_singleton.1 new]
      exact open_
  case messages =>
    show b.messages + 1 = ((b.tasks.set k _).filter _).length
    rw [new.length_eq, List.length_cons, h.messages]
  case bytes =>
    show b.bytes + _ = (((b.tasks.set k _).filter _).map _).sum
    rw [(new.map _).sum_nat, List.map_cons, List.sum_cons, h.bytes, Nat.add_comm]

/-! ## 5. Runs of moves -/

/-- **What no move changes.** -/
theorem sound_move (move : Move frame b b') (h : Shared frame b ∧ Counted frame b) :
    Shared frame b' ∧ Counted frame b' := by
  obtain ⟨shared, counted⟩ := h
  have same_length : ∀ {c part}, b.streams.length ≤ (b.streams.modify c (· ++ part)).length :=
    Nat.le_of_eq (List.length_modify ..).symm
  cases move with
  | begins payload idle =>
    exact ⟨shared.of_tasks (fun owns => owns.of_append_idle idle) fun t member =>
      ⟨t, List.mem_append_left _ member, rfl⟩, counted.begins (isSent_of_isIdle idle)⟩
  | @turns k payload stage stage' here idle idle' =>
    have owned : ∀ {i payload' c rest}, Owns (b.tasks.set k ⟨payload, stage'⟩) i payload' c rest →
        Owns b.tasks i payload' c rest :=
      fun owns => (owns.of_set_idle (not_writing_of_isIdle idle')).2
    exact ⟨shared.of_tasks owned (exists_mem_set here),
      counted.set (Nat.le_refl _) here (isSent_of_isIdle idle) (isSent_of_isIdle idle')⟩
  | opens =>
    refine ⟨shared.opens counted.placed, counted.of_tasks ?_ rfl fun _ _ => .rfl⟩
    rw [List.length_append]
    exact Nat.le_add_right _ _
  | drops fewer =>
    exact ⟨shared.drops fewer, counted.of_tasks (Nat.le_refl _) rfl fun _ _ => .rfl⟩
  | takes here idle free =>
    exact ⟨shared.takes here free, counted.set (Nat.le_refl _) here (isSent_of_isIdle idle) rfl⟩
  | puts owns => exact ⟨shared.puts owns, counted.set same_length owns rfl rfl⟩
  | completes owns =>
    exact ⟨shared.completes owns _ _, counted.completes owns (shared.lt_of_owns owns) _⟩
  | fails owns => exact ⟨shared.fails owns _, counted.set same_length owns rfl rfl⟩

/-- **What moves make of a fresh board.** -/
theorem Moves.sound (moves : Moves frame fresh b) : Shared frame b ∧ Counted frame b := by
  induction moves with
  | refl => exact ⟨shared_fresh, counted_fresh⟩
  | tail _ last ih => exact sound_move last ih

/-! ## 6. Lost connections -/

/-- An open connection that nobody owns and nobody may take. -/
structure Lost (b : Board) (c : Nat) : Prop where
  opened : c < b.streams.length
  away : c ∉ b.free
  unowned : ∀ k payload rest, ¬ Owns b.tasks k payload c rest

/-- **Nothing is written on a lost connection**, and it stays lost. -/
theorem Lost.move (move : Move frame b b') {c : Nat} (lost : Lost b c) :
    Lost b' c ∧ b'.streams[c]? = b.streams[c]? := by
  obtain ⟨opened, away, unowned⟩ := lost
  have elsewhere : ∀ {k payload c' rest}, Owns b.tasks k payload c' rest → c ≠ c' :=
    fun owns same => unowned _ _ _ (same ▸ owns)
  have same_length : ∀ {c' part}, c < (b.streams.modify c' (· ++ part)).length := by
    intro c' part
    rw [List.length_modify]
    exact opened
  cases move with
  | begins payload idle =>
    exact ⟨⟨opened, away, fun i payload' rest owns =>
      unowned _ _ _ (owns.of_append_idle idle)⟩, rfl⟩
  | turns here idle idle' =>
    exact ⟨⟨opened, away, fun i payload' rest owns =>
      unowned _ _ _ (owns.of_set_idle (not_writing_of_isIdle idle')).2⟩, rfl⟩
  | opens =>
    refine ⟨⟨?_, fun member => ?_, unowned⟩, List.getElem?_append_left opened⟩
    · rw [List.length_append]
      exact Nat.lt_add_right _ opened
    · rcases List.mem_append.1 member with old | new
      · exact away old
      · rw [List.mem_singleton.1 new] at opened
        exact Nat.lt_irrefl _ opened
  | drops fewer =>
    exact ⟨⟨opened, fun member => away (mem_of_count_le fewer member), unowned⟩, rfl⟩
  | takes here idle free =>
    refine ⟨⟨opened, fun member => away (List.mem_of_mem_erase member), fun i payload' rest owns =>
      ?_⟩, rfl⟩
    rcases owns.of_set with ⟨-, -, writes⟩ | ⟨-, before⟩
    · cases writes
      exact away free
    · exact unowned _ _ _ before
  | puts owns =>
    refine ⟨⟨same_length, away, fun i payload' rest owns' => ?_⟩,
      getElem?_modify_of_ne _ (elsewhere owns)⟩
    rcases owns'.of_set with ⟨-, -, writes⟩ | ⟨-, before⟩
    · cases writes
      exact elsewhere owns rfl
    · exact unowned _ _ _ before
  | completes owns =>
    refine ⟨⟨same_length, fun member => ?_, fun i payload' rest owns' => ?_⟩,
      getElem?_modify_of_ne _ (elsewhere owns)⟩
    · rcases List.mem_append.1 member with old | new
      · exact away old
      · exact elsewhere owns (List.mem_singleton.1 new)
    · exact unowned _ _ _ owns'.of_set_ended.2
  | fails owns =>
    refine ⟨⟨same_length, away, fun i payload' rest owns' => ?_⟩,
      getElem?_modify_of_ne _ (elsewhere owns)⟩
    exact unowned _ _ _ owns'.of_set_ended.2

theorem Moves.lost (moves : Moves frame b b') {c : Nat} (lost : Lost b c) :
    Lost b' c ∧ b'.streams[c]? = b.streams[c]? := by
  induction moves with
  | refl => exact ⟨lost, rfl⟩
  | tail _ last ih =>
    obtain ⟨before, same⟩ := ih
    obtain ⟨after, same'⟩ := before.move last
    exact ⟨after, same'.trans same⟩

/-- A connection on which a write fails is lost. -/
theorem Shared.lost_of_fails (h : Shared frame b) {k c : Nat} {payload rest part : Bytes}
    {e : TransportError} (owns : Owns b.tasks k payload c rest) :
    Lost { b with
      streams := b.streams.modify c (· ++ part)
      tasks := b.tasks.set k ⟨payload, .ended (.error e)⟩ } c where
  opened := by
    show c < (b.streams.modify c _).length
    rw [List.length_modify]
    exact h.lt_of_owns owns
  away := h.apart owns
  unowned i payload' rest' owns' := by
    obtain ⟨other, before⟩ := owns'.of_set_ended
    exact other (h.alone before owns)

/-- How a write goes on that owned a connection once. -/
def Followed (b : Board) (k : Nat) (payload : Bytes) (c : Nat) : Prop :=
  (∃ rest, Owns b.tasks k payload c rest) ∨ Lost b c ∨
    b.tasks[k]? = some ⟨payload, .ended (.ok ())⟩

/-- It keeps its connection until it has succeeded, or until its connection is lost. -/
theorem Followed.move (h : Shared frame b) (move : Move frame b b') {k c : Nat} {payload : Bytes}
    (followed : Followed b k payload c) : Followed b' k payload c := by
  -- a task that is not idle is changed only by a move of its own
  have stays : ∀ {t : WriteTask}, b.tasks[k]? = some t → t.stage.isIdle = false →
      ∀ {k' : Nat} {t' t'' : WriteTask}, b.tasks[k']? = some t' → t'.stage.isIdle = true →
        (b.tasks.set k' t'')[k]? = some t := by
    intro t at_k busy k' t' t'' here idle
    refine (getElem?_set_of_ne fun same => ?_).trans at_k
    rw [← same, at_k] at here
    cases here
    rw [busy] at idle
    cases idle
  rcases followed with ⟨rest, owns⟩ | lost | sent
  · cases move with
    | begins payload' idle => exact .inl ⟨rest, getElem?_concat_of owns⟩
    | turns here idle idle' => exact .inl ⟨rest, stays owns rfl here idle⟩
    | opens => exact .inl ⟨rest, owns⟩
    | drops fewer => exact .inl ⟨rest, owns⟩
    | takes here idle free => exact .inl ⟨rest, stays owns rfl here idle⟩
    | @puts k' payload' c' part rest' owns' =>
      by_cases same : k = k'
      · subst same
        cases owns.symm.trans owns'
        exact .inl ⟨rest', getElem?_set_self_of owns⟩
      · exact .inl ⟨rest, (getElem?_set_of_ne same).trans owns⟩
    | @completes k' payload' c' rest' owns' =>
      by_cases same : k = k'
      · subst same
        cases owns.symm.trans owns'
        exact .inr (.inr (getElem?_set_self_of owns))
      · exact .inl ⟨rest, (getElem?_set_of_ne same).trans owns⟩
    | @fails k' payload' c' part rest' e owns' =>
      by_cases same : k = k'
      · subst same
        cases owns.symm.trans owns'
        exact .inr (.inl (h.lost_of_fails owns))
      · exact .inl ⟨rest, (getElem?_set_of_ne same).trans owns⟩
  · exact .inr (.inl (lost.move move).1)
  · refine .inr (.inr ?_)
    cases move with
    | begins payload' idle => exact getElem?_concat_of sent
    | turns here idle idle' => exact stays sent rfl here idle
    | opens => exact sent
    | drops fewer => exact sent
    | takes here idle free => exact stays sent rfl here idle
    | puts owns | completes owns | fails owns =>
      refine (getElem?_set_of_ne fun same => ?_).trans sent
      cases (same ▸ sent).symm.trans owns

theorem Moves.followed (moves : Moves frame b b') (shared : Shared frame b)
    (counted : Counted frame b) {k c : Nat} {payload : Bytes}
    (followed : Followed b k payload c) : Followed b' k payload c := by
  have along : (Shared frame b' ∧ Counted frame b') ∧ Followed b' k payload c := by
    induction moves with
    | refl => exact ⟨⟨shared, counted⟩, followed⟩
    | tail _ last ih => exact ⟨sound_move last ih.1, ih.2.move ih.1.1 last⟩
  exact along.2

/-! ## 7. What is on the wire -/

end Board

end Syslog

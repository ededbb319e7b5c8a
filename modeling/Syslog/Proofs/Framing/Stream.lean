import Syslog.Framing.Delimited
import Syslog.Proofs.Search

/-!
# A stream is cut the same however it comes

A decoder sees a stream in chunks and is asked for messages between them, as often as one likes.
What it gives depends on neither: it gives what the whole stream brings.

* `Cut`: a stream cut at its leftmost delimiters, none of which overlaps another; `pieces` computes
  it (`cut_iff_pieces`);
* `pieceFrame`, `restFrame`: what a piece before a delimiter brings, and what is left at the end;
* `Holds`: what a decoder knows of the bytes that it has not given. Either it has all of them, or it
  has dropped some of a message that is over the limit already;
* `next_of_some`, `next_of_none`, `finish_of_some`, `finish_of_none`: one request;
* `session_frames`: all requests of a session.
-/

namespace Syslog.Framing

/-! ## 1. What a whole stream brings -/

/-- A stream cut at its leftmost delimiters: the pieces before them, and what is left. -/
inductive Cut (delimiter : Bytes) : Bytes → List Bytes → Bytes → Prop where
  | rest {stream : Bytes} (without : ¬ delimiter <:+: stream) : Cut delimiter stream [] stream
  | piece {piece stream : Bytes} {pieces : List Bytes} {rest : Bytes}
      (leftmost : ∀ j < piece.length, ¬ delimiter <+: (piece ++ delimiter ++ stream).drop j)
      (more : Cut delimiter stream pieces rest) :
      Cut delimiter (piece ++ delimiter ++ stream) (piece :: pieces) rest

/-- The pieces of a stream before its delimiters, and what is left. -/
def pieces (f : Framing) (stream : Bytes) : List Bytes × Bytes :=
  match _h : Search.firstIndex? f.delimiter stream with
  | some i =>
    let (pieces, rest) := f.pieces (stream.drop (i + f.delimiter.length))
    (stream.take i :: pieces, rest)
  | none => ([], stream)
termination_by stream.length
decreasing_by
  have := Search.length_of_firstIndex? f.delimiter_ne_nil _h
  have := List.length_pos_iff.2 f.delimiter_ne_nil
  rw [List.length_drop]
  omega

/-- What a piece before a delimiter brings. -/
def pieceFrame (f : Framing) (piece : Bytes) : Frame :=
  if piece.length > f.maxSize then .tooLong piece.length else .line (Bytes.dropReturn piece)

/-- What is left at the end of a stream brings a message if there is any byte of it. Here the limit
is for the message without its carriage return, unless it is over it by a delimiter. -/
def restFrame (f : Framing) (rest : Bytes) : Option Frame :=
  if rest = [] then none
  else if rest.length > f.maxSize + f.delimiter.length - 1 then some (.tooLong rest.length)
  else if (Bytes.dropReturn rest).length > f.maxSize then
    some (.tooLong (Bytes.dropReturn rest).length)
  else some (.line (Bytes.dropReturn rest))

/-- What a whole stream brings. -/
def framesOf (f : Framing) (stream : Bytes) : List Frame :=
  (f.pieces stream).1.map f.pieceFrame ++ (f.restFrame (f.pieces stream).2).toList

variable {f : Framing}

theorem pieces_of_some {stream : Bytes} {i : Nat}
    (h : Search.firstIndex? f.delimiter stream = some i) :
    f.pieces stream =
      (stream.take i :: (f.pieces (stream.drop (i + f.delimiter.length))).1,
        (f.pieces (stream.drop (i + f.delimiter.length))).2) := by
  rw [pieces.eq_def]
  split
  · rename_i j hj
    rw [h] at hj
    cases hj
    rfl
  · rename_i hn
    rw [h] at hn
    cases hn

theorem pieces_of_none {stream : Bytes} (h : Search.firstIndex? f.delimiter stream = none) :
    f.pieces stream = ([], stream) := by
  rw [pieces.eq_def]
  split
  · rename_i j hj
    rw [h] at hj
    cases hj
  · rfl

/-- A piece before the leftmost delimiter ends where that delimiter stands. -/
theorem firstIndex?_piece {piece stream : Bytes}
    (leftmost : ∀ j < piece.length, ¬ f.delimiter <+: (piece ++ f.delimiter ++ stream).drop j) :
    Search.firstIndex? f.delimiter (piece ++ f.delimiter ++ stream) = some piece.length := by
  refine Search.firstIndex?_eq_some_iff.2 ⟨?_, leftmost⟩
  rw [List.append_assoc, List.drop_left]
  exact List.prefix_append _ _

/-- **The pieces are those between the leftmost delimiters.** -/
theorem cut_iff_pieces {stream : Bytes} {ps : List Bytes} {rest : Bytes} :
    Cut f.delimiter stream ps rest ↔ f.pieces stream = (ps, rest) := by
  constructor
  · intro cut
    induction cut with
    | rest without => exact pieces_of_none (Search.firstIndex?_eq_none_iff_infix.2 without)
    | piece leftmost more ih =>
      rename_i piece stream ps rest
      rw [pieces_of_some (firstIndex?_piece leftmost), ← List.length_append, List.drop_left, ih,
        List.append_assoc, List.take_left]
  · intro h
    induction hn : stream.length using Nat.strongRecOn generalizing stream ps rest with
    | ind n ih =>
      subst hn
      cases found : Search.firstIndex? f.delimiter stream with
      | none =>
        rw [pieces_of_none found] at h
        cases h
        exact .rest (Search.firstIndex?_eq_none_iff_infix.1 found)
      | some i =>
        rw [pieces_of_some found] at h
        cases h
        have inside := Search.length_of_firstIndex? f.delimiter_ne_nil found
        have width := List.length_pos_iff.2 f.delimiter_ne_nil
        obtain ⟨⟨after, place⟩, left⟩ := Search.firstIndex?_eq_some_iff.1 found
        have split : stream = stream.take i ++ f.delimiter ++ after := by
          rw [List.append_assoc, place, List.take_append_drop]
        have rest : stream.drop (i + f.delimiter.length) = after := by
          rw [← List.drop_drop, ← place, List.drop_left]
        have size : (stream.take i).length = i := by
          rw [List.length_take]
          omega
        have more := ih (stream.drop (i + f.delimiter.length)).length
          (by rw [List.length_drop]; omega) rfl rfl
        rw [rest] at more ⊢
        have leftmost : ∀ j < (stream.take i).length,
            ¬ f.delimiter <+: (stream.take i ++ f.delimiter ++ after).drop j := by
          rw [← split, size]
          exact left
        have cut := Cut.piece leftmost more
        rwa [← split] at cut

theorem framesOf_of_some {stream : Bytes} {i : Nat}
    (h : Search.firstIndex? f.delimiter stream = some i) :
    f.framesOf stream =
      f.pieceFrame (stream.take i) :: f.framesOf (stream.drop (i + f.delimiter.length)) := by
  simp only [framesOf, pieces_of_some h, List.map_cons, List.cons_append]

theorem framesOf_of_none {stream : Bytes} (h : Search.firstIndex? f.delimiter stream = none) :
    f.framesOf stream = (f.restFrame stream).toList := by
  simp only [framesOf, pieces_of_none h, List.map_nil, List.nil_append]

theorem firstIndex?_nil : Search.firstIndex? f.delimiter [] = none := by
  simp [Search.firstIndex?, f.delimiter_ne_nil]

theorem framesOf_nil : f.framesOf [] = [] := by
  rw [framesOf_of_none firstIndex?_nil]
  rfl

/-- What has come to its delimiter does not depend on what comes later. -/
theorem framesOf_append_of_some {stream : Bytes} {i : Nat}
    (h : Search.firstIndex? f.delimiter stream = some i) (later : Bytes) :
    f.framesOf (stream ++ later) =
      f.pieceFrame (stream.take i) ::
        f.framesOf (stream.drop (i + f.delimiter.length) ++ later) := by
  have inside := Search.length_of_firstIndex? f.delimiter_ne_nil h
  rw [framesOf_of_some (Search.firstIndex?_append f.delimiter_ne_nil h later),
    List.take_append_of_le_length (by omega), List.drop_append_of_le_length inside]

/-! ## 2. What a decoder knows -/

namespace Decoder

/-- What a decoder knows of the bytes that have come and have not been given. -/
structure Holds (f : Framing) (d : Decoder) (pending : Bytes) : Prop where
  framing : d.framing = f
  /-- The buffer is what has not been dropped. -/
  kept : d.buffer = pending.drop (d.dropped.getD 0)
  size : d.dropped.getD 0 ≤ pending.length
  /-- No delimiter begins before the place where the search begins, whatever comes later. -/
  clean : ∀ j < d.dropped.getD 0 + d.scanned,
    j + f.delimiter.length ≤ pending.length ∧ ¬ f.delimiter <+: pending.drop j
  /-- Bytes are dropped of messages over the limit only, and a delimiter that has begun is kept. -/
  excess : ∀ n, d.dropped = some n → f.maxSize < n ∧ f.keep ≤ d.buffer.length

/-- A decoder that has given all that came to a delimiter. -/
theorem holds_fresh (buffer : Bytes) : Holds f { framing := f, buffer } buffer where
  framing := rfl
  kept := rfl
  size := Nat.zero_le _
  clean j hj := absurd hj (Nat.not_lt_zero j)
  excess n h := by cases h

variable {d : Decoder} {pending : Bytes}

theorem Holds.feed (h : Holds f d pending) (bytes : Bytes) :
    Holds f (d.feed bytes) (pending ++ bytes) where
  framing := h.framing
  kept := by
    simp only [Decoder.feed]
    rw [h.kept, List.drop_append_of_le_length h.size]
  size := by
    have := h.size
    simp only [Decoder.feed, List.length_append]
    omega
  clean j hj := by
    obtain ⟨inside, absent⟩ := h.clean j hj
    refine ⟨by rw [List.length_append]; omega, fun place => ?_⟩
    exact absent (Search.prefix_drop_of_append place inside)
  excess n hn := by
    obtain ⟨long, kept⟩ := h.excess n hn
    exact ⟨long, by simp only [Decoder.feed, List.length_append]; omega⟩

theorem Holds.length (h : Holds f d pending) :
    d.dropped.getD 0 + d.buffer.length = pending.length := by
  have := h.size
  rw [h.kept, List.length_drop]
  omega

theorem Holds.scanned_le (h : Holds f d pending) : d.scanned ≤ d.buffer.length := by
  have total := h.length
  by_cases zero : d.scanned = 0
  · omega
  · have last := (h.clean (d.dropped.getD 0 + d.scanned - 1) (by omega)).1
    have := List.length_pos_iff.2 f.delimiter_ne_nil
    omega

/-- **The search in the buffer finds the leftmost delimiter of all pending bytes.** -/
theorem Holds.firstIndex? (h : Holds f d pending) :
    Search.firstIndex? f.delimiter pending = d.delimiter?.map (d.dropped.getD 0 + ·) := by
  have search := Search.firstIndex?_of_clean (fun j hj => (h.clean j hj).2)
  rw [search, ← List.drop_drop, ← h.kept, delimiter?, h.framing, Option.map_map,
    Nat.min_eq_left h.scanned_le]
  refine congrArg (Option.map · _) (funext fun i => ?_)
  simp only [Function.comp_apply]
  omega

/-! ## 3. One request -/

/-- **A message that has come to its delimiter is given**, and the decoder goes on behind it. -/
theorem next_of_some (h : Holds f d pending) {i : Nat}
    (found : Search.firstIndex? f.delimiter pending = some i) :
    d.next = (some (f.pieceFrame (pending.take i)),
      { framing := f, buffer := pending.drop (i + f.delimiter.length) }) := by
  have inside := Search.length_of_firstIndex? f.delimiter_ne_nil found
  have size : (pending.take i).length = i := by
    rw [List.length_take]
    omega
  rw [h.firstIndex?, Option.map_eq_some_iff] at found
  obtain ⟨stop, hstop, rfl⟩ := found
  have rest : d.buffer.drop (stop + f.delimiter.length) =
      pending.drop (d.dropped.getD 0 + stop + f.delimiter.length) := by
    rw [h.kept, List.drop_drop, Nat.add_assoc]
  simp only [next, hstop, takeFrame, h.framing, rest]
  cases dropped : d.dropped with
  | none =>
    have all : d.buffer = pending := by
      simpa [dropped] using h.kept
    simp only [dropped, Option.getD_none, Nat.zero_add] at size ⊢
    simp only [pieceFrame, size, all]
    split <;> rfl
  | some n =>
    have long := (h.excess n dropped).1
    simp only [dropped, Option.getD_some] at size ⊢
    rw [pieceFrame, size, if_pos (by omega)]

theorem room_eq (fits : f.maxSize + f.keep < UInt64.size) : f.room = f.maxSize + f.keep :=
  Nat.mod_eq_of_lt fits

/-- **Without a delimiter nothing is given**, and if nothing has been dropped the pending bytes have
room. -/
theorem next_of_none (fits : f.maxSize + f.keep < UInt64.size) (h : Holds f d pending)
    (none : Search.firstIndex? f.delimiter pending = none) :
    d.next = (.none, d.shorten) ∧ Holds f d.shorten pending ∧
      (d.shorten.dropped = .none → pending.length ≤ f.maxSize + f.keep) := by
  have absent := Search.firstIndex?_eq_none_iff.1 none
  have total := h.length
  have width := List.length_pos_iff.2 f.delimiter_ne_nil
  have quiet : d.delimiter? = .none := by
    rw [h.firstIndex?] at none
    exact Option.map_eq_none_iff.1 none
  refine ⟨by simp only [next, quiet], ?_⟩
  unfold shorten
  simp only [h.framing, room_eq fits]
  split
  · rename_i full
    -- what has been dropped before, or the length of the buffer, tells that the message is too long
    have long : f.keep ≤ d.buffer.length ∧
        f.maxSize < d.dropped.getD 0 + (d.buffer.length - f.keep) := by
      cases dropped : d.dropped with
      | none =>
        simp only [dropped, Option.isSome_none, Bool.false_or, decide_eq_true_eq] at full
        simp only [Option.getD_none]
        omega
      | some n =>
        have := h.excess n dropped
        simp only [Option.getD_some]
        omega
    have back : d.dropped.getD 0 + (d.buffer.length - f.keep) + f.keep = pending.length := by
      omega
    refine ⟨⟨rfl, ?_, ?_, fun j hj => ⟨?_, absent j⟩, fun n hn => ?_⟩, fun hn => by cases hn⟩
    · simp only [Option.getD_some]
      rw [h.kept, List.drop_drop]
    · simp only [Option.getD_some]
      omega
    · simp only [Option.getD_some, keep] at hj back
      omega
    · cases hn
      refine ⟨long.2, ?_⟩
      simp only [List.length_drop]
      omega
  · rename_i short
    simp only [Bool.or_eq_true, Option.isSome_iff_ne_none, decide_eq_true_eq, not_or, ne_eq,
      not_not, Nat.not_lt] at short
    obtain ⟨dropped, short⟩ := short
    simp only [dropped, Option.getD_none, Nat.zero_add] at total
    refine ⟨⟨rfl, h.kept, h.size, fun j hj => ⟨?_, absent j⟩, h.excess⟩, fun _ => by omega⟩
    simp only [dropped, Option.getD_none, keep] at hj
    omega

/-- What the end of the stream ends. -/
theorem last_eq (h : Holds f d pending)
    (room : d.dropped = none → pending.length ≤ f.maxSize + f.keep) :
    d.last = (f.restFrame pending, { framing := f }) := by
  have total := h.length
  have width := List.length_pos_iff.2 f.delimiter_ne_nil
  unfold last restFrame
  simp only [h.framing]
  cases dropped : d.dropped with
  | none =>
    have all : d.buffer = pending := by
      simpa [dropped] using h.kept
    have fit := room dropped
    rw [all]
    cases pending with
    | nil => rfl
    | cons b bytes =>
      have small : ¬ (b :: bytes).length > f.maxSize + f.delimiter.length - 1 := by
        simp only [keep] at fit
        omega
      simp only [List.isEmpty_cons, Bool.false_eq_true, if_false, small, reduceCtorEq]
      split <;> rfl
  | some n =>
    obtain ⟨long, kept⟩ := h.excess n dropped
    simp only [dropped, Option.getD_some] at total
    have nonempty : pending ≠ [] := by
      intro nil
      simp only [nil, List.length_nil] at total
      omega
    have big : pending.length > f.maxSize + f.delimiter.length - 1 := by
      simp only [keep] at kept
      omega
    simp only [nonempty, if_false, big, if_true, total]

/-- At the end of the stream a message that has come to its delimiter is given first. -/
theorem finish_of_some (h : Holds f d pending) {i : Nat}
    (found : Search.firstIndex? f.delimiter pending = some i) :
    d.finish = (some (f.pieceFrame (pending.take i)),
      { framing := f, buffer := pending.drop (i + f.delimiter.length) }) := by
  simp only [finish, next_of_some h found]

/-- **At the end of the stream what is left is given**, and nothing of it stays. -/
theorem finish_of_none (fits : f.maxSize + f.keep < UInt64.size) (h : Holds f d pending)
    (none : Search.firstIndex? f.delimiter pending = none) :
    d.finish = (f.restFrame pending, { framing := f }) := by
  obtain ⟨quiet, holds, room⟩ := next_of_none fits h none
  simp only [finish, quiet, last_eq holds room]

/-! ## 4. All requests -/

/-- Asks for messages a number of times: those that have come, and the decoder after it. -/
def ask : Nat → Decoder → List Frame × Decoder
  | 0, d => ([], d)
  | n + 1, d =>
    let (frame, d) := d.next
    let (frames, d) := d.ask n
    (frame.toList ++ frames, d)

/-- How many bytes a decoder can still give, and one more for those that it has dropped. -/
def measure (d : Decoder) : Nat := d.buffer.length + d.dropped.toList.length

theorem takeFrame_snd (stop : Nat) :
    (d.takeFrame stop).2 =
      { framing := d.framing, buffer := d.buffer.drop (stop + d.framing.delimiter.length) } := by
  unfold takeFrame
  cases d.dropped with
  | none => simp only; split <;> rfl
  | some n => rfl

theorem last_snd : d.last.2 = { framing := d.framing } := by
  unfold last
  cases d.dropped with
  | none => simp only; split <;> (try split) <;> rfl
  | some n => rfl

/-- Each message at the end of the stream leaves less. -/
theorem measure_finish_lt {d' : Decoder} {frame : Frame} (h : d.finish = (some frame, d')) :
    d'.measure < d.measure := by
  cases found : d.delimiter? with
  | some stop =>
    have step : d.next = (some (d.takeFrame stop).1, (d.takeFrame stop).2) := by
      simp only [next, found]
    have fewer := length_next_lt step
    simp only [finish, step] at h
    obtain ⟨-, rfl⟩ := Prod.mk.inj h
    have rest := takeFrame_snd (d := d) stop
    simp only [measure, congrArg Decoder.dropped rest, Option.toList_none, List.length_nil]
    omega
  | none =>
    have step : d.next = (none, d.shorten) := by
      simp only [next, found]
    simp only [finish, step] at h
    have empty : d'.measure = 0 := by
      have rest := last_snd (d := d.shorten)
      rw [h] at rest
      rw [show d' = { framing := d.shorten.framing } from rest]
      rfl
    rw [empty, Nat.pos_iff_ne_zero]
    intro zero
    -- a decoder without bytes, kept or dropped, gives nothing at the end
    simp only [measure, Nat.add_eq_zero_iff, List.length_eq_zero_iff, Option.toList_eq_nil_iff]
      at zero
    simp [shorten, zero.1, zero.2, last] at h

/-- Asks at the end of the stream until there is no message. -/
def finishes (d : Decoder) : List Frame :=
  match _h : d.finish with
  | (some frame, d') => frame :: d'.finishes
  | (none, _) => []
termination_by d.measure
decreasing_by exact measure_finish_lt _h

/-- All messages of a session: after each chunk the decoder is asked a number of times, and at the
end until there is no message. -/
def session (d : Decoder) : List (Bytes × Nat) → List Frame
  | [] => d.finishes
  | (chunk, times) :: rest =>
    let (frames, d) := (d.feed chunk).ask times
    frames ++ d.session rest

/-- Requests between the chunks give the first messages of what the stream brings. -/
theorem ask_frames (fits : f.maxSize + f.keep < UInt64.size) (times : Nat) (h : Holds f d pending) :
    ∃ pending', Holds f (d.ask times).2 pending' ∧
      ∀ later, f.framesOf (pending ++ later) =
        (d.ask times).1 ++ f.framesOf (pending' ++ later) := by
  induction times generalizing d pending with
  | zero => exact ⟨pending, h, fun _ => rfl⟩
  | succ times ih =>
    cases found : Search.firstIndex? f.delimiter pending with
    | some i =>
      have step := next_of_some h found
      obtain ⟨pending', holds, frames⟩ := ih (holds_fresh (pending.drop (i + f.delimiter.length)))
      refine ⟨pending', by simpa only [ask, step] using holds, fun later => ?_⟩
      simp only [ask, step, framesOf_append_of_some found, frames, Option.toList_some,
        List.cons_append, List.nil_append]
    | none =>
      obtain ⟨step, holds, -⟩ := next_of_none fits h found
      obtain ⟨pending', holds', frames⟩ := ih holds
      refine ⟨pending', by simpa only [ask, step] using holds', fun later => ?_⟩
      simp only [ask, step, frames, Option.toList_none, List.nil_append]

/-- Requests at the end of the stream give all that is left of what it brings. -/
theorem finishes_frames (fits : f.maxSize + f.keep < UInt64.size) (h : Holds f d pending) :
    d.finishes = f.framesOf pending := by
  induction hn : pending.length using Nat.strongRecOn generalizing d pending with
  | ind n ih =>
    subst hn
    rw [finishes.eq_def]
    cases found : Search.firstIndex? f.delimiter pending with
    | some i =>
      have step := finish_of_some h found
      have inside := Search.length_of_firstIndex? f.delimiter_ne_nil found
      have width := List.length_pos_iff.2 f.delimiter_ne_nil
      have rest := ih (pending.drop (i + f.delimiter.length)).length
        (by rw [List.length_drop]; omega) (holds_fresh _) rfl
      rw [framesOf_of_some found, ← rest]
      split
      · rename_i frame d' hd
        rw [step] at hd
        cases hd
        rfl
      · rename_i d' hd
        rw [step] at hd
        cases hd
    | none =>
      have step := finish_of_none fits h found
      rw [framesOf_of_none found]
      split
      · rename_i frame d' hd
        rw [step] at hd
        obtain ⟨given, rfl⟩ := Prod.mk.inj hd
        have shorter : ([] : Bytes).length < pending.length := by
          cases pending with
          | nil => simp [restFrame] at given
          | cons b bytes => simp
        rw [ih _ shorter (holds_fresh []) rfl, framesOf_nil, given]
        rfl
      · rename_i d' hd
        rw [step] at hd
        rw [(Prod.mk.inj hd).1]
        rfl

/-- A session gives what the pending bytes and those of its chunks bring. -/
theorem session_of_holds (fits : f.maxSize + f.keep < UInt64.size) (chunks : List (Bytes × Nat))
    (h : Holds f d pending) :
    d.session chunks = f.framesOf (pending ++ (chunks.map Prod.fst).flatten) := by
  induction chunks generalizing d pending with
  | nil =>
    simp only [session, List.map_nil, List.flatten_nil, List.append_nil]
    exact finishes_frames fits h
  | cons chunk rest ih =>
    obtain ⟨bytes, times⟩ := chunk
    obtain ⟨pending', holds, frames⟩ := ask_frames fits times (h.feed bytes)
    simp only [session, List.map_cons, List.flatten_cons]
    rw [ih holds, ← List.append_assoc, frames]

end Decoder

/-- **A session gives what the whole stream brings**, whatever the chunks in which the stream comes
and however often the decoder is asked after each: the frames of the pieces between the leftmost
delimiters, and the frame of what is left. -/
theorem session_frames (delimiter : Bytes) (maxSize : Nat)
    (fits : maxSize + delimiter.length < UInt64.size) (stream : Bytes) (chunks : List (Bytes × Nat))
    (whole : (chunks.map Prod.fst).flatten = stream) :
    ∃ ps rest, Cut (make delimiter maxSize).delimiter stream ps rest ∧
      (∀ ps' rest', Cut (make delimiter maxSize).delimiter stream ps' rest' →
        ps' = ps ∧ rest' = rest) ∧
      Decoder.session { framing := make delimiter maxSize } chunks =
        ps.map (make delimiter maxSize).pieceFrame ++
          ((make delimiter maxSize).restFrame rest).toList := by
  have width : (make delimiter maxSize).maxSize + (make delimiter maxSize).keep < UInt64.size := by
    unfold make keep
    split
    · simp only [List.length_singleton]
      omega
    · simp only
      omega
  refine ⟨_, _, cut_iff_pieces.2 rfl, fun ps' rest' cut => ?_, ?_⟩
  · exact Prod.mk.inj (cut_iff_pieces.1 cut).symm
  · rw [Decoder.session_of_holds width chunks (Decoder.holds_fresh []), List.nil_append, whole]
    rfl

/-- Chunks that end inside a delimiter, and a message over the limit of which bytes are dropped: the
length that is given is that of the whole message, and the carriage return at the end is no part of
the last one. -/
theorem session_frames_of_split_delimiter :
    3 + [0x0d, 0x0a].length < UInt64.size ∧
      Decoder.session { framing := make [0x0d, 0x0a] 3 }
          [([0x61, 0x62], 1), ([0x63, 0x64, 0x65, 0x0d], 2), ([0x0a, 0x66], 0), ([0x0d], 1)] =
        [.tooLong 5, .line [0x66]] := by
  refine ⟨by decide, ?_⟩
  obtain ⟨ps, rest, -, unique, given⟩ := session_frames [0x0d, 0x0a] 3 (by decide)
    ([0x61, 0x62, 0x63, 0x64, 0x65] ++ [0x0d, 0x0a] ++ [0x66, 0x0d])
    [([0x61, 0x62], 1), ([0x63, 0x64, 0x65, 0x0d], 2), ([0x0a, 0x66], 0), ([0x0d], 1)] rfl
  obtain ⟨rfl, rfl⟩ := unique [[0x61, 0x62, 0x63, 0x64, 0x65]] [0x66, 0x0d]
    (.piece (by decide) (.rest (by decide)))
  rw [given]
  decide

end Syslog.Framing

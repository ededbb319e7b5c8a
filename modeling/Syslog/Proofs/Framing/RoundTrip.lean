import Syslog.Proofs.Framing.Stream

/-!
# Which messages a stream brings back

Messages that are written one behind the other, each with its delimiter, come out of a decoder as
they went in, or not.

* `all_pieces`, `finishAll_frames`: a decoder that is asked until it has no message gives the pieces
  of what has come;
* `Clear`: the payloads that keep their ends;
* `pieces_frames`, `clear_of_framesOf`: exactly these come back from what a whole stream brings;
* `roundTrips_iff`: and so they do from a decoder that reads the stream in chunks.
-/

namespace Syslog

namespace Bytes

theorem dropReturn_eq_self_iff {bytes : Bytes} :
    dropReturn bytes = bytes ↔ bytes.getLast? ≠ some carriageReturn := by
  unfold dropReturn
  by_cases ends : bytes.getLast? = some carriageReturn
  · rw [if_pos (beq_iff_eq.2 ends)]
    refine iff_of_false (fun same => ?_) (not_not_intro ends)
    have nonempty : bytes ≠ [] := fun nil => by simp [nil] at ends
    have shorter := congrArg List.length same
    have := List.length_pos_iff.2 nonempty
    rw [List.length_dropLast] at shorter
    omega
  · rw [if_neg (mt beq_iff_eq.1 ends)]
    exact iff_of_true rfl ends

theorem length_dropReturn_le (bytes : Bytes) : (dropReturn bytes).length ≤ bytes.length := by
  unfold dropReturn
  split
  · rw [List.length_dropLast]
    exact Nat.sub_le _ _
  · exact Nat.le_refl _

end Bytes

namespace Framing

variable {f : Framing}

/-! ## 1. All messages that have come -/

namespace Decoder

variable {d : Decoder} {pending : Bytes}

theorem all_of_some {frame : Frame} {d' : Decoder} (step : d.next = (some frame, d')) :
    d.all = (frame :: d'.all.1, d'.all.2) := by
  rw [all.eq_def]
  split
  · rename_i frame' d'' taken
    rw [step] at taken
    cases taken
    rfl
  · rename_i d'' taken
    rw [step] at taken
    cases taken

theorem all_of_none {d' : Decoder} (step : d.next = (none, d')) : d.all = ([], d') := by
  rw [all.eq_def]
  split
  · rename_i frame' d'' taken
    rw [step] at taken
    cases taken
  · rename_i d'' taken
    rw [step] at taken
    cases taken
    rfl

/-- **A decoder that is asked until it has no message** gives what the pieces of the pending bytes
bring, and keeps what stands behind the last delimiter. -/
theorem all_pieces (fits : f.maxSize + f.keep < UInt64.size) (h : Holds f d pending) :
    ∃ gs kept, d.all.1 = gs.map f.pieceFrame ∧ Holds f d.all.2 kept ∧
      Search.firstIndex? f.delimiter kept = none ∧
      (d.all.2.dropped = none → kept.length ≤ f.maxSize + f.keep) ∧
      ∀ later, f.pieces (pending ++ later) =
        (gs ++ (f.pieces (kept ++ later)).1, (f.pieces (kept ++ later)).2) := by
  induction hn : pending.length using Nat.strongRecOn generalizing d pending with
  | ind n ih =>
    subst hn
    cases found : Search.firstIndex? f.delimiter pending with
    | some i =>
      have step := next_of_some h found
      have inside := Search.length_of_firstIndex? f.delimiter_ne_nil found
      have width := List.length_pos_iff.2 f.delimiter_ne_nil
      obtain ⟨gs, kept, frames, holds, quiet, room, pieces⟩ :=
        ih (pending.drop (i + f.delimiter.length)).length (by rw [List.length_drop]; omega)
          (holds_fresh _) rfl
      rw [all_of_some step]
      refine ⟨pending.take i :: gs, kept, ?_, holds, quiet, room, fun later => ?_⟩
      · rw [List.map_cons, frames]
      · rw [pieces_of_some (Search.firstIndex?_append f.delimiter_ne_nil found later),
          List.take_append_of_le_length (by omega), List.drop_append_of_le_length inside,
          pieces later, List.cons_append]
    | none =>
      obtain ⟨step, holds, room⟩ := next_of_none fits h found
      rw [all_of_none step]
      exact ⟨[], pending, rfl, holds, found, room, fun _ => rfl⟩

/-- **All messages when nothing more will come** are those that the pending bytes bring. -/
theorem finishAll_frames (fits : f.maxSize + f.keep < UInt64.size) (h : Holds f d pending) :
    d.finishAll = f.framesOf pending := by
  obtain ⟨gs, kept, frames, holds, quiet, room, pieces⟩ := all_pieces fits h
  have whole := pieces []
  rw [List.append_nil, List.append_nil, pieces_of_none quiet, List.append_nil] at whole
  unfold finishAll framesOf
  rw [whole]
  show d.all.1 ++ d.all.2.last.1.toList = _
  rw [frames, last_eq holds room]

/-- Reads chunks, each until no message in it has come to its delimiter: the messages, and the
decoder after them. -/
def readAll (d : Decoder) : List Bytes → List Frame × Decoder
  | [] => ([], d)
  | chunk :: rest =>
    let (frames, d) := (d.feed chunk).all
    let (later, d) := d.readAll rest
    (frames ++ later, d)

/-- Chunks give the pieces of all their bytes, and what is left stays. -/
theorem readAll_pieces (fits : f.maxSize + f.keep < UInt64.size) (chunks : List Bytes)
    (h : Holds f d pending) (settled : Search.firstIndex? f.delimiter pending = none) :
    ∃ gs kept, (d.readAll chunks).1 = gs.map f.pieceFrame ∧ Holds f (d.readAll chunks).2 kept ∧
      Search.firstIndex? f.delimiter kept = none ∧
      f.pieces (pending ++ chunks.flatten) = (gs, kept) := by
  induction chunks generalizing d pending with
  | nil =>
    refine ⟨[], pending, rfl, h, settled, ?_⟩
    rw [List.flatten_nil, List.append_nil]
    exact pieces_of_none settled
  | cons chunk rest ih =>
    obtain ⟨gs, kept, frames, holds, quiet, -, pieces⟩ := all_pieces fits (h.feed chunk)
    obtain ⟨gs', kept', frames', holds', quiet', pieces'⟩ := ih holds quiet
    refine ⟨gs ++ gs', kept', ?_, holds', quiet', ?_⟩
    · show (d.feed chunk).all.1 ++ ((d.feed chunk).all.2.readAll rest).1 = _
      rw [frames, frames', List.map_append]
    · rw [List.flatten_cons, ← List.append_assoc, pieces, pieces']

end Decoder

/-! ## 2. Payloads that come back -/

/-- A payload that comes back as it is: the first delimiter behind its start is its own, it does not
end with a carriage return, and it is not over the limit. -/
def Clear (f : Framing) (payload : Bytes) : Prop :=
  Search.firstIndex? f.delimiter (payload ++ f.delimiter) = some payload.length ∧
    payload.getLast? ≠ some Bytes.carriageReturn ∧ payload.length ≤ f.maxSize

/-- The stream of payloads, each with its delimiter. -/
def streamOf (f : Framing) (payloads : List Bytes) : Bytes := (payloads.map f.frame).flatten

theorem streamOf_cons (payload : Bytes) (payloads : List Bytes) :
    f.streamOf (payload :: payloads) = payload ++ f.delimiter ++ f.streamOf payloads := by
  unfold streamOf
  rw [List.map_cons, List.flatten_cons]
  rfl

/-- The delimiter of a payload is the first one or stands behind it. -/
theorem exists_firstIndex? (payload : Bytes) :
    ∃ i ≤ payload.length, Search.firstIndex? f.delimiter (payload ++ f.delimiter) = some i := by
  have own : f.delimiter <+: (payload ++ f.delimiter).drop payload.length := by
    rw [List.drop_left]
  cases found : Search.firstIndex? f.delimiter (payload ++ f.delimiter) with
  | none => exact absurd own (Search.firstIndex?_eq_none_iff.1 found payload.length)
  | some i =>
    have inside := Search.length_of_firstIndex? f.delimiter_ne_nil found
    rw [List.length_append] at inside
    exact ⟨i, by omega, rfl⟩

/-- **Clear payloads are the pieces of their stream**, and nothing is left. -/
theorem pieces_frames {payloads : List Bytes} (clear : ∀ p ∈ payloads, f.Clear p) :
    f.pieces (f.streamOf payloads) = (payloads, []) := by
  induction payloads with
  | nil => exact pieces_of_none firstIndex?_nil
  | cons payload rest ih =>
    obtain ⟨first, -, -⟩ := clear payload (List.mem_cons_self ..)
    have found := Search.firstIndex?_append f.delimiter_ne_nil first (f.streamOf rest)
    have later := ih fun p member => clear p (List.mem_cons_of_mem _ member)
    rw [streamOf_cons, pieces_of_some found, ← List.length_append, List.drop_left, later,
      List.append_assoc, List.take_left]

/-- A clear payload brings a message that is the payload. -/
theorem Clear.pieceFrame {payload : Bytes} (clear : f.Clear payload) :
    f.pieceFrame payload = .line payload := by
  obtain ⟨-, plain, small⟩ := clear
  rw [Framing.pieceFrame, if_neg (Nat.not_lt.2 small), Bytes.dropReturn_eq_self_iff.2 plain]

/-- **Payloads that their stream brings back are clear.** The first message that differs in its end
is shorter than its payload, so no later one can make up for it. -/
theorem clear_of_framesOf {payloads : List Bytes}
    (back : f.framesOf (f.streamOf payloads) = payloads.map .line) :
    ∀ p ∈ payloads, f.Clear p := by
  induction payloads with
  | nil =>
    intro p member
    cases member
  | cons payload rest ih =>
    obtain ⟨i, before, first⟩ := f.exists_firstIndex? payload
    have found := Search.firstIndex?_append f.delimiter_ne_nil first (f.streamOf rest)
    rw [streamOf_cons, framesOf_of_some found, List.map_cons, List.cons.injEq] at back
    obtain ⟨frame, later⟩ := back
    have piece : (payload ++ f.delimiter ++ f.streamOf rest).take i = payload.take i := by
      rw [List.append_assoc, List.take_append_of_le_length before]
    have size : (payload.take i).length = i := by
      rw [List.length_take]
      omega
    rw [piece, Framing.pieceFrame, size] at frame
    split at frame
    · cases frame
    · rename_i small
      have same : Bytes.dropReturn (payload.take i) = payload := Frame.line.inj frame
      have shorter := Bytes.length_dropReturn_le (payload.take i)
      rw [same, size] at shorter
      have whole : i = payload.length := Nat.le_antisymm before shorter
      subst whole
      rw [List.take_length] at same
      rw [← List.length_append, List.drop_left] at later
      have clear : f.Clear payload :=
        ⟨first, Bytes.dropReturn_eq_self_iff.1 same, Nat.not_lt.1 small⟩
      intro p member
      rcases List.mem_cons.1 member with rfl | member
      · exact clear
      · exact ih later p member

/-! ## 3. A stream that is read in chunks -/

theorem make_maxSize (delimiter : Bytes) (maxSize : Nat) :
    (make delimiter maxSize).maxSize = maxSize := by
  unfold make
  split <;> rfl

/-- The limit and the delimiter fit into a word together if those that were asked for do. -/
theorem make_fits {delimiter : Bytes} {maxSize : Nat}
    (fits : maxSize + delimiter.length < UInt64.size) :
    (make delimiter maxSize).maxSize + (make delimiter maxSize).keep < UInt64.size := by
  unfold make keep
  split
  · simp only [List.length_singleton]
    omega
  · simp only
    omega

/-- **When a stream brings its payloads back.** Payloads that are written one behind the other, each
with its delimiter, are what a decoder gives from any chunks of the stream, with nothing left when
the stream ends, exactly if each of them has its own delimiter as the first one behind its start,
does not end with a carriage return, and is not over the limit. -/
theorem roundTrips_iff (delimiter : Bytes) (maxSize : Nat)
    (fits : maxSize + delimiter.length < UInt64.size) (payloads chunks : List Bytes)
    (whole : chunks.flatten = (payloads.map (make delimiter maxSize).frame).flatten) :
    let f := make delimiter maxSize
    let read := Decoder.readAll { framing := f } chunks
    read.1 = payloads.map .line ∧ read.2.finish.1 = none ↔
      ∀ p ∈ payloads,
        Search.firstIndex? f.delimiter (p ++ f.delimiter) = some p.length ∧
          p.getLast? ≠ some Bytes.carriageReturn ∧ p.length ≤ maxSize := by
  intro f read
  have width : f.maxSize + f.keep < UInt64.size := make_fits fits
  obtain ⟨gs, kept, frames, holds, quiet, pieces⟩ :=
    Decoder.readAll_pieces width chunks (Decoder.holds_fresh []) firstIndex?_nil
  have last : read.2.finish.1 = f.restFrame kept :=
    congrArg Prod.fst (Decoder.finish_of_none width holds quiet)
  rw [List.nil_append, whole] at pieces
  constructor
  · rintro ⟨lines, nothing⟩
    have back : f.framesOf (f.streamOf payloads) = payloads.map .line := by
      show (f.pieces (f.streamOf payloads)).1.map f.pieceFrame ++
        (f.restFrame (f.pieces (f.streamOf payloads)).2).toList = _
      rw [show f.pieces (f.streamOf payloads) = (gs, kept) from pieces, ← frames, ← last, nothing,
        ← lines]
      exact List.append_nil _
    intro p member
    obtain ⟨first, plain, small⟩ := clear_of_framesOf back p member
    exact ⟨first, plain, make_maxSize delimiter maxSize ▸ small⟩
  · intro conditions
    have clear : ∀ p ∈ payloads, f.Clear p := by
      intro p member
      obtain ⟨first, plain, small⟩ := conditions p member
      exact ⟨first, plain, (make_maxSize delimiter maxSize).symm ▸ small⟩
    obtain ⟨rfl, rfl⟩ := Prod.mk.inj (pieces.symm.trans (pieces_frames clear))
    refine ⟨frames.trans (List.map_congr_left fun p member => (clear p member).pieceFrame), ?_⟩
    rw [last]
    rfl

/-- Payloads that end with a part of the delimiter `aba`. The payload `xa` comes back, although `a`
begins the delimiter, also from chunks that cut it; `xab` does not, for it and its delimiter have
another one in front. -/
theorem roundTrips_iff_of_overlap :
    let f := make [0x61, 0x62, 0x61] 3
    let good := Decoder.readAll { framing := f }
      [[0x78, 0x61, 0x61], [0x62, 0x61, 0x61, 0x62], [0x61]]
    let bad := Decoder.readAll { framing := f } [[0x78, 0x61, 0x62, 0x61, 0x62, 0x61]]
    (3 + [0x61, 0x62, 0x61].length < UInt64.size ∧
      [0x78, 0x61, 0x61, 0x62, 0x61, 0x61, 0x62, 0x61] =
        ([[0x78, 0x61], []].map f.frame).flatten) ∧
      (good.1 = [.line [0x78, 0x61], .line []] ∧ good.2.finish.1 = none) ∧
      ¬ (bad.1 = [.line [0x78, 0x61, 0x62]] ∧ bad.2.finish.1 = none) := by
  intro f good bad
  refine ⟨⟨by decide, rfl⟩, ?_, fun back => ?_⟩
  · exact (roundTrips_iff [0x61, 0x62, 0x61] 3 (by decide) [[0x78, 0x61], []]
      [[0x78, 0x61, 0x61], [0x62, 0x61, 0x61, 0x62], [0x61]] rfl).2 (by decide)
  · have clear := (roundTrips_iff [0x61, 0x62, 0x61] 3 (by decide) [[0x78, 0x61, 0x62]]
      [[0x78, 0x61, 0x62, 0x61, 0x62, 0x61]] rfl).1 back
    exact absurd (clear _ (List.mem_singleton_self _)).1 (by decide)

end Framing

end Syslog

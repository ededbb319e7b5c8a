import Syslog.Proofs.Framing.RoundTrip

/-!
# The end of a stream in place of a delimiter

The last message of a stream may come without a delimiter. The limit is then for the message without
its carriage return, where before a delimiter it is for all of it, so the two ways can differ where
the message is just over the limit: by no more bytes than may belong to a delimiter.

* `endFrame`, `finish_fresh`: what the end of a stream brings;
* `next_fresh`: what the delimiter brings;
* `finish_eq_next_iff`: when they bring the same;
* `line_of_tooLong`: that they do not always.
-/

namespace Syslog.Framing

variable {f : Framing} {message : Bytes}

/-! ## 1. Two ways to end a message -/

/-- What a message of at least one byte brings when the stream ends after it. Beside `restFrame` it
also tells so for limits that overflow a word. -/
def endFrame (f : Framing) (message : Bytes) : Frame :=
  if message.length > f.room then .tooLong message.length
  else if (Bytes.dropReturn message).length > f.maxSize then
    .tooLong (Bytes.dropReturn message).length
  else .line (Bytes.dropReturn message)

/-- A message whose own delimiter is the first has none inside. -/
theorem firstIndex?_of_own
    (own : Search.firstIndex? f.delimiter (f.frame message) = some message.length) :
    Search.firstIndex? f.delimiter message = none := by
  cases found : Search.firstIndex? f.delimiter message with
  | none => rfl
  | some i =>
    have inside := Search.length_of_firstIndex? f.delimiter_ne_nil found
    have width := List.length_pos_iff.2 f.delimiter_ne_nil
    have same := Search.firstIndex?_append f.delimiter_ne_nil found f.delimiter
    rw [show message ++ f.delimiter = f.frame message from rfl, own] at same
    have := Option.some.inj same
    omega

namespace Decoder

/-- **What the end of the stream brings**, whatever is dropped of a message over the limit. -/
theorem finish_fresh (nonempty : message ≠ [])
    (none : Search.firstIndex? f.delimiter message = none) :
    (({ framing := f } : Decoder).feed message).finish.1 = some (f.endFrame message) := by
  have quiet : ({ framing := f, buffer := message } : Decoder).delimiter? = .none := by
    simp only [delimiter?, List.drop_zero, none, Option.map_none]
  show ({ framing := f, buffer := message } : Decoder).finish.1 = _
  simp only [finish, next, quiet, shorten, Option.isSome_none, Bool.false_or, decide_eq_true_eq]
  unfold endFrame
  split
  · -- the bytes that are dropped and those that are kept are all there are
    simp only [last, Option.getD_none, Nat.zero_add, List.length_drop]
    rw [Nat.add_sub_cancel' (Nat.sub_le _ _)]
  · simp only [last, List.isEmpty_eq_false_iff.2 nonempty, Bool.false_eq_true, if_false]
    split <;> rfl

/-- **What the delimiter brings.** -/
theorem next_fresh
    (own : Search.firstIndex? f.delimiter (f.frame message) = some message.length) :
    (({ framing := f } : Decoder).feed (f.frame message)).next.1 =
      some (f.pieceFrame message) := by
  have step := next_of_some (holds_fresh (f := f) (f.frame message)) own
  show ({ framing := f, buffer := f.frame message } : Decoder).next.1 = _
  rw [step, frame, List.take_left]

end Decoder

/-! ## 2. Where they differ -/

/-- A carriage return at the end is left out. -/
theorem length_dropReturn_of_return (ends : message.getLast? = some Bytes.carriageReturn) :
    (Bytes.dropReturn message).length + 1 = message.length := by
  have nonempty : message ≠ [] := fun nil => by simp [nil] at ends
  have := List.length_pos_iff.2 nonempty
  rw [Bytes.dropReturn, if_pos (beq_iff_eq.2 ends), List.length_dropLast]
  omega

/-- Only a message over the limit that ends with a carriage return, and is not dropped, is taken for
a shorter one at the end of the stream. -/
theorem endFrame_eq_pieceFrame_iff :
    f.endFrame message = f.pieceFrame message ↔
      if message.length ≤ f.maxSize then message.length ≤ f.room
      else f.room < message.length ∨ message.getLast? ≠ some Bytes.carriageReturn := by
  have shorter := Bytes.length_dropReturn_le message
  unfold endFrame pieceFrame
  by_cases dropped : message.length > f.room
  · rw [if_pos dropped]
    by_cases small : message.length ≤ f.maxSize
    · rw [if_neg (Nat.not_lt.2 small), if_pos small]
      exact iff_of_false Frame.noConfusion (Nat.not_le.2 dropped)
    · rw [if_pos (Nat.not_le.1 small), if_neg small]
      exact iff_of_true rfl (.inl dropped)
  · rw [if_neg dropped]
    by_cases small : message.length ≤ f.maxSize
    · rw [if_neg (Nat.not_lt.2 (shorter.trans small)), if_neg (Nat.not_lt.2 small), if_pos small]
      exact iff_of_true rfl (Nat.not_lt.1 dropped)
    · rw [if_pos (Nat.not_le.1 small), if_neg small]
      by_cases ends : message.getLast? = some Bytes.carriageReturn
      · have one_less := length_dropReturn_of_return ends
        refine iff_of_false (fun same => ?_) (not_or.2 ⟨dropped, not_not_intro ends⟩)
        split at same
        · have sizes := Frame.tooLong.inj same
          omega
        · cases same
      · rw [Bytes.dropReturn_eq_self_iff.2 ends, if_pos (Nat.not_le.1 small)]
        exact iff_of_true rfl (.inr ends)

/-- **When the end of the stream acts like a delimiter.** A message of at least one byte, of which
the delimiter behind it is the first, brings something both ways. A message within the limit brings
the same if it has room, which fails only where limit and delimiter overflow a word. One over the
limit brings the same exactly if it has no room, or does not end with a carriage return. -/
theorem finish_eq_next_iff (delimiter : Bytes) (maxSize : Nat) {message : Bytes}
    (nonempty : message ≠ [])
    (own : Search.firstIndex? (make delimiter maxSize).delimiter
      (message ++ (make delimiter maxSize).delimiter) = some message.length) :
    let f := make delimiter maxSize
    let fresh : Decoder := { framing := f }
    ∃ ended delimited, (fresh.feed message).finish.1 = some ended ∧
      (fresh.feed (message ++ f.delimiter)).next.1 = some delimited ∧
      (ended = delimited ↔
        if message.length ≤ maxSize then message.length ≤ f.room
        else f.room < message.length ∨ message.getLast? ≠ some Bytes.carriageReturn) := by
  intro f fresh
  refine ⟨_, _, Decoder.finish_fresh nonempty (firstIndex?_of_own own), Decoder.next_fresh own, ?_⟩
  rw [endFrame_eq_pieceFrame_iff, make_maxSize]

/-- With a delimiter of two bytes, a message of one byte more than the limit that does not end with
a carriage return brings the same both ways. -/
theorem finish_eq_next_of_letter :
    let f := make [0x0d, 0x0a] 3
    let message : Bytes := [0x61, 0x62, 0x63, 0x64]
    message ≠ [] ∧
      Search.firstIndex? f.delimiter (message ++ f.delimiter) = some message.length ∧
      (({ framing := f } : Decoder).feed message).finish.1 =
        (({ framing := f } : Decoder).feed (message ++ f.delimiter)).next.1 := by
  intro f message
  have nonempty : message ≠ [] := by decide
  have own : Search.firstIndex? f.delimiter (message ++ f.delimiter) = some message.length := by
    decide
  obtain ⟨ended, delimited, finish, next, same⟩ := finish_eq_next_iff [0x0d, 0x0a] 3 nonempty own
  refine ⟨nonempty, own, ?_⟩
  rw [finish, next, same.2 (by decide)]

/-- The delimiter has three bytes, and the limit is three. Three letters and a carriage return are too
long before the delimiter, and a line at the end of the stream. One letter more is too long both
ways, but at the end of the stream a length without the last byte is told. -/
theorem line_of_tooLong :
    let f := make [0x23, 0x23, 0x0a] 3
    let fresh : Decoder := { framing := f }
    let message : Bytes := [0x61, 0x62, 0x63, 0x0d]
    let longer : Bytes := [0x61, 0x62, 0x63, 0x64, 0x0d]
    (Search.firstIndex? f.delimiter (message ++ f.delimiter) = some message.length ∧
      (fresh.feed (message ++ f.delimiter)).next.1 = some (.tooLong 4) ∧
      (fresh.feed message).finish.1 = some (.line [0x61, 0x62, 0x63])) ∧
    (Search.firstIndex? f.delimiter (longer ++ f.delimiter) = some longer.length ∧
      (fresh.feed (longer ++ f.delimiter)).next.1 = some (.tooLong 5) ∧
      (fresh.feed longer).finish.1 = some (.tooLong 4)) := by
  decide

end Syslog.Framing

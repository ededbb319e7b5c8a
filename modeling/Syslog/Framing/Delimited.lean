import Syslog.Bytes

/-!
# Cutting a stream into messages

In a stream a message ends at a delimiter. The bytes come in pieces of any size; a `Decoder` keeps
those that it has not yet given as a message.

* `feed` appends bytes, `next` takes the next message out of them, `finish` the next one when
  nothing more will come;
* one carriage return before the delimiter does not count;
* a message longer than the limit is not kept: its bytes are counted and dropped, and only its
  length is given.
-/

namespace Syslog

/-- How a stream is cut. -/
structure Framing where
  delimiter : Bytes
  maxSize : Nat
  delimiter_ne_nil : delimiter ≠ []

/-- What a stream brings. -/
inductive Frame where
  | line (bytes : Bytes)
  /-- A message over the limit, of which only the length is known. -/
  | tooLong (size : Nat)
  deriving DecidableEq, Repr, Inhabited

namespace Framing

/-- Cutting at a delimiter, or at line feeds if it is empty. -/
def make (delimiter : Bytes) (maxSize : Nat) : Framing :=
  if h : delimiter = [] then ⟨[0x0a], maxSize, by simp⟩ else ⟨delimiter, maxSize, h⟩

/-- A message with its delimiter. -/
def frame (f : Framing) (payload : Bytes) : Bytes := payload ++ f.delimiter

/-- How many bytes at the end of a stream can belong to a delimiter that is not yet whole. -/
def keep (f : Framing) : Nat := f.delimiter.length - 1

/-- How many bytes without a delimiter are kept before they are dropped. Sizes are words of 64 bits,
and so is this sum of two. -/
def room (f : Framing) : Nat := (f.maxSize + f.keep) % UInt64.size

/-- Cuts a stream as it comes. -/
structure Decoder where
  framing : Framing
  /-- What has come and has not been given. -/
  buffer : Bytes := []
  /-- So many bytes at the start of the buffer begin no delimiter. -/
  scanned : Nat := 0
  /-- In a message over the limit: how many of its bytes have been dropped. -/
  dropped : Option Nat := none

namespace Decoder

/-- With more bytes of the stream. -/
def feed (d : Decoder) (bytes : Bytes) : Decoder := { d with buffer := d.buffer ++ bytes }

/-- The position of the first delimiter in the buffer. -/
def delimiter? (d : Decoder) : Option Nat :=
  (Search.firstIndex? d.framing.delimiter (d.buffer.drop d.scanned)).map
    (min d.scanned d.buffer.length + ·)

/-- Takes out a message that ends before position `stop`. -/
def takeFrame (d : Decoder) (stop : Nat) : Frame × Decoder :=
  let rest : Decoder :=
    { framing := d.framing, buffer := d.buffer.drop (stop + d.framing.delimiter.length) }
  match d.dropped with
  | some n => (.tooLong (n + stop), rest)
  | none =>
    if stop > d.framing.maxSize then (.tooLong stop, rest)
    else (.line (Bytes.dropReturn (d.buffer.take stop)), rest)

/-- Without a delimiter in the buffer: drops bytes of a message over the limit. -/
def shorten (d : Decoder) : Decoder :=
  let n := d.buffer.length - d.framing.keep
  if d.dropped.isSome || d.buffer.length > d.framing.room then
    { d with buffer := d.buffer.drop n, scanned := 0, dropped := some (d.dropped.getD 0 + n) }
  else { d with scanned := n }

/-- The next message, if it has come to its delimiter, and the decoder after it. -/
def next (d : Decoder) : Option Frame × Decoder :=
  match d.delimiter? with
  | some stop =>
    let (frame, d) := d.takeFrame stop
    (some frame, d)
  | none => (none, d.shorten)

/-- The message that the end of the stream ends, if there is any byte of it. -/
def last (d : Decoder) : Option Frame × Decoder :=
  let rest : Decoder := { framing := d.framing }
  match d.dropped with
  | some n => (some (.tooLong (n + d.buffer.length)), rest)
  | none =>
    if d.buffer.isEmpty then (none, rest)
    else
      let line := Bytes.dropReturn d.buffer
      if line.length > d.framing.maxSize then (some (.tooLong line.length), rest)
      else (some (.line line), rest)

/-- The next message when nothing more will come, and the decoder after it. -/
def finish (d : Decoder) : Option Frame × Decoder :=
  match d.next with
  | (some frame, d) => (some frame, d)
  | (none, d) => d.last

/-! ### All messages -/

/-- A delimiter that is found lies in the buffer. -/
theorem buffer_ne_nil_of_delimiter? {d : Decoder} {stop : Nat} (h : d.delimiter? = some stop) :
    d.buffer ≠ [] := by
  intro nil
  simp [delimiter?, nil, Search.firstIndex?, d.framing.delimiter_ne_nil] at h

/-- Each message that is taken out leaves fewer bytes. -/
theorem length_next_lt {d d' : Decoder} {frame : Frame} (h : d.next = (some frame, d')) :
    d'.buffer.length < d.buffer.length := by
  unfold next at h
  split at h
  · next stop found =>
    have nonempty := List.length_pos_iff.mpr (buffer_ne_nil_of_delimiter? found)
    have width := List.length_pos_iff.mpr d.framing.delimiter_ne_nil
    have rest : d'.buffer = d.buffer.drop (stop + d.framing.delimiter.length) := by
      have := congrArg Prod.snd h
      simp only [takeFrame] at this
      rw [← this]
      split <;> (try split) <;> rfl
    rw [rest, List.length_drop]
    omega
  · simp at h

/-- All messages that have come to their delimiters, and the decoder after them. -/
def all (d : Decoder) : List Frame × Decoder :=
  match _h : d.next with
  | (some frame, d') =>
    let (frames, rest) := d'.all
    (frame :: frames, rest)
  | (none, d') => ([], d')
termination_by d.buffer.length
decreasing_by exact length_next_lt _h

/-- All messages when nothing more will come. -/
def finishAll (d : Decoder) : List Frame :=
  let (frames, d) := d.all
  frames ++ d.last.1.toList

end Decoder

end Framing

end Syslog

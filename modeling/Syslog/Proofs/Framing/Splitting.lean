import Syslog.Framing.Fragment

/-!
# How a message is split

A part holds as much of a message as fits beside its marks: the first has one mark, those in the
middle have two, and the last has one again and takes what is left. These three sizes are
differences, and the cuts are made before anybody has looked at how much is left; this file says
that they lie inside the message all the same.

* `Bytes.cut?`, `splitChecked?`: splitting that stops at a cut outside the message;
* `Parted`: what the parts after the first hold; `parted_continuation`: the loop that cuts them;
* `split_cuts`: all parts.
-/

namespace Syslog

/-- What stands before and after a position inside the bytes; there is none outside. -/
def Bytes.cut? (bytes : Bytes) (position : Nat) : Option (Bytes × Bytes) :=
  if position ≤ bytes.length then some (bytes.take position, bytes.drop position) else none

theorem Bytes.cut?_of_le {bytes : Bytes} {position : Nat} (inside : position ≤ bytes.length) :
    bytes.cut? position = some (bytes.take position, bytes.drop position) := if_pos inside

namespace Fragmenter

variable {f : Fragmenter}

/-! ## 1. Cuts that are checked -/

/-- The parts after the first, so many at most, if every cut lies in what is left. -/
def continuationChecked? (f : Fragmenter) : Nat → Bytes → Option (List Bytes)
  | 0, _ => none
  | n + 1, rest =>
    if f.markers.beginning.length + rest.length > f.maxLength then do
      let (content, rest) ← rest.cut? f.middleRoom
      let parts ← f.continuationChecked? n rest
      return (f.markers.beginning ++ content ++ f.markers.ending) :: parts
    else some [f.markers.beginning ++ rest]

/-- The datagrams of a message, if every cut lies in the message, and there are no more of them than
the message has bytes. -/
def splitChecked? (f : Fragmenter) (payload : Bytes) : Option (List Bytes) :=
  if payload.length ≤ f.maxLength then some [payload]
  else do
    let (content, rest) ← payload.cut? f.firstRoom
    let parts ← f.continuationChecked? rest.length rest
    return (content ++ f.markers.ending) :: parts

/-! ## 2. The parts after the first -/

/-- A part with two marks. -/
def middle (f : Fragmenter) (content : Bytes) : Bytes :=
  f.markers.beginning ++ content ++ f.markers.ending

/-- What is left of a message is in parts that are full, and a last one that fits and holds more
than a mark. -/
structure Parted (f : Fragmenter) (rest : Bytes) (contents : List Bytes) (last : Bytes) :
    Prop where
  whole : contents.flatten ++ last = rest
  full : ∀ content ∈ contents,
    f.markers.beginning.length + content.length + f.markers.ending.length = f.maxLength
  fits : f.markers.beginning.length + last.length ≤ f.maxLength
  long : f.markers.ending.length < last.length

/-- **Each turn of the loop cuts inside what is left**, and leaves more than a mark. -/
theorem parted_continuation {rest : Bytes} (long : f.markers.ending.length < rest.length) {n : Nat}
    (enough : rest.length ≤ n) :
    f.continuationChecked? n rest = some (f.continuation rest) ∧
      ∃ contents last, Parted f rest contents last ∧
        f.continuation rest = contents.map f.middle ++ [f.markers.beginning ++ last] := by
  induction rest using continuation.induct f generalizing n with
  | case1 rest excess ih =>
    have space := f.room
    obtain ⟨n, rfl⟩ : ∃ m, n = m + 1 := ⟨n - 1, by omega⟩
    have inside : f.middleRoom ≤ rest.length := by
      rw [middleRoom]
      omega
    have left : (rest.drop f.middleRoom).length = rest.length - f.middleRoom := List.length_drop
    have some_room : 0 < f.middleRoom := by
      rw [middleRoom]
      omega
    have longer : f.markers.ending.length < (rest.drop f.middleRoom).length := by
      rw [left, middleRoom]
      omega
    obtain ⟨checked, contents, last, parted, parts⟩ := ih longer (n := n) (by omega)
    rw [continuation, if_pos excess]
    refine ⟨?_, rest.take f.middleRoom :: contents, last, ⟨?_, ?_, parted.fits, parted.long⟩, ?_⟩
    · rw [continuationChecked?, if_pos excess, Bytes.cut?_of_le inside]
      simp only [Option.bind_eq_bind, Option.bind_some, checked]
      rfl
    · rw [List.flatten_cons, List.append_assoc, parted.whole, List.take_append_drop]
    · refine List.forall_mem_cons.2 ⟨?_, parted.full⟩
      rw [List.length_take_of_le inside, middleRoom]
      omega
    · rw [parts]
      rfl
  | case2 rest short =>
    obtain ⟨n, rfl⟩ : ∃ m, n = m + 1 := ⟨n - 1, by omega⟩
    rw [continuation, if_neg short]
    refine ⟨by rw [continuationChecked?, if_neg short], [], rest, ⟨rfl, ?_, ?_, long⟩, rfl⟩
    · exact fun _ member => nomatch member
    · exact Nat.not_lt.1 short

/-! ## 3. All parts -/

/-- More is left behind the first part than a mark. -/
theorem long_rest (f : Fragmenter) {payload : Bytes} (excess : f.maxLength < payload.length) :
    f.firstRoom ≤ payload.length ∧
      f.markers.ending.length < (payload.drop f.firstRoom).length := by
  have space := f.room
  rw [List.length_drop, firstRoom]
  omega

/-- **No cut lies outside the message.** -/
theorem splitChecked?_eq (f : Fragmenter) (payload : Bytes) :
    f.splitChecked? payload = some (f.split payload) := by
  unfold splitChecked? split
  split
  · rfl
  · rename_i excess
    obtain ⟨inside, long⟩ := f.long_rest (Nat.not_le.1 excess)
    obtain ⟨checked, -⟩ := parted_continuation long (Nat.le_refl _)
    rw [Bytes.cut?_of_le inside]
    simp only [Option.bind_eq_bind, Option.bind_some, checked]
    rfl

/-- **A message that is too long is cut**: the first part is full as well. -/
theorem parted_split {payload : Bytes} (excess : f.maxLength < payload.length) :
    ∃ first rest contents last, first ++ rest = payload ∧
      first.length + f.markers.ending.length = f.maxLength ∧ Parted f rest contents last ∧
      f.split payload = ((first ++ f.markers.ending) :: contents.map f.middle) ++
        [f.markers.beginning ++ last] := by
  have space := f.room
  obtain ⟨inside, long⟩ := f.long_rest excess
  obtain ⟨-, contents, last, parted, parts⟩ := parted_continuation long (Nat.le_refl _)
  refine ⟨payload.take f.firstRoom, _, contents, last, List.take_append_drop _ _, ?_, parted, ?_⟩
  · rw [List.length_take_of_le inside, firstRoom]
    omega
  · rw [split, if_neg (Nat.not_le.2 excess), parts]
    rfl

/-- **Marks that leave room split every message.** No cut lies outside the message. A message that
fits is the only datagram; a longer one is cut into contents that make it up, each with something in
it and the last longer than a mark. Every datagram but the last is full. -/
theorem split_cuts (markers : Markers) {maxLength : Nat}
    (room : markers.beginning.length + markers.ending.length < maxLength) (payload : Bytes) :
    ∃ f, make markers maxLength = .ok f ∧ f.splitChecked? payload = some (f.split payload) ∧
      if payload.length ≤ maxLength then f.split payload = [payload]
      else ∃ first contents last,
        f.split payload =
          ((first ++ markers.ending) ::
            contents.map fun content => markers.beginning ++ content ++ markers.ending) ++
          [markers.beginning ++ last] ∧
        first ++ contents.flatten ++ last = payload ∧
        (∀ content ∈ first :: contents ++ [last], content ≠ []) ∧
        markers.ending.length < last.length ∧
        (∀ part ∈ (f.split payload).dropLast, part.length = maxLength) ∧
        (markers.beginning ++ last).length ≤ maxLength := by
  refine ⟨⟨markers, maxLength, room⟩, dif_pos room, splitChecked?_eq _ payload, ?_⟩
  split
  · rename_i fits
    exact if_pos fits
  · rename_i excess
    obtain ⟨first, rest, contents, last, payload_eq, first_full, parted, parts⟩ :=
      parted_split (f := ⟨markers, maxLength, room⟩) (Nat.not_le.1 excess)
    obtain ⟨whole, full, fits, long⟩ := parted
    dsimp only at first_full full fits long
    refine ⟨first, contents, last, parts, ?_, ?_, long, ?_, ?_⟩
    · rw [List.append_assoc, whole, payload_eq]
    · intro content member
      rw [← List.length_pos_iff]
      rcases List.mem_append.1 member with before | final
      · rcases List.mem_cons.1 before with rfl | between
        · omega
        · have content_full := full content between
          omega
      · obtain rfl := List.mem_singleton.1 final
        exact Nat.zero_lt_of_lt long
    · rw [parts, List.dropLast_concat]
      refine List.forall_mem_cons.2 ⟨?_, fun part member => ?_⟩
      · rw [List.length_append]
        exact first_full
      · obtain ⟨content, between, rfl⟩ := List.mem_map.1 member
        rw [middle, List.length_append, List.length_append]
        exact full content between
    · rw [List.length_append]
      exact fits

/-- Marks of three and two bytes, and a message of which all parts are full, the last one too. -/
theorem split_cuts_of_full_parts :
    let markers : Markers := ⟨[1, 1, 1], [2, 2]⟩
    let payload : Bytes := [10, 11, 12, 13, 14, 15, 16, 17, 18, 19, 20]
    markers.beginning.length + markers.ending.length < 7 ∧
      ∃ f, make markers 7 = .ok f ∧
        f.split payload = [[10, 11, 12, 13, 14, 2, 2], [1, 1, 1, 15, 16, 2, 2],
          [1, 1, 1, 17, 18, 19, 20]] := by
  intro markers payload
  have room : markers.beginning.length + markers.ending.length < 7 := by decide
  obtain ⟨f, made, checked, -⟩ := split_cuts markers room payload
  refine ⟨room, f, made, ?_⟩
  obtain rfl : ⟨markers, 7, room⟩ = f := Except.ok.inj made
  exact (Option.some.inj checked).symm

end Fragmenter

end Syslog

import Mathlib.Tactic.Ring
import Syslog.Proofs.Framing.Conservation

/-!
# What is held of a peer does not grow without end

Only the contents that are joined are measured against the size of a message; the datagrams as they
came are kept beside them, with all their marks. They are bounded nevertheless, because no part is
empty: a peer that sends marks has to send content with them.

* `Built`: how datagrams make up what is held, part by part;
* `Slot.push_cases`, `Slot.perform_cases`: what an operation can leave in a slot;
* `Recent.perform`, `Recent.performAll`: what is held is built from the last datagrams of its peer;
* `Built.length_le`, `Built.joined_le`: there are no more parts than bytes of content, and no more
  content than the first datagram or a message may have;
* `pending_bounded`: every entry in every run.
-/

namespace Syslog.Reassembler

variable {κ : Type} [DecidableEq κ]

/-! ## 1. Part by part -/

/-- How datagrams make up what is held of a peer. -/
inductive Built (m : Markers) (maxSize : Nat) : List Bytes → Unfinished → Prop
  /-- A first part of any size. -/
  | first {datagram : Bytes} (now : Time.Duration) (fresh : m.continues datagram = false)
      (more : m.goesOn datagram = true) :
      Built m maxSize [datagram] ⟨m.dropEnding datagram, datagram, now⟩
  /-- A later part, if the content with it is not too long for a message. -/
  | later {block : List Bytes} {u : Unfinished} {datagram : Bytes} (now : Time.Duration)
      (before : Built m maxSize block u) (continues : m.continues datagram = true)
      (more : m.goesOn (m.dropBeginning datagram) = true)
      (size : (Slot.extend m u now datagram).joined.length ≤ maxSize) :
      Built m maxSize (block ++ [datagram]) (Slot.extend m u now datagram)

section Parts

variable {m : Markers} {maxSize : Nat} {block : List Bytes} {u : Unfinished}

theorem Built.held (h : Built m maxSize block u) : Held m block (some u) := by
  induction h with
  | first now fresh more => exact held_first now more
  | later now before continues more size ih => exact ih.extend now continues more

/-- **A part that goes on is not empty**, as there is more to it than its mark. -/
theorem length_dropEnding_pos {datagram : Bytes} (more : m.goesOn datagram = true) :
    0 < (m.dropEnding datagram).length := by
  obtain ⟨-, long, -⟩ := Markers.goesOn_iff.1 more
  rw [Markers.dropEnding, List.length_take]
  omega

/-- There are no more parts than bytes of content. -/
theorem Built.length_le (h : Built m maxSize block u) : block.length ≤ u.joined.length := by
  induction h with
  | first now fresh more => exact length_dropEnding_pos more
  | later now before continues more size ih =>
    -- one part more, and at least one byte more
    have content := length_dropEnding_pos more
    simp only [Slot.extend, more, if_true, List.length_append, List.length_singleton]
    omega

/-- Only a first part may hold more content than a message. -/
theorem Built.joined_le (h : Built m maxSize block u) :
    ∃ first later, block = first :: later ∧ u.joined.length ≤ max maxSize first.length := by
  cases h with
  | @first datagram now fresh more =>
    have shorter : (m.dropEnding datagram).length ≤ datagram.length := List.length_take_le' _ _
    exact ⟨datagram, [], rfl, Nat.le_trans shorter (Nat.le_max_right ..)⟩
  | @later block u datagram now before continues more size =>
    obtain ⟨first, rest, rfl⟩ := List.exists_cons_of_ne_nil before.held.1.ne_nil
    exact ⟨first, rest ++ [datagram], rfl, Nat.le_trans size (Nat.le_max_left ..)⟩

/-- What the marks add to the content. -/
theorem Parts.length_flatten {first : Bytes} {later : List Bytes} {content : Bytes}
    (h : Parts m (first :: later) content) :
    (first :: later).flatten.length =
      content.length + (later.length + 1) * m.ending.length +
        later.length * m.beginning.length := by
  obtain ⟨front, parts, cut, rfl⟩ := h
  obtain ⟨rfl, rfl⟩ := List.cons.inj cut
  have marked : ∀ parts : List Bytes,
      (parts.map fun part => m.beginning ++ part ++ m.ending).flatten.length =
        parts.flatten.length + parts.length * m.ending.length +
          parts.length * m.beginning.length := by
    intro parts
    induction parts with
    | nil => simp
    | cons part rest ih =>
      simp only [List.map_cons, List.flatten_cons, List.length_append, List.length_cons, ih]
      ring
  simp only [List.flatten_cons, List.length_append, List.length_map, marked]
  ring

/-- The datagrams have their content and their marks, and nothing else. -/
theorem Built.length_raw {first : Bytes} {later : List Bytes}
    (h : Built m maxSize (first :: later) u) :
    u.raw.length = u.joined.length + (later.length + 1) * m.ending.length +
      later.length * m.beginning.length := by
  rw [h.held.2, h.held.1.length_flatten]

/-- **The datagrams are a fixed multiple of their content at most**: each byte of it stands for no
more than one mark of either kind. -/
theorem Built.length_raw_le {first : Bytes} {later : List Bytes}
    (h : Built m maxSize (first :: later) u) :
    u.raw.length ≤ (1 + m.beginning.length + m.ending.length) * u.joined.length := by
  have parts : later.length + 1 ≤ u.joined.length := h.length_le
  have endings : (later.length + 1) * m.ending.length ≤ u.joined.length * m.ending.length :=
    Nat.mul_le_mul_right _ parts
  have beginnings : later.length * m.beginning.length ≤ u.joined.length * m.beginning.length :=
    Nat.mul_le_mul_right _ (Nat.le_of_succ_le parts)
  calc u.raw.length
      = u.joined.length + (later.length + 1) * m.ending.length +
          later.length * m.beginning.length := h.length_raw
    _ ≤ u.joined.length + u.joined.length * m.ending.length +
          u.joined.length * m.beginning.length := by omega
    _ = (1 + m.beginning.length + m.ending.length) * u.joined.length := by ring

end Parts

/-! ## 2. What an operation leaves -/

namespace Slot

variable {m : Markers} {maxSize : Nat} {slot : Slot} {u : Unfinished}

/-- After a datagram a slot holds that datagram as a first part, or as one part more. -/
theorem push_cases {now : Time.Duration} {datagram : Bytes}
    (h : (push m maxSize now datagram slot).2 = some u) :
    (m.continues datagram = false ∧ m.goesOn datagram = true ∧
        u = ⟨m.dropEnding datagram, datagram, now⟩) ∨
      ∃ v, slot = some v ∧ m.continues datagram = true ∧
        m.goesOn (m.dropBeginning datagram) = true ∧
        (extend m v now datagram).joined.length ≤ maxSize ∧ u = extend m v now datagram := by
  -- a datagram that continues nothing is taken in the same way whether something was held or not
  have fresh : (pushFresh m now datagram).2 = some u → m.continues datagram = false ∧
      m.goesOn datagram = true ∧ u = ⟨m.dropEnding datagram, datagram, now⟩ := by
    unfold pushFresh
    split
    · rename_i first
      simp only [Bool.and_eq_true, Bool.not_eq_true'] at first
      exact fun h => ⟨first.2, first.1, (Option.some.inj h).symm⟩
    · rintro ⟨⟩
  cases slot with
  | none => exact .inl (fresh h)
  | some v =>
    by_cases continues : m.continues datagram = true
    · simp only [push, if_pos continues, pushPart] at h
      split at h
      · cases h
      · rename_i size
        split at h
        · rename_i more
          exact .inr ⟨v, rfl, continues, more, Nat.not_lt.1 size, (Option.some.inj h).symm⟩
        · cases h
    · simp only [push, if_neg continues] at h
      exact .inl (fresh h)

/-- After any operation it holds what a datagram of its peer has left there, or what it held. -/
theorem perform_cases {peer : κ} {op : Operation κ}
    (h : (perform m maxSize peer slot op).2 = some u) :
    (op.datagramsOf peer = [] ∧ slot = some u) ∨
      ∃ now datagram, op.datagramsOf peer = [datagram] ∧
        (push m maxSize now datagram slot).2 = some u := by
  cases op with
  | push now other datagram =>
    simp only [perform, Operation.datagramsOf] at h ⊢
    split at h
    · rename_i same
      exact .inr ⟨now, datagram, if_pos same, h⟩
    · rename_i ne
      exact .inl ⟨if_neg ne, h⟩
  | expire now maxAge => exact .inl ⟨rfl, (Option.filter_eq_some_iff.1 h).1⟩
  | drain => exact .inl ⟨rfl, (Option.filter_eq_some_iff.1 h).1⟩

end Slot

/-! ## 3. Runs -/

/-- What is held of a peer is built from the last of the datagrams that came from it. -/
def Recent (m : Markers) (maxSize : Nat) (arrived : List Bytes) (slot : Slot) : Prop :=
  ∀ u, slot = some u → ∃ earlier block, arrived = earlier ++ block ∧ Built m maxSize block u

section Runs

variable {m : Markers} {maxSize : Nat} {arrived : List Bytes} {slot : Slot}

/-- One operation. -/
theorem Recent.perform (h : Recent m maxSize arrived slot) (peer : κ) (op : Operation κ) :
    Recent m maxSize (arrived ++ op.datagramsOf peer) (Slot.perform m maxSize peer slot op).2 := by
  intro u held
  obtain ⟨none_came, rfl⟩ | ⟨now, datagram, came, pushed⟩ := Slot.perform_cases held
  · rw [none_came, List.append_nil]
    exact h u rfl
  · rw [came]
    obtain ⟨fresh, more, rfl⟩ | ⟨v, rfl, continues, more, size, rfl⟩ := Slot.push_cases pushed
    · exact ⟨arrived, [datagram], rfl, .first now fresh more⟩
    · obtain ⟨earlier, block, rfl, built⟩ := h v rfl
      exact ⟨earlier, block ++ [datagram], List.append_assoc ..,
        built.later now continues more size⟩

/-- Many operations. -/
theorem Recent.performAll (h : Recent m maxSize arrived slot) (peer : κ)
    (ops : List (Operation κ)) :
    Recent m maxSize (arrived ++ ops.flatMap (Operation.datagramsOf peer))
      (Slot.performAll m maxSize peer slot ops).2 := by
  induction ops generalizing arrived slot with
  | nil => rwa [List.flatMap_nil, List.append_nil]
  | cons op rest ih =>
    have after := ih (h.perform peer op)
    rwa [List.append_assoc] at after

end Runs

/-- Each peer stays held once. -/
theorem Distinct.performAll {r : Reassembler κ} (h : r.Distinct) (ops : List (Operation κ)) :
    (r.performAll ops).2.Distinct := by
  induction ops generalizing r with
  | nil => exact h
  | cons op rest ih => exact ih (perform_keeps h op).2.2

/-- Where each peer is held once, an entry is what is held of its peer. -/
theorem pending?_of_mem {r : Reassembler κ} (distinct : r.Distinct) {entry : κ × Unfinished}
    (h : entry ∈ r.pending) : r.pending? entry.1 = some entry.2 := by
  obtain ⟨before, after, cut⟩ := List.append_of_mem h
  refine List.lookup_eq_some_iff.2 ⟨before, after, cut, fun e he => ?_⟩
  rw [Distinct, cut, List.map_append, List.nodup_append] at distinct
  have apart := distinct.2.2 e.1 (List.mem_map_of_mem he) entry.1 (by simp)
  simpa [bne_iff_ne] using apart.symm

/-- **What is held of a peer is bounded in every run.** It consists of the last datagrams that came
from the peer. There are no more of them than bytes of content, the marks are all that the datagrams
have beside their content, and the content is no longer than a message may be or the first datagram
was. So what is kept of the datagrams is a fixed multiple of that at most. -/
theorem pending_bounded (markers : Markers) (maxSize : Nat) (ops : List (Operation κ)) :
    ∀ entry ∈ (({ markers, maxSize } : Reassembler κ).performAll ops).2.pending,
      ∃ earlier first later,
        ops.flatMap (Operation.datagramsOf entry.1) = earlier ++ first :: later ∧
        Held markers (first :: later) (some entry.2) ∧
        let parts := later.length + 1
        let limit := max maxSize first.length
        parts ≤ entry.2.joined.length ∧
        entry.2.raw.length = entry.2.joined.length + parts * markers.ending.length +
          (parts - 1) * markers.beginning.length ∧
        entry.2.joined.length ≤ limit ∧
        entry.2.raw.length ≤ (1 + markers.beginning.length + markers.ending.length) * limit := by
  intro entry mem
  have distinct : ({ markers, maxSize } : Reassembler κ).Distinct := List.nodup_nil
  have held := pending?_of_mem (distinct.performAll ops) mem
  have run := congrArg Prod.snd (performAll_slot distinct entry.1 ops)
  have start : Recent markers maxSize [] none := fun _ => nofun
  obtain ⟨earlier, block, cut, built⟩ := start.performAll entry.1 ops entry.2 (run.symm.trans held)
  obtain ⟨first, later, rfl, content⟩ := built.joined_le
  exact ⟨earlier, first, later, cut, built.held, built.length_le, built.length_raw, content,
    built.length_raw_le.trans (Nat.mul_le_mul_left _ content)⟩

/-- Three parts of a peer after a message of it that grew too long, while what another peer had sent
is given up: ten bytes are kept, where a message may have four. -/
theorem pending_bounded_of_three_parts :
    let markers : Markers := ⟨[0x3c, 0x3c], [0x3e]⟩
    let ops : List (Operation Nat) := [.push ⟨0⟩ 1 [0x61, 0x62, 0x63, 0x64, 0x3e],
      .push ⟨1⟩ 2 [0x78, 0x3e], .push ⟨2⟩ 1 [0x3c, 0x3c, 0x65, 0x3e], .push ⟨3⟩ 1 [0x61, 0x3e],
      .push ⟨4⟩ 1 [0x3c, 0x3c, 0x62, 0x3e], .push ⟨5⟩ 1 [0x3c, 0x3c, 0x63, 0x3e],
      .expire ⟨7⟩ ⟨4⟩]
    let u : Unfinished := ⟨[0x61, 0x62, 0x63],
      [0x61, 0x3e, 0x3c, 0x3c, 0x62, 0x3e, 0x3c, 0x3c, 0x63, 0x3e], ⟨5⟩⟩
    (({ markers, maxSize := 4 } : Reassembler Nat).performAll ops).2.pending = [(1, u)] ∧
      ∃ earlier first later,
        ops.flatMap (Operation.datagramsOf 1) = earlier ++ first :: later ∧
        Held markers (first :: later) (some u) ∧
        later.length + 1 ≤ 3 ∧ 10 = 3 + (later.length + 1) * 1 + (later.length + 1 - 1) * 2 ∧
        3 ≤ max 4 first.length ∧ 10 ≤ (1 + 2 + 1) * max 4 first.length := by
  intro markers ops u
  have pending :
      (({ markers, maxSize := 4 } : Reassembler Nat).performAll ops).2.pending = [(1, u)] := by
    decide
  refine ⟨pending, pending_bounded markers 4 ops (1, u) ?_⟩
  rw [pending]
  exact List.mem_singleton_self _

end Syslog.Reassembler

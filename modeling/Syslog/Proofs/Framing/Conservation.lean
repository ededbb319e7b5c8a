import Mathlib.Data.List.Forall2
import Syslog.Proofs.Framing.Rejoin

/-!
# Nothing is lost, doubled or mixed up

A receiver takes datagrams of many peers in any order, and gives up unfinished messages when it is
asked to. This file follows the datagrams of one peer through such a run.

* `Operation`, `performAll`: what a receiver is asked to do, and a run of it;
* `Slot.push`, `Slot.perform`, `Slot.performAll`: the same for one peer by itself, on what is held
  of that peer and nothing else;
* `performAll_slot`: for each peer a receiver does what is done for that peer by itself;
* `Parts`, `Held`, `Given`: how datagrams make up what is held and the messages that are given;
* `Slot.perform_blocks`: what one operation does to a history that is cut into blocks;
* `performAll_blocks`: a whole run.
-/

namespace Syslog.Reassembler

variable {κ : Type} [DecidableEq κ]

/-! ## 1. Runs of a receiver -/

/-- What a receiver is asked to do. -/
inductive Operation (κ : Type) where
  | push (now : Time.Duration) (peer : κ) (datagram : Bytes)
  | expire (now maxAge : Time.Duration)
  | drain

namespace Operation

/-- What comes from a peer with the operation. -/
def datagramsOf (peer : κ) : Operation κ → List Bytes
  | push _ other datagram => if other = peer then [datagram] else []
  | expire .. | drain => []

/-- Is it anything but a datagram of another peer? -/
def concerns (peer : κ) : Operation κ → Bool
  | push _ other _ => other = peer
  | expire .. | drain => true

end Operation

/-- One operation: the messages that it gives, with their peers, and the receiver after it. -/
def perform (r : Reassembler κ) : Operation κ → List (κ × Bytes) × Reassembler κ
  | .push now peer datagram =>
    let (messages, r) := r.push now peer datagram
    (messages.map (peer, ·), r)
  | .expire now maxAge => r.expire now maxAge
  | .drain => r.drain

/-- Operations, one after the other. -/
def performAll (r : Reassembler κ) : List (Operation κ) → List (κ × Bytes) × Reassembler κ
  | [] => ([], r)
  | op :: rest =>
    let (given, r) := r.perform op
    let (more, r) := r.performAll rest
    (given ++ more, r)

/-- The messages of one peer, in order. -/
def messagesOf (peer : κ) (given : List (κ × Bytes)) : List Bytes :=
  (given.filter (·.1 = peer)).map (·.2)

@[simp] theorem messagesOf_append (peer : κ) (given more : List (κ × Bytes)) :
    messagesOf peer (given ++ more) = messagesOf peer given ++ messagesOf peer more := by
  simp [messagesOf]

theorem messagesOf_map (peer other : κ) (messages : List Bytes) :
    messagesOf peer (messages.map (other, ·)) = if other = peer then messages else [] := by
  by_cases h : other = peer <;> simp [messagesOf, List.filter_map, Function.comp_def, h]

/-! ## 2. One peer by itself -/

/-- What is held of one peer. -/
abbrev Slot := Option Unfinished

namespace Slot

variable (m : Markers) (maxSize : Nat)

/-- A datagram when nothing is held. -/
def pushFresh (now : Time.Duration) (datagram : Bytes) : List Bytes × Slot :=
  if m.goesOn datagram && !m.continues datagram then
    ([], some ⟨m.dropEnding datagram, datagram, now⟩)
  else ([datagram], none)

/-- What is held, with a part that continues it. -/
def extend (u : Unfinished) (now : Time.Duration) (datagram : Bytes) : Unfinished :=
  let part := m.dropBeginning datagram
  ⟨u.joined ++ (if m.goesOn part then m.dropEnding part else part), u.raw ++ datagram, now⟩

/-- A part that continues what is held. -/
def pushPart (u : Unfinished) (now : Time.Duration) (datagram : Bytes) : List Bytes × Slot :=
  if maxSize < (extend m u now datagram).joined.length then ([u.raw ++ datagram], none)
  else if m.goesOn (m.dropBeginning datagram) then ([], some (extend m u now datagram))
  else ([(extend m u now datagram).joined], none)

/-- A datagram. -/
def push (now : Time.Duration) (datagram : Bytes) : Slot → List Bytes × Slot
  | none => pushFresh m now datagram
  | some u =>
    if m.continues datagram then pushPart m maxSize u now datagram
    else
      let (messages, slot) := pushFresh m now datagram
      (u.raw :: messages, slot)

/-- Gives up what is held if `stale` says so. -/
def giveUp (stale : Unfinished → Bool) (slot : Slot) : List Bytes × Slot :=
  (((slot.filter stale).map (·.raw)).toList, slot.filter (!stale ·))

/-- Has it not grown for `maxAge`? -/
def isStale (now maxAge : Time.Duration) (u : Unfinished) : Bool :=
  decide (maxAge.nanoseconds ≤ now.nanoseconds - u.updated.nanoseconds)

/-- One operation, seen from `peer`. -/
def perform (peer : κ) (slot : Slot) : Operation κ → List Bytes × Slot
  | .push now other datagram =>
    if other = peer then push m maxSize now datagram slot else ([], slot)
  | .expire now maxAge => giveUp (isStale now maxAge) slot
  | .drain => giveUp (fun _ => true) slot

/-- Operations, one after the other. -/
def performAll (peer : κ) (slot : Slot) : List (Operation κ) → List Bytes × Slot
  | [] => ([], slot)
  | op :: rest =>
    let (messages, slot) := perform m maxSize peer slot op
    let (more, slot) := performAll peer slot rest
    (messages ++ more, slot)

/-- A datagram of another peer changes nothing. -/
theorem perform_of_not_concerns {peer : κ} {op : Operation κ} (slot : Slot)
    (h : op.concerns peer = false) : perform m maxSize peer slot op = ([], slot) := by
  cases op with
  | push now other datagram =>
    have ne : other ≠ peer := by simpa [Operation.concerns] using h
    rw [perform, if_neg ne]
  | expire now maxAge => cases h
  | drain => cases h

/-- Datagrams of other peers may be left out. -/
theorem performAll_filter (peer : κ) (slot : Slot) (ops : List (Operation κ)) :
    performAll m maxSize peer slot (ops.filter (Operation.concerns peer)) =
      performAll m maxSize peer slot ops := by
  induction ops generalizing slot with
  | nil => rfl
  | cons op rest ih =>
    cases h : op.concerns peer with
    | true => simp only [List.filter_cons_of_pos h, performAll, ih]
    | false =>
      rw [List.filter_cons_of_neg (by simp [h]), ih, performAll,
        perform_of_not_concerns m maxSize slot h]
      rfl

end Slot

/-! ## 3. A receiver is one slot for each peer -/

/-- Each peer is held once. -/
def Distinct (r : Reassembler κ) : Prop := (r.pending.map (·.1)).Nodup

/-- The receiver with something else in the slot of a peer. -/
def put (r : Reassembler κ) (peer : κ) : Slot → Reassembler κ
  | none => r.drop peer
  | some u => r.hold peer u

section Slots

variable {r : Reassembler κ} {peer other : κ} (slot : Slot)

@[simp] theorem put_markers : (r.put peer slot).markers = r.markers := by cases slot <;> rfl
@[simp] theorem put_maxSize : (r.put peer slot).maxSize = r.maxSize := by cases slot <;> rfl

@[simp] theorem pending?_put : (r.put peer slot).pending? peer = slot := by
  cases slot with
  | none => exact pending?_drop
  | some u => exact pending?_hold u

theorem pending?_put_of_ne (h : other ≠ peer) :
    (r.put peer slot).pending? other = r.pending? other := by
  cases slot with
  | none => exact pending?_drop_of_ne h
  | some u => exact pending?_hold_of_ne h u

theorem Distinct.put (h : r.Distinct) : (r.put peer slot).Distinct := by
  have dropped : (r.drop peer).Distinct := h.sublist (List.filter_sublist.map _)
  cases slot with
  | none => exact dropped
  | some u =>
    refine List.nodup_cons.2 ⟨?_, dropped⟩
    simp [Reassembler.drop]

theorem drop_of_idle (idle : r.pending? peer = none) : r.drop peer = r := by
  have all : r.pending.filter (·.1 != peer) = r.pending := by
    refine List.filter_eq_self.2 fun e he => ?_
    simpa [bne_iff_ne, ne_comm] using List.lookup_eq_none_iff.1 idle e he
  rw [drop, all]

theorem drop_hold (u : Unfinished) : (r.drop peer).hold peer u = r.hold peer u := by
  simp [hold, drop, List.filter_filter]

/-- With nothing held, a datagram is taken as in the slot by itself. -/
theorem pushFresh_eq (now : Time.Duration) (datagram : Bytes) :
    (r.drop peer).pushFresh now peer datagram =
      ((Slot.pushFresh r.markers now datagram).1,
        r.put peer (Slot.pushFresh r.markers now datagram).2) := by
  unfold pushFresh Slot.pushFresh
  rw [show (r.drop peer).markers = r.markers from rfl, drop_hold]
  split <;> rfl

/-- A part is taken as in the slot by itself. -/
theorem pushPart_eq (u : Unfinished) (now : Time.Duration) (datagram : Bytes) :
    r.pushPart now peer u datagram =
      ((Slot.pushPart r.markers r.maxSize u now datagram).1,
        r.put peer (Slot.pushPart r.markers r.maxSize u now datagram).2) := by
  show (if r.maxSize < (Slot.extend r.markers u now datagram).joined.length then
      ([u.raw ++ datagram], r.drop peer)
    else if r.markers.goesOn (r.markers.dropBeginning datagram) = true then
      ([], r.hold peer (Slot.extend r.markers u now datagram))
    else ([(Slot.extend r.markers u now datagram).joined], r.drop peer)) = _
  unfold Slot.pushPart
  split
  · rfl
  · split <;> rfl

/-- **A datagram goes to the slot of its peer**, and to no other. -/
theorem push_eq_put (r : Reassembler κ) (now : Time.Duration) (peer : κ) (datagram : Bytes) :
    r.push now peer datagram =
      ((Slot.push r.markers r.maxSize now datagram (r.pending? peer)).1,
        r.put peer (Slot.push r.markers r.maxSize now datagram (r.pending? peer)).2) := by
  cases held : r.pending? peer with
  | none =>
    have fresh := @pushFresh_eq κ _ r peer now datagram
    rw [drop_of_idle held] at fresh
    simp only [push, held, Slot.push, fresh]
  | some u =>
    simp only [push, held, Slot.push]
    split
    · exact pushPart_eq u now datagram
    · rw [pushFresh_eq]

/-- Of distinct entries, those that are picked hold what is picked of each slot. -/
theorem lookup_filter {entries : List (κ × Unfinished)} (distinct : (entries.map (·.1)).Nodup)
    (pick : Unfinished → Bool) (peer : κ) :
    (entries.filter (pick ·.2)).lookup peer = (entries.lookup peer).filter pick := by
  induction entries with
  | nil => rfl
  | cons e rest ih =>
    obtain ⟨k, u⟩ := e
    obtain ⟨fresh, distinct⟩ := List.nodup_cons.1 distinct
    by_cases here : peer = k
    · subst here
      have none_later : (rest.filter (pick ·.2)).lookup peer = none := by
        refine List.lookup_eq_none_iff.2 fun e he => bne_iff_ne.2 fun same => fresh ?_
        exact List.mem_map.2 ⟨e, (List.mem_filter.1 he).1, same.symm⟩
      cases picked : pick u <;> simp [Option.filter, picked, none_later]
    · have other : (peer == k) = false := beq_false_of_ne here
      cases picked : pick u <;> simp [List.lookup_cons, picked, other, ih distinct]

/-- Of distinct entries, a peer is given what is in its slot. -/
theorem messagesOf_entries {entries : List (κ × Unfinished)}
    (distinct : (entries.map (·.1)).Nodup) (peer : κ) :
    messagesOf peer (entries.map fun e => (e.1, e.2.raw)) =
      ((entries.lookup peer).map (·.raw)).toList := by
  induction entries with
  | nil => rfl
  | cons e rest ih =>
    obtain ⟨k, u⟩ := e
    obtain ⟨fresh, distinct⟩ := List.nodup_cons.1 distinct
    have rest_given := ih distinct
    by_cases here : peer = k
    · subst here
      have none_later : rest.lookup peer = none := by
        refine List.lookup_eq_none_iff.2 fun e he => bne_iff_ne.2 fun same => fresh ?_
        exact List.mem_map.2 ⟨e, he, same.symm⟩
      rw [none_later] at rest_given
      simpa [messagesOf] using rest_given
    · have other : (peer == k) = false := beq_false_of_ne here
      simpa [messagesOf, List.lookup_cons, other, Ne.symm here] using rest_given

/-- What `stale` picks of the entries is given up, and the others stay. -/
theorem giveUp_entries (distinct : r.Distinct) (stale : Unfinished → Bool) (peer : κ) :
    (messagesOf peer ((r.pending.filter (stale ·.2)).map fun e => (e.1, e.2.raw)),
        (r.pending.filter (!stale ·.2)).lookup peer) =
      Slot.giveUp stale (r.pending? peer) := by
  have picked : ((r.pending.filter (stale ·.2)).map (·.1)).Nodup :=
    distinct.sublist (List.filter_sublist.map _)
  rw [messagesOf_entries picked, lookup_filter distinct, lookup_filter distinct (!stale ·)]
  rfl

end Slots

/-- **One operation is done for each peer by itself.** -/
theorem perform_slot {r : Reassembler κ} (distinct : r.Distinct) (peer : κ) (op : Operation κ) :
    (messagesOf peer (r.perform op).1, (r.perform op).2.pending? peer) =
      Slot.perform r.markers r.maxSize peer (r.pending? peer) op := by
  cases op with
  | push now other datagram =>
    simp only [perform, push_eq_put, messagesOf_map, Slot.perform]
    by_cases same : other = peer
    · subst same
      simp only [if_true, pending?_put]
    · simp only [if_neg same, pending?_put_of_ne _ (Ne.symm same)]
  | expire now maxAge => exact giveUp_entries distinct (Slot.isStale now maxAge) peer
  | drain =>
    have all := giveUp_entries distinct (fun _ => true) peer
    simpa [perform, drain, pending?, Slot.perform] using all

theorem perform_keeps {r : Reassembler κ} (distinct : r.Distinct) (op : Operation κ) :
    (r.perform op).2.markers = r.markers ∧ (r.perform op).2.maxSize = r.maxSize ∧
      (r.perform op).2.Distinct := by
  cases op with
  | push now peer datagram =>
    simp only [perform, push_eq_put, put_markers, put_maxSize, true_and]
    exact distinct.put _
  | expire now maxAge => exact ⟨rfl, rfl, distinct.sublist (List.filter_sublist.map _)⟩
  | drain => exact ⟨rfl, rfl, List.nodup_nil⟩

/-- **A run is a run for each peer by itself.** -/
theorem performAll_slot {r : Reassembler κ} (distinct : r.Distinct) (peer : κ)
    (ops : List (Operation κ)) :
    (messagesOf peer (r.performAll ops).1, (r.performAll ops).2.pending? peer) =
      Slot.performAll r.markers r.maxSize peer (r.pending? peer) ops := by
  induction ops generalizing r with
  | nil => rfl
  | cons op rest ih =>
    obtain ⟨markers, size, distinct'⟩ := perform_keeps distinct op
    have step := perform_slot distinct peer op
    have later := ih distinct'
    rw [markers, size] at later
    simp only [performAll, Slot.performAll, messagesOf_append, ← step, ← later]

/-! ## 4. Blocks of datagrams -/

/-- Datagrams that go on in another one, and the content between their marks: the first has a mark
at its end, and each later one a mark at either end. -/
def Parts (m : Markers) (block : List Bytes) (content : Bytes) : Prop :=
  ∃ (first : Bytes) (later : List Bytes), block =
      (first ++ m.ending) :: later.map (fun part => m.beginning ++ part ++ m.ending) ∧
    content = first ++ later.flatten

/-- The datagrams behind what is held of a peer. -/
def Held (m : Markers) (block : List Bytes) : Slot → Prop
  | none => block = []
  | some u => Parts m block u.joined ∧ u.raw = block.flatten

/-- The datagrams behind a message that is given. -/
inductive Given (m : Markers) (maxSize : Nat) : List Bytes → Bytes → Prop
  /-- As they came. -/
  | raw {block : List Bytes} (nonempty : block ≠ []) : Given m maxSize block block.flatten
  /-- Their contents, without the marks between them. -/
  | joined {block : List Bytes} {content last : Bytes} (parts : Parts m block content)
      (size : (content ++ last).length ≤ maxSize) :
      Given m maxSize (block ++ [m.beginning ++ last]) (content ++ last)

section Blocks

variable {m : Markers} {maxSize : Nat} {block : List Bytes}

theorem append_dropBeginning {datagram : Bytes} (h : m.continues datagram = true) :
    m.beginning ++ m.dropBeginning datagram = datagram := by
  obtain ⟨-, -, rest, rfl⟩ := Markers.continues_iff.1 h
  rw [Markers.dropBeginning_append]

theorem dropEnding_append {datagram : Bytes} (h : m.goesOn datagram = true) :
    m.dropEnding datagram ++ m.ending = datagram := by
  obtain ⟨-, -, front, rfl⟩ := Markers.goesOn_iff.1 h
  rw [Markers.dropEnding_append]

theorem Parts.ne_nil {content : Bytes} (h : Parts m block content) : block ≠ [] := by
  obtain ⟨first, later, rfl, -⟩ := h
  exact List.cons_ne_nil _ _

/-- One part more. -/
theorem Parts.extend {content : Bytes} (h : Parts m block content) (part : Bytes) :
    Parts m (block ++ [m.beginning ++ part ++ m.ending]) (content ++ part) := by
  obtain ⟨first, later, rfl, rfl⟩ := h
  refine ⟨first, later ++ [part], ?_, ?_⟩
  · simp only [List.map_append, List.map_cons, List.map_nil, List.cons_append]
  · simp only [List.flatten_append, List.flatten_singleton, List.append_assoc]

/-- A first part that goes on is held. -/
theorem held_first (now : Time.Duration) {datagram : Bytes} (more : m.goesOn datagram = true) :
    Held m [datagram] (some ⟨m.dropEnding datagram, datagram, now⟩) := by
  refine ⟨⟨m.dropEnding datagram, [], ?_, ?_⟩, ?_⟩
  · rw [dropEnding_append more, List.map_nil]
  · simp
  · simp

/-- So is a later part that goes on, with what was held before. -/
theorem Held.extend {u : Unfinished} (held : Held m block (some u)) (now : Time.Duration)
    {datagram : Bytes} (continues : m.continues datagram = true)
    (more : m.goesOn (m.dropBeginning datagram) = true) :
    Held m (block ++ [datagram]) (some (Slot.extend m u now datagram)) := by
  obtain ⟨parts, raw⟩ := held
  constructor
  · have longer := parts.extend (m.dropEnding (m.dropBeginning datagram))
    rw [List.append_assoc, dropEnding_append more, append_dropBeginning continues] at longer
    simpa only [Slot.extend, more, if_true] using longer
  · simp only [Slot.extend, raw, List.flatten_append, List.flatten_singleton]

/-- How a history with `block` at its end goes on with `arrived`: blocks of the messages that are
given, and the block of what is held then. -/
def Continues (m : Markers) (maxSize : Nat) (block arrived : List Bytes)
    (outcome : List Bytes × Slot) : Prop :=
  ∃ blocks held, block ++ arrived = blocks.flatten ++ held ∧
    List.Forall₂ (Given m maxSize) blocks outcome.1 ∧ Held m held outcome.2

namespace Slot

/-- With nothing held, a datagram is a block of its own. -/
theorem pushFresh_blocks (now : Time.Duration) (datagram : Bytes) :
    Continues m maxSize [] [datagram] (pushFresh m now datagram) := by
  unfold pushFresh
  split
  · rename_i first
    exact ⟨[], [datagram], rfl, .nil, held_first now (Bool.and_eq_true_iff.1 first).1⟩
  · have given : Given m maxSize [datagram] [datagram].flatten := .raw (by simp)
    rw [List.flatten_singleton] at given
    exact ⟨[[datagram]], [], rfl, .cons given .nil, rfl⟩

/-- A part that continues a message belongs to its block. -/
theorem pushPart_blocks {u : Unfinished} (held : Held m block (some u)) (now : Time.Duration)
    {datagram : Bytes} (continues : m.continues datagram = true) :
    Continues m maxSize block [datagram] (pushPart m maxSize u now datagram) := by
  have ⟨parts, raw⟩ := held
  unfold pushPart
  split
  · -- too long: all datagrams as they came
    refine ⟨[block ++ [datagram]], [], by simp, .cons ?_ .nil, rfl⟩
    have whole : u.raw ++ datagram = (block ++ [datagram]).flatten := by
      rw [raw, List.flatten_append, List.flatten_singleton]
    rw [whole]
    exact .raw (by simp)
  · rename_i size
    split
    · rename_i more
      exact ⟨[], block ++ [datagram], rfl, .nil, held.extend now continues more⟩
    · rename_i last
      refine ⟨[block ++ [datagram]], [], by simp, .cons ?_ .nil, rfl⟩
      have content : (extend m u now datagram).joined = u.joined ++ m.dropBeginning datagram := by
        simp only [extend, if_neg last]
      rw [content] at size ⊢
      have given := Given.joined parts (Nat.not_lt.1 size)
      rwa [append_dropBeginning continues] at given

/-- A datagram goes on the block that is held, or closes it and begins another. -/
theorem push_blocks {slot : Slot} (held : Held m block slot) (now : Time.Duration)
    (datagram : Bytes) :
    Continues m maxSize block [datagram] (push m maxSize now datagram slot) := by
  cases slot with
  | none =>
    obtain rfl : block = [] := held
    exact pushFresh_blocks now datagram
  | some u =>
    by_cases continues : m.continues datagram = true
    · simpa only [push, if_pos continues] using pushPart_blocks held now continues
    · obtain ⟨blocks, rest, cut, given, fresh⟩ :
          Continues m maxSize [] [datagram] (pushFresh m now datagram) :=
        pushFresh_blocks now datagram
      obtain ⟨parts, raw⟩ := held
      simp only [push, if_neg continues]
      refine ⟨block :: blocks, rest, ?_, .cons ?_ given, fresh⟩
      · simpa using cut
      · rw [raw]
        exact .raw parts.ne_nil

/-- What is given up is given as it came. -/
theorem giveUp_blocks {slot : Slot} (held : Held m block slot) (stale : Unfinished → Bool) :
    Continues m maxSize block [] (giveUp stale slot) := by
  cases slot with
  | none => exact ⟨[], block, by simp, .nil, held⟩
  | some u =>
    cases picked : stale u with
    | true =>
      obtain ⟨parts, raw⟩ := held
      refine ⟨[block], [], by simp, ?_, ?_⟩
      · simp only [giveUp, Option.filter, picked, if_true, Option.map_some, Option.toList_some, raw]
        exact .cons (.raw parts.ne_nil) .nil
      · simp only [giveUp, Option.filter, picked]
        exact rfl
    | false =>
      refine ⟨[], block, by simp, ?_, ?_⟩
      · simp [giveUp, Option.filter, picked]
      · simpa [giveUp, Option.filter, picked] using held

/-- One operation. -/
theorem perform_blocks {slot : Slot} (held : Held m block slot) (peer : κ) (op : Operation κ) :
    Continues m maxSize block (op.datagramsOf peer) (perform m maxSize peer slot op) := by
  cases op with
  | push now other datagram =>
    by_cases same : other = peer
    · simpa only [perform, Operation.datagramsOf, if_pos same] using push_blocks held now datagram
    · simp only [perform, Operation.datagramsOf, if_neg same]
      exact ⟨[], block, by simp, .nil, held⟩
  | expire now maxAge => exact giveUp_blocks held _
  | drain => exact giveUp_blocks held _

/-- Many operations. -/
theorem performAll_blocks {slot : Slot} (held : Held m block slot) (peer : κ)
    (ops : List (Operation κ)) :
    Continues m maxSize block (ops.flatMap (Operation.datagramsOf peer))
      (performAll m maxSize peer slot ops) := by
  induction ops generalizing block slot with
  | nil => exact ⟨[], block, by simp, .nil, held⟩
  | cons op rest ih =>
    obtain ⟨blocks, middle, cut, given, held'⟩ :
        Continues m maxSize block (op.datagramsOf peer) (perform m maxSize peer slot op) :=
      perform_blocks held peer op
    obtain ⟨later, last, cut', given', held''⟩ := ih held'
    refine ⟨blocks ++ later, last, ?_, List.rel_append given given', held''⟩
    rw [List.flatMap_cons, ← List.append_assoc, cut, List.append_assoc, cut', List.flatten_append,
      List.append_assoc]

end Slot

end Blocks

/-- **What a receiver gives of a peer is what came from it**, in the same order, block by block:
each message is a block of datagrams as they came, or the contents of a block that begins, goes on
and ends as a split message does. What is left at the end is the block that is held. What comes from
other peers plays no part in it. -/
theorem performAll_conserves (markers : Markers) (maxSize : Nat) (ops : List (Operation κ))
    (peer : κ) :
    let start : Reassembler κ := { markers, maxSize }
    let alone := ops.filter (Operation.concerns peer)
    (∃ blocks held, ops.flatMap (Operation.datagramsOf peer) = blocks.flatten ++ held ∧
      List.Forall₂ (Given markers maxSize) blocks (messagesOf peer (start.performAll ops).1) ∧
      Held markers held ((start.performAll ops).2.pending? peer)) ∧
    messagesOf peer (start.performAll alone).1 = messagesOf peer (start.performAll ops).1 ∧
    (start.performAll alone).2.pending? peer = (start.performAll ops).2.pending? peer := by
  intro start alone
  have distinct : start.Distinct := List.nodup_nil
  have run := performAll_slot distinct peer ops
  have run_alone := performAll_slot distinct peer alone
  rw [Slot.performAll_filter, ← run] at run_alone
  have nothing : Held markers [] none := rfl
  have blocks : Continues markers maxSize [] (ops.flatMap (Operation.datagramsOf peer))
      (Slot.performAll markers maxSize peer none ops) := Slot.performAll_blocks nothing peer ops
  rw [show none = start.pending? peer from rfl, show markers = start.markers from rfl,
    show maxSize = start.maxSize from rfl, ← run] at blocks
  exact ⟨blocks, Prod.mk.inj run_alone⟩

end Syslog.Reassembler

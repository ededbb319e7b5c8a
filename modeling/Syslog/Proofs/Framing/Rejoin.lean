import Syslog.Framing.Reassembler
import Syslog.Proofs.Search

/-!
# Joining what was split

A receiver knows the parts of a message by their marks only, and a message may carry a mark where it
is cut or at its ends. This file says exactly when it gives the message that was split.

* `continues_iff`, `goesOn_iff`: the marks as prefix and suffix;
* `pending?_hold`, `pending?_drop` and their kin: what the receiver holds of each peer;
* `push_held`, `push_given`, `push_more`, `push_last`: one datagram;
* `pending?_push_of_ne`, `pending?_receive_of_ne`: other peers are not concerned;
* `receive_continuation`: the parts after the first. What carries the induction is that the parts
  joined so far and the rest of the message make up the message;
* `receive_split_iff`: all parts.
-/

namespace Syslog

/-! ## 1. Marks -/

namespace Markers

variable {m : Markers}

theorem continues_iff {datagram : Bytes} :
    m.continues datagram = true ↔
      m.beginning ≠ [] ∧ m.beginning.length < datagram.length ∧ m.beginning <+: datagram := by
  simp only [continues, Bool.and_eq_true, Bool.not_eq_true', List.isEmpty_eq_false_iff,
    decide_eq_true_eq, Search.startsWith_iff, and_assoc, gt_iff_lt]

theorem goesOn_iff {datagram : Bytes} :
    m.goesOn datagram = true ↔
      m.ending ≠ [] ∧ m.ending.length < datagram.length ∧ m.ending <:+ datagram := by
  simp only [goesOn, Bool.and_eq_true, Bool.not_eq_true', List.isEmpty_eq_false_iff,
    decide_eq_true_eq, Search.endsWith_iff, and_assoc, gt_iff_lt]

@[simp] theorem dropBeginning_append (content : Bytes) :
    m.dropBeginning (m.beginning ++ content) = content := by
  simp [dropBeginning]

@[simp] theorem dropEnding_append (content : Bytes) :
    m.dropEnding (content ++ m.ending) = content := by
  simp [dropEnding]

/-- Content behind a mark continues a message. -/
theorem continues_append (beginning : m.beginning ≠ []) {content : Bytes}
    (nonempty : content ≠ []) :
    m.continues (m.beginning ++ content) = true := by
  have := List.length_pos_iff.2 nonempty
  refine continues_iff.2 ⟨beginning, ?_, List.prefix_append _ _⟩
  rw [List.length_append]
  omega

/-- Content before a mark goes on in another datagram. -/
theorem goesOn_append (ending : m.ending ≠ []) {content : Bytes} (nonempty : content ≠ []) :
    m.goesOn (content ++ m.ending) = true := by
  have := List.length_pos_iff.2 nonempty
  refine goesOn_iff.2 ⟨ending, ?_, List.suffix_append _ _⟩
  rw [List.length_append]
  omega

end Markers

namespace Reassembler

variable {κ : Type} [DecidableEq κ] {r : Reassembler κ} {peer other : κ} (now : Time.Duration)

/-! ## 2. What is held -/

@[simp] theorem hold_markers (u : Unfinished) : (r.hold peer u).markers = r.markers := rfl
@[simp] theorem hold_maxSize (u : Unfinished) : (r.hold peer u).maxSize = r.maxSize := rfl

theorem lookup_filter_self (entries : List (κ × Unfinished)) :
    (entries.filter (·.1 != peer)).lookup peer = none := by
  rw [List.lookup_eq_none_iff]
  intro e he
  simpa [bne_iff_ne, ne_comm] using (List.mem_filter.1 he).2

theorem lookup_filter_of_ne (h : other ≠ peer) (entries : List (κ × Unfinished)) :
    (entries.filter (·.1 != peer)).lookup other = entries.lookup other := by
  induction entries with
  | nil => rfl
  | cons e rest ih =>
    obtain ⟨k, u⟩ := e
    by_cases hk : k = peer
    · have hne : (other == k) = false := beq_false_of_ne (hk ▸ h)
      simp only [List.lookup_cons, hne, ← ih]
      simp [hk]
    · by_cases ho : other = k <;> simp [List.lookup_cons, hk, ho, ih]

@[simp] theorem pending?_drop : (r.drop peer).pending? peer = none :=
  lookup_filter_self r.pending

@[simp] theorem pending?_hold (u : Unfinished) : (r.hold peer u).pending? peer = some u := by
  simp [hold, pending?]

theorem pending?_drop_of_ne (h : other ≠ peer) : (r.drop peer).pending? other = r.pending? other :=
  lookup_filter_of_ne h r.pending

theorem pending?_hold_of_ne (h : other ≠ peer) (u : Unfinished) :
    (r.hold peer u).pending? other = r.pending? other := by
  have : (other == peer) = false := beq_false_of_ne h
  simp only [hold, pending?, List.lookup_cons, this]
  exact lookup_filter_of_ne h r.pending

/-! ## 3. One datagram -/

/-- With nothing pending, a datagram that only goes on is held. -/
theorem push_held {datagram : Bytes} (idle : r.pending? peer = none)
    (more : r.markers.goesOn datagram = true) (first : r.markers.continues datagram = false) :
    r.push now peer datagram =
      ([], r.hold peer ⟨r.markers.dropEnding datagram, datagram, now⟩) := by
  simp only [push, idle, pushFresh, more, first, Bool.not_false, Bool.and_self, if_true]

/-- With nothing pending, any other datagram is given as it is. -/
theorem push_given {datagram : Bytes} (idle : r.pending? peer = none)
    (whole : r.markers.continues datagram = true ∨ r.markers.goesOn datagram = false) :
    r.push now peer datagram = ([datagram], r) := by
  simp only [push, idle, pushFresh]
  rcases whole with h | h <;> simp [h]

/-- A part with marks at both ends goes to the parts before it. -/
theorem push_more {u : Unfinished} {content : Bytes} (pending : r.pending? peer = some u)
    (beginning : r.markers.beginning ≠ []) (ending : r.markers.ending ≠ [])
    (nonempty : content ≠ []) (room : (u.joined ++ content).length ≤ r.maxSize) :
    ∃ raw, r.push now peer (r.markers.beginning ++ content ++ r.markers.ending) =
      ([], r.hold peer ⟨u.joined ++ content, raw, now⟩) := by
  have both : content ++ r.markers.ending ≠ [] := List.append_ne_nil_of_left_ne_nil nonempty _
  refine ⟨u.raw ++ (r.markers.beginning ++ content ++ r.markers.ending), ?_⟩
  rw [List.append_assoc]
  simp only [push, pending, Markers.continues_append beginning both, if_true, pushPart,
    Markers.dropBeginning_append, Markers.goesOn_append ending nonempty,
    Markers.dropEnding_append, if_neg (Nat.not_lt.2 room)]

/-- A part with a mark at its beginning only ends the message. -/
theorem push_last {u : Unfinished} {content : Bytes} (pending : r.pending? peer = some u)
    (beginning : r.markers.beginning ≠ []) (nonempty : content ≠ [])
    (done : r.markers.goesOn content = false)
    (room : (u.joined ++ content).length ≤ r.maxSize) :
    r.push now peer (r.markers.beginning ++ content) = ([u.joined ++ content], r.drop peer) := by
  simp only [push, pending, Markers.continues_append beginning nonempty, if_true, pushPart,
    Markers.dropBeginning_append, done, Bool.false_eq_true, if_false, if_neg (Nat.not_lt.2 room)]

/-- A datagram changes nothing for other peers. -/
theorem pending?_push_of_ne (h : other ≠ peer) (r : Reassembler κ) (datagram : Bytes) :
    (r.push now peer datagram).2.pending? other = r.pending? other := by
  have fresh : ∀ r : Reassembler κ,
      (r.pushFresh now peer datagram).2.pending? other = r.pending? other := by
    intro r
    unfold pushFresh
    split
    · exact pending?_hold_of_ne h _
    · rfl
  unfold push
  split
  · exact fresh r
  · rename_i u _
    split
    · simp only [pushPart]
      split
      · split
        · exact pending?_drop_of_ne h
        · exact pending?_hold_of_ne h _
      · split <;> exact pending?_drop_of_ne h
    · exact (fresh _).trans (pending?_drop_of_ne h)

/-! ## 4. All datagrams of a message -/

/-- Datagrams of a peer, each at its time: the messages of all of them. -/
def receive (r : Reassembler κ) (peer : κ) :
    List (Time.Duration × Bytes) → List Bytes × Reassembler κ
  | [] => ([], r)
  | (now, datagram) :: rest =>
    let (messages, r) := r.push now peer datagram
    let (more, r) := r.receive peer rest
    (messages ++ more, r)

/-- Datagrams that all come at one time. -/
theorem pushAll_eq_receive (r : Reassembler κ) (datagrams : List Bytes) :
    r.pushAll now peer datagrams = r.receive peer (datagrams.map (now, ·)) := by
  induction datagrams generalizing r with
  | nil => rfl
  | cons datagram rest ih => simp only [pushAll, List.map_cons, receive, ih]

/-- Neither do many. -/
theorem pending?_receive_of_ne (h : other ≠ peer) (r : Reassembler κ)
    (arrivals : List (Time.Duration × Bytes)) :
    (r.receive peer arrivals).2.pending? other = r.pending? other := by
  induction arrivals generalizing r with
  | nil => rfl
  | cons arrival rest ih => exact (ih _).trans (pending?_push_of_ne arrival.1 h r arrival.2)

/-- With nothing pending, parts that continue a message are given as they are. -/
theorem receive_orphans {arrivals : List (Time.Duration × Bytes)} (idle : r.pending? peer = none)
    (parts : ∀ part ∈ arrivals.map Prod.snd, r.markers.continues part = true) :
    r.receive peer arrivals = (arrivals.map Prod.snd, r) := by
  induction arrivals with
  | nil => rfl
  | cons arrival rest ih =>
    obtain ⟨now, part⟩ := arrival
    simp only [List.map_cons, List.forall_mem_cons] at parts
    simp only [receive, push_given _ idle (.inl parts.1), ih parts.2, List.map_cons,
      List.cons_append, List.nil_append]

end Reassembler

namespace Fragmenter

variable {f : Fragmenter}

/-- Each part after the first is a mark with content behind it. -/
theorem continues_of_mem_continuation (beginning : f.markers.beginning ≠ []) {rest part : Bytes}
    (nonempty : rest ≠ []) (h : part ∈ f.continuation rest) :
    f.markers.continues part = true := by
  induction rest using continuation.induct f with
  | case1 rest long ih =>
    have space := f.room
    rw [continuation, if_pos long] at h
    rcases List.mem_cons.1 h with rfl | h
    · rw [List.append_assoc]
      refine Markers.continues_append beginning (List.append_ne_nil_of_left_ne_nil ?_ _)
      rw [← List.length_pos_iff, List.length_take, middleRoom]
      have := List.length_pos_iff.2 nonempty
      omega
    · refine ih ?_ h
      rw [← List.length_pos_iff, List.length_drop, middleRoom]
      omega
  | case2 rest short =>
    rw [continuation, if_neg short, List.mem_singleton] at h
    rw [h]
    exact Markers.continues_append beginning nonempty

theorem continuation_ne_nil (rest : Bytes) : f.continuation rest ≠ [] := by
  rw [continuation]
  split <;> simp

end Fragmenter

namespace Reassembler

variable {κ : Type} [DecidableEq κ] {r : Reassembler κ} {peer : κ} {f : Fragmenter}

/-- **The parts after the first complete the message**, unless its end is taken for a mark. -/
theorem receive_continuation {u : Unfinished} {rest : Bytes}
    {arrivals : List (Time.Duration × Bytes)} (same : r.markers = f.markers)
    (beginning : f.markers.beginning ≠ []) (ending : f.markers.ending ≠ [])
    (pending : r.pending? peer = some u) (long : f.markers.ending.length < rest.length)
    (room : (u.joined ++ rest).length ≤ r.maxSize)
    (parts : arrivals.map Prod.snd = f.continuation rest) :
    (¬ f.markers.ending <:+ rest →
      (r.receive peer arrivals).1 = [u.joined ++ rest] ∧
        (r.receive peer arrivals).2.pending? peer = none) ∧
    (f.markers.ending <:+ rest → (r.receive peer arrivals).1 = []) := by
  induction rest using Fragmenter.continuation.induct f generalizing r u arrivals with
  | case1 rest excess ih =>
    rw [Fragmenter.continuation, if_pos excess] at parts
    obtain ⟨⟨now, part⟩, others, rfl, rfl, later⟩ := List.map_eq_cons_iff.1 parts
    have space := f.room
    -- what is left for the next part is longer than a mark again
    have left : f.markers.ending.length < (rest.drop f.middleRoom).length := by
      rw [List.length_drop, Fragmenter.middleRoom]
      omega
    have content : rest.take f.middleRoom ≠ [] := by
      rw [← List.length_pos_iff, List.length_take, Fragmenter.middleRoom]
      omega
    have whole :
        u.joined ++ rest.take f.middleRoom ++ rest.drop f.middleRoom = u.joined ++ rest := by
      rw [List.append_assoc, List.take_append_drop]
    have fits : (u.joined ++ rest.take f.middleRoom).length ≤ r.maxSize := by
      rw [← whole, List.length_append] at room
      omega
    have suffix : f.markers.ending <:+ rest.drop f.middleRoom ↔ f.markers.ending <:+ rest :=
      ⟨fun h => h.trans (List.drop_suffix _ _),
        fun h => List.suffix_of_suffix_length_le h (List.drop_suffix _ _) left.le⟩
    obtain ⟨raw, step⟩ := push_more now pending (same ▸ beginning) (same ▸ ending)
      content fits
    rw [same] at step
    have tail := ih (r := r.hold peer ⟨u.joined ++ rest.take f.middleRoom, raw, now⟩)
      (by simpa using same) (pending?_hold _) left (by simpa only [whole, hold_maxSize] using room)
      later
    simp only [suffix, whole] at tail
    simpa only [receive, step, List.nil_append] using tail
  | case2 rest short =>
    rw [Fragmenter.continuation, if_neg short] at parts
    obtain ⟨⟨now, part⟩, others, rfl, rfl, later⟩ := List.map_eq_cons_iff.1 parts
    obtain rfl := List.map_eq_nil_iff.1 later
    have content : rest ≠ [] := by
      rw [← List.length_pos_iff]
      omega
    constructor
    · intro plain
      have done : r.markers.goesOn rest = false := by
        rw [← Bool.not_eq_true, Markers.goesOn_iff, same]
        exact fun h => plain h.2.2
      have step := push_last now pending (same ▸ beginning) content done room
      rw [same] at step
      simp only [receive, step, List.append_nil, pending?_drop, and_self]
    · rintro ⟨before, rfl⟩
      have inner : before ≠ [] := by
        rintro rfl
        simp at long
      have fits : (u.joined ++ before).length ≤ r.maxSize := by
        simp only [List.length_append] at room ⊢
        omega
      obtain ⟨raw, step⟩ := push_more now pending (same ▸ beginning) (same ▸ ending)
        inner fits
      rw [same, List.append_assoc] at step
      simp only [receive, step, List.append_nil]

/-- A datagram is given at once unless it looks like a first part. -/
theorem push_whole_iff {now : Time.Duration} {datagram : Bytes} (idle : r.pending? peer = none) :
    ((r.push now peer datagram).1 = [datagram] ∧
        (r.push now peer datagram).2.pending? peer = none) ↔
      r.markers.continues datagram = true ∨ r.markers.goesOn datagram = false := by
  constructor
  · rintro ⟨given, -⟩
    by_contra first
    simp only [not_or, Bool.not_eq_true, Bool.not_eq_false] at first
    rw [push_held _ idle first.2 first.1] at given
    cases given
  · intro whole
    rw [push_given _ idle whole]
    exact ⟨rfl, idle⟩

/-- **A message in several parts is given if it carries no mark at either end**, and only then. -/
theorem receive_parts_iff {payload : Bytes} {arrivals : List (Time.Duration × Bytes)}
    (same : r.markers = f.markers) (beginning : f.markers.beginning ≠ [])
    (ending : f.markers.ending ≠ []) (size : payload.length ≤ r.maxSize)
    (idle : r.pending? peer = none) (long : f.maxLength < payload.length)
    (parts : arrivals.map Prod.snd = f.split payload) :
    ((r.receive peer arrivals).1 = [payload] ∧
        (r.receive peer arrivals).2.pending? peer = none) ↔
      ¬ f.markers.beginning <+: payload ∧ ¬ f.markers.ending <:+ payload := by
  have space := f.room
  rw [Fragmenter.split, if_neg (Nat.not_le.2 long)] at parts
  have left : f.markers.ending.length < (payload.drop f.firstRoom).length := by
    rw [List.length_drop, Fragmenter.firstRoom]
    omega
  have size_first : f.markers.beginning.length < (payload.take f.firstRoom).length := by
    rw [List.length_take, Fragmenter.firstRoom]
    omega
  have content : payload.take f.firstRoom ≠ [] := by
    rw [← List.length_pos_iff]
    omega
  have whole : payload.take f.firstRoom ++ payload.drop f.firstRoom = payload :=
    List.take_append_drop _ _
  -- the first part is long enough to show whether the message begins with a mark
  have first : r.markers.continues (payload.take f.firstRoom ++ f.markers.ending) = true ↔
      f.markers.beginning <+: payload := by
    rw [Markers.continues_iff, same]
    constructor
    · rintro ⟨-, -, h⟩
      exact (List.prefix_of_prefix_length_le h (List.prefix_append _ _) size_first.le).trans
        (List.take_prefix _ _)
    · intro h
      have inside := List.prefix_of_prefix_length_le h (List.take_prefix _ _) size_first.le
      refine ⟨beginning, ?_, inside.trans (List.prefix_append _ _)⟩
      rw [List.length_append]
      omega
  have suffix : f.markers.ending <:+ payload.drop f.firstRoom ↔ f.markers.ending <:+ payload :=
    ⟨fun h => h.trans (List.drop_suffix _ _),
      fun h => List.suffix_of_suffix_length_le h (List.drop_suffix _ _) left.le⟩
  by_cases start : f.markers.beginning <+: payload
  · -- no part is held, so there is a message for each of them
    have orphans : ∀ part ∈ arrivals.map Prod.snd, r.markers.continues part = true := by
      rw [parts, List.forall_mem_cons]
      refine ⟨first.2 start, fun part h => ?_⟩
      rw [same]
      exact Fragmenter.continues_of_mem_continuation beginning
        (List.length_pos_iff.1 (by omega)) h
    rw [receive_orphans idle orphans, parts]
    simp [start, Fragmenter.continuation_ne_nil]
  · obtain ⟨⟨now, part⟩, others, rfl, rfl, later⟩ := List.map_eq_cons_iff.1 parts
    have held := push_held now idle (same ▸ Markers.goesOn_append ending content)
      (Bool.eq_false_iff.2 (mt first.1 start))
    rw [same, Markers.dropEnding_append] at held
    have rest := receive_continuation (f := f)
      (r := r.hold peer
        ⟨payload.take f.firstRoom, payload.take f.firstRoom ++ f.markers.ending, now⟩)
      same beginning ending (pending?_hold _) left (by simpa only [whole, hold_maxSize] using size)
      later
    simp only [suffix, whole] at rest
    simp only [receive, held, List.nil_append, start, not_false_eq_true, true_and]
    by_cases stop : f.markers.ending <:+ payload
    · simp [rest.2 stop, stop]
    · simp [rest.1 stop, stop]

/-- **When the receiver gives the message that was split, and nothing else.** A message in one
datagram must not look like a first part, and one in several must carry no mark at either end. -/
theorem receive_split_iff (f : Fragmenter) (r : Reassembler κ) (peer : κ) (payload : Bytes)
    (arrivals : List (Time.Duration × Bytes)) (same : r.markers = f.markers)
    (beginning : f.markers.beginning ≠ []) (ending : f.markers.ending ≠ [])
    (size : payload.length ≤ r.maxSize) (idle : r.pending? peer = none)
    (parts : arrivals.map Prod.snd = f.split payload) :
    ((r.receive peer arrivals).1 = [payload] ∧
        (r.receive peer arrivals).2.pending? peer = none) ↔
      (payload.length ≤ f.maxLength ∧
        ((f.markers.beginning <+: payload ∧ f.markers.beginning.length < payload.length) ∨
          ¬ (f.markers.ending <:+ payload ∧ f.markers.ending.length < payload.length))) ∨
      (f.maxLength < payload.length ∧
        ¬ f.markers.beginning <+: payload ∧ ¬ f.markers.ending <:+ payload) := by
  by_cases long : f.maxLength < payload.length
  · rw [receive_parts_iff same beginning ending size idle long parts]
    simp only [Nat.not_le.2 long, false_and, long, true_and, false_or]
  · have short := Nat.not_lt.1 long
    rw [Fragmenter.split, if_pos short] at parts
    obtain ⟨⟨now, datagram⟩, others, rfl, rfl, later⟩ := List.map_eq_cons_iff.1 parts
    obtain rfl := List.map_eq_nil_iff.1 later
    simp only [receive, List.append_nil]
    rw [push_whole_iff idle, Markers.continues_iff, ← Bool.not_eq_true, Markers.goesOn_iff, same]
    simp only [short, true_and, long, false_and, or_false, ne_eq, beginning, ending,
      not_false_eq_true, and_comm]

/-- Four datagrams of one message while another peer has an unfinished one, and a short message that
ends with a mark, which is held back. -/
theorem receive_split_of_dots :
    let f : Fragmenter := ⟨⟨[0x2e, 0x2e, 0x2e], [0x2e, 0x2e, 0x2e]⟩, 8, by decide⟩
    let r : Reassembler Nat :=
      { markers := f.markers, maxSize := 64, pending := [(2, ⟨[0x61], [0x61, 0x2e], ⟨0⟩⟩)] }
    let long : Bytes :=
      [0x61, 0x2e, 0x62, 0x63, 0x64, 0x65, 0x2e, 0x2e, 0x2e, 0x66, 0x67, 0x68, 0x69]
    let dots : Bytes := [0x61, 0x2e, 0x2e, 0x2e]
    ((r.receive 1 ((f.split long).map (⟨5⟩, ·))).1 = [long] ∧
        (r.receive 1 ((f.split long).map (⟨5⟩, ·))).2.pending? 1 = none) ∧
      ¬ ((r.receive 1 ((f.split dots).map (⟨5⟩, ·))).1 = [dots] ∧
        (r.receive 1 ((f.split dots).map (⟨5⟩, ·))).2.pending? 1 = none) := by
  intro f r long dots
  constructor
  · exact (receive_split_iff f r 1 long _ rfl (by decide) (by decide) (by decide) rfl
      (by simp [Function.comp_def])).2 (by decide)
  · exact mt (receive_split_iff f r 1 dots _ rfl (by decide) (by decide) (by decide) rfl
      (by simp [Function.comp_def])).1 (by decide)

end Reassembler

end Syslog

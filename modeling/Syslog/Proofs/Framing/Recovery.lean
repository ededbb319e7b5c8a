import Syslog.Proofs.Framing.Rejoin

/-!
# A new attempt after a broken one

A sender that stops between two parts of a message starts again with the first part. Parts may be
lost on the way, and datagrams may come that nobody meant as parts. Whatever a receiver holds of a
peer, the next message is not mixed with it.

* `push_abandon`, `receive_abandon`: a datagram that continues nothing closes what is held;
* `head_of_split`: the first datagram of a message continues nothing;
* `receive_split_idle`: the message, when nothing is held;
* `receive_split_recovers`: the message, whatever is held.
-/

namespace Syslog

namespace Reassembler

variable {κ : Type} [DecidableEq κ] {r : Reassembler κ} {peer : κ}

/-- What is held is given as it came when a datagram does not continue it; the datagram is then
taken as if nothing had been held. -/
theorem push_abandon {u : Unfinished} (held : r.pending? peer = some u) (now : Time.Duration)
    {datagram : Bytes} (other : r.markers.continues datagram = false) :
    r.push now peer datagram =
      (u.raw :: ((r.drop peer).push now peer datagram).1,
        ((r.drop peer).push now peer datagram).2) := by
  simp only [push, held, other, Bool.false_eq_true, if_false, pending?_drop]

/-- The same for datagrams of which the first one does not continue anything. -/
theorem receive_abandon {u : Unfinished} (held : r.pending? peer = some u) (now : Time.Duration)
    {datagram : Bytes} (other : r.markers.continues datagram = false)
    (later : List (Time.Duration × Bytes)) :
    r.receive peer ((now, datagram) :: later) =
      (u.raw :: ((r.drop peer).receive peer ((now, datagram) :: later)).1,
        ((r.drop peer).receive peer ((now, datagram) :: later)).2) := by
  simp only [receive, push_abandon held now other, List.cons_append]

end Reassembler

namespace Fragmenter

variable {f : Fragmenter} {payload : Bytes}

/-- The first datagram of a message that does not begin with a mark continues nothing. -/
theorem head_of_split (front : ¬ f.markers.beginning <+: payload) :
    ∃ first rest, f.split payload = first :: rest ∧ f.markers.continues first = false := by
  have plain : ∀ {datagram : Bytes}, ¬ f.markers.beginning <+: datagram →
      f.markers.continues datagram = false := fun h =>
    Bool.eq_false_iff.2 fun marked => h (Markers.continues_iff.1 marked).2.2
  rw [split]
  split
  · exact ⟨payload, [], rfl, plain front⟩
  · rename_i long
    have space := f.room
    refine ⟨_, _, rfl, plain fun marked => front ?_⟩
    -- the part is long enough that its own mark lies behind one at its beginning
    have inside : f.markers.beginning.length ≤ (payload.take f.firstRoom).length := by
      rw [List.length_take, firstRoom]
      omega
    exact (List.prefix_of_prefix_length_le marked (List.prefix_append _ _) inside).trans
      (List.take_prefix _ _)

end Fragmenter

namespace Reassembler

variable {κ : Type} [DecidableEq κ] {f : Fragmenter} {r : Reassembler κ} {peer : κ}
  {payload : Bytes} {arrivals : List (Time.Duration × Bytes)}

/-- With nothing held, a message without marks at its ends is given, and nothing else. -/
theorem receive_split_idle (same : r.markers = f.markers) (beginning : f.markers.beginning ≠ [])
    (ending : f.markers.ending ≠ []) (size : payload.length ≤ r.maxSize)
    (front : ¬ f.markers.beginning <+: payload) (back : ¬ f.markers.ending <:+ payload)
    (idle : r.pending? peer = none) (parts : arrivals.map Prod.snd = f.split payload) :
    (r.receive peer arrivals).1 = [payload] ∧
      (r.receive peer arrivals).2.pending? peer = none := by
  by_cases long : f.maxLength < payload.length
  · exact (receive_parts_iff same beginning ending size idle long parts).2 ⟨front, back⟩
  · rw [Fragmenter.split, if_pos (Nat.not_lt.1 long)] at parts
    obtain ⟨⟨now, datagram⟩, others, rfl, rfl, later⟩ := List.map_eq_cons_iff.1 parts
    obtain rfl := List.map_eq_nil_iff.1 later
    have whole : r.markers.goesOn datagram = false :=
      Bool.eq_false_iff.2 fun marked => back (same ▸ (Markers.goesOn_iff.1 marked).2.2)
    simp only [receive, push_given now idle (.inr whole), List.append_nil, idle, and_self]

/-- **A message without marks at its ends comes through, whatever is held of its peer.** What is
held is given first, as it came, and nothing is held afterwards. Other peers are not concerned. -/
theorem receive_split_recovers (f : Fragmenter) (r : Reassembler κ) (peer : κ) (payload : Bytes)
    (arrivals : List (Time.Duration × Bytes)) (same : r.markers = f.markers)
    (beginning : f.markers.beginning ≠ []) (ending : f.markers.ending ≠ [])
    (size : payload.length ≤ r.maxSize) (front : ¬ f.markers.beginning <+: payload)
    (back : ¬ f.markers.ending <:+ payload) (parts : arrivals.map Prod.snd = f.split payload) :
    (r.receive peer arrivals).1 = ((r.pending? peer).map (·.raw)).toList ++ [payload] ∧
      (r.receive peer arrivals).2.pending? peer = none ∧
      ∀ other, other ≠ peer →
        (r.receive peer arrivals).2.pending? other = r.pending? other := by
  have own : (r.receive peer arrivals).1 = ((r.pending? peer).map (·.raw)).toList ++ [payload] ∧
      (r.receive peer arrivals).2.pending? peer = none := by
    cases held : r.pending? peer with
    | none => exact receive_split_idle same beginning ending size front back held parts
    | some u =>
      have cleared := receive_split_idle (r := r.drop peer) same beginning ending size front back
        pending?_drop parts
      obtain ⟨first, rest, split, continues⟩ := Fragmenter.head_of_split (f := f) front
      rw [split] at parts
      obtain ⟨⟨now, datagram⟩, later, rfl, rfl, -⟩ := List.map_eq_cons_iff.1 parts
      rw [receive_abandon held now (same ▸ continues) later, cleared.1]
      exact ⟨rfl, cleared.2⟩
  exact ⟨own.1, own.2, fun other ne => pending?_receive_of_ne ne r arrivals⟩

/-- A sender that stopped after two of four parts and begins again, while another peer has an
unfinished message: the two parts as they came, and the message. -/
theorem receive_split_of_second_attempt :
    let f : Fragmenter := ⟨⟨[0x2e, 0x2e, 0x2e], [0x2e, 0x2e, 0x2e]⟩, 8, by decide⟩
    let payload : Bytes :=
      [0x61, 0x2e, 0x62, 0x63, 0x64, 0x65, 0x2e, 0x2e, 0x2e, 0x66, 0x67, 0x68, 0x69]
    let first : Bytes := [0x61, 0x2e, 0x62, 0x63, 0x64, 0x2e, 0x2e, 0x2e]
    let second : Bytes := [0x2e, 0x2e, 0x2e, 0x65, 0x2e, 0x2e, 0x2e, 0x2e]
    let start : Reassembler Nat :=
      { markers := f.markers, maxSize := 64, pending := [(2, ⟨[0x61], [0x61, 0x2e], ⟨0⟩⟩)] }
    let r := (start.receive 1 [(⟨5⟩, first), (⟨6⟩, second)]).2
    let again := (f.split payload).map (⟨7⟩, ·)
    (f.split payload).take 2 = [first, second] ∧
      (r.receive 1 again).1 = [first ++ second, payload] ∧
      (r.receive 1 again).2.pending? 1 = none ∧
      (r.receive 1 again).2.pending? 2 = some ⟨[0x61], [0x61, 0x2e], ⟨0⟩⟩ := by
  intro f payload first second start r again
  obtain ⟨given, idle, others⟩ := receive_split_recovers f r 1 payload again (by decide)
    (by decide) (by decide) (by decide) (by decide) (by decide) (by simp [again, Function.comp_def])
  refine ⟨by cbv, given.trans (by decide), idle, (others 2 (by decide)).trans (by decide)⟩

end Reassembler

end Syslog

import Syslog.Proofs.Dict
import Syslog.Proofs.Event.Grammar

/-!
# Which texts are structured events

The grammar of a whole text, and that `Event.ofText` takes a text for a structured event exactly
when it is of this grammar.

* `Reading`: what a text says behind its priority; `Reading.event` is the event of it;
* `Writes`: a text writes a priority and a reading;
* `writes_unique`: a text has at most one reading;
* `ofText_of_writes`, `ofText_of_not_writes`: the event of a text that has a reading, and of one
  that has none.
-/

namespace Syslog.Event

open Reader Grammar

/-! ## 1. The grammar of a text -/

/-- What a text says behind its priority, with its elements as they are written. -/
structure Reading where
  version : Option Nat
  timestamp : Option Time.OffsetTime
  host : Option String
  appName : Option String
  procId : Option String
  msgId : Option String
  elements : List (String × List (String × String))
  message : List Char

/-- The event of a reading. Elements are kept by name, and a byte order mark in front of the message
is dropped. -/
def Reading.event (r : Reading) : Event where
  version := r.version
  timestamp := r.timestamp
  host := r.host
  appName := r.appName
  procId := r.procId
  msgId := r.msgId
  structuredData := dataOf r.elements
  message := String.ofList (dropMark r.message)
  structured := true

/-- What follows the header: nothing, or a space and structured data with a message. -/
inductive Tail : List Char → List (String × List (String × String)) → List Char → Prop where
  | ended : Tail [] [] []
  | data {rest message : List Char} {es : List (String × List (String × String))}
      (data : Data rest es message) : Tail (' ' :: rest) es message

/-- A text without its priority: a version, any number of spaces, a time and four fields with a
space between them, and what follows the header. -/
inductive Body : List Char → Reading → Prop where
  | mk {text ts hs as ps ms rest : List Char} {r : Reading} (spaces : Nat)
      (version : Front Version text r.version (List.replicate spaces ' ' ++
        (ts ++ ' ' :: (hs ++ ' ' :: (as ++ ' ' :: (ps ++ ' ' :: (ms ++ rest)))))))
      (timestamp : TimeField ts r.timestamp) (host : Field hs r.host) (appName : Field as r.appName)
      (procId : Field ps r.procId) (msgId : Field ms r.msgId)
      (tail : Tail rest r.elements r.message) : Body text r

/-- A text with or without a priority. -/
inductive Writes : List Char → Option Priority → Reading → Prop where
  | plain {text : List Char} {r : Reading} (body : Body text r) : Writes text none r
  | prioritised {w text : List Char} {p : Priority} {r : Reading} (priority : Pri w p)
      (body : Body text r) : Writes (w ++ text) (some p) r

/-! ## 2. Reading a body -/

/-- The reading of a text behind its priority. -/
def reading? (cs : List Char) : Option Reading := do
  let (version, cs) := front version? cs
  let (timestamp, cs) ← time? (skipSpaces cs)
  let (host, cs) ← field? cs
  let (appName, cs) ← field? cs
  let (procId, cs) ← field? cs
  let (msgId, cs) ← field? cs
  let (elements, message) ← dataElements? cs
  some { version, timestamp, host, appName, procId, msgId, elements, message }

theorem structured?_eq_map (cs : List Char) : structured? cs = (reading? cs).map Reading.event := by
  simp only [structured?, reading?, front, structuredData?_eq_map, Option.bind_eq_bind,
    Option.map_bind, Option.bind_map, Function.comp_def]
  cases version? cs <;> rfl

theorem tail_iff {after message : List Char} {es : List (String × List (String × String))} :
    Tail after es message ↔ ∃ rest, Behind after rest ∧ Data rest es message := by
  constructor
  · rintro (_ | data)
    · exact ⟨[], .inr ⟨rfl, rfl⟩, data_nil_iff.2 ⟨rfl, rfl⟩⟩
    · exact ⟨_, .inl rfl, data⟩
  · rintro ⟨rest, rfl | ⟨rfl, rfl⟩, data⟩
    · exact .data data
    · obtain ⟨rfl, rfl⟩ := data_nil_iff.1 data
      exact .ended

/-- **A body is read exactly when it is one.** -/
theorem reading?_eq_some_iff {cs : List Char} {r : Reading} : reading? cs = some r ↔ Body cs r := by
  simp only [reading?, Option.bind_eq_bind, Option.bind_eq_some_iff, Prod.exists]
  constructor
  · rintro ⟨timestamp, after₁, time, host, after₂, field₁, appName, after₃, field₂, procId, after₄,
      field₃, msgId, after₅, field₄, es, message, data, h⟩
    cases h
    obtain ⟨ts, rest₁, timestamp, start, behind₁⟩ := time?_eq_some_iff.1 time
    obtain ⟨hs, rest₂, host, rfl, behind₂⟩ := field?_eq_some_iff.1 field₁
    obtain ⟨as, rest₃, appName, rfl, behind₃⟩ := field?_eq_some_iff.1 field₂
    obtain ⟨ps, rest₄, procId, rfl, behind₄⟩ := field?_eq_some_iff.1 field₃
    obtain ⟨ms, rest₅, msgId, rfl, behind₅⟩ := field?_eq_some_iff.1 field₄
    obtain rfl := behind₁.eq_cons (host.append_ne_nil _)
    obtain rfl := behind₂.eq_cons (appName.append_ne_nil _)
    obtain rfl := behind₃.eq_cons (procId.append_ne_nil _)
    obtain rfl := behind₄.eq_cons (msgId.append_ne_nil _)
    generalize found : front version? cs = versioned at start ⊢
    obtain ⟨v, rest⟩ := versioned
    obtain ⟨spaces, split, -⟩ := exists_skipSpaces rest
    rw [start] at split
    have version : Front Version cs v _ := split ▸ (front_eq_iff version?_eq_some_iff).1 found
    exact .mk spaces version timestamp host appName procId msgId
      (tail_iff.2 ⟨after₅, behind₅, dataElements?_eq_some_iff.1 data⟩)
  · rintro ⟨spaces, version, timestamp, host, appName, procId, msgId, tail⟩
    rename_i ts hs as ps ms rest
    obtain ⟨after, behind, data⟩ := tail_iff.1 tail
    have time :
        time? (ts ++ ' ' :: (hs ++ ' ' :: (as ++ ' ' :: (ps ++ ' ' :: (ms ++ rest))))) = _ :=
      time?_eq_some_iff.2 ⟨ts, _, timestamp, rfl, .inl rfl⟩
    have start : skipSpaces (List.replicate spaces ' ' ++
        (ts ++ ' ' :: (hs ++ ' ' :: (as ++ ' ' :: (ps ++ ' ' :: (ms ++ rest)))))) =
        ts ++ ' ' :: (hs ++ ' ' :: (as ++ ' ' :: (ps ++ ' ' :: (ms ++ rest)))) := by
      obtain ⟨nonempty, token⟩ := timestamp.token
      obtain ⟨c, ts, rfl⟩ := List.exists_cons_of_ne_nil nonempty
      refine skipSpaces_replicate spaces fun space => token ?_
      cases space
      exact List.mem_cons_self
    rw [(front_eq_iff version?_eq_some_iff).2 version, start]
    exact ⟨_, _, time, _, _, field?_eq_some_iff.2 ⟨hs, _, host, rfl, .inl rfl⟩,
      _, _, field?_eq_some_iff.2 ⟨as, _, appName, rfl, .inl rfl⟩,
      _, _, field?_eq_some_iff.2 ⟨ps, _, procId, rfl, .inl rfl⟩,
      _, _, field?_eq_some_iff.2 ⟨ms, rest, msgId, rfl, behind⟩,
      _, _, dataElements?_eq_some_iff.2 data, rfl⟩

/-! ## 3. Reading a text -/

/-- A body starts with a digit, a hyphen or a space. -/
theorem Body.head?_ne {c : Char} (digit : Text.Decimal.isDigit c = false) (hyphen : c ≠ '-')
    (space : c ≠ ' ') {text : List Char} {r : Reading} (h : Body text r) :
    text.head? ≠ some c := by
  obtain ⟨spaces, version, timestamp, -⟩ := h
  refine version.head?_ne (fun w n version => version.head?_ne digit) ?_
  cases spaces with
  | zero => exact timestamp.head?_ne digit hyphen _
  | succ spaces =>
    intro first
    cases first
    exact space rfl

theorem writes_iff {text : List Char} {p : Option Priority} {r : Reading} :
    Writes text p r ↔ ∃ rest, Front Pri text p rest ∧ Body rest r := by
  constructor
  · rintro (body | ⟨priority, body⟩)
    · refine ⟨text, .absent fun w p priority => ?_, body⟩
      rintro ⟨rest, rfl⟩
      have first := priority.head?
      exact body.head?_ne (c := '<') (by decide) (by decide) (by decide)
        (by rw [List.head?_append, first, Option.some_or])
    · exact ⟨_, .present priority, body⟩
  · rintro ⟨rest, priority | without, body⟩
    · exact .prioritised priority body
    · exact .plain body

/-- **A text has at most one reading.** -/
theorem writes_unique {text : List Char} {p p' : Option Priority} {r r' : Reading}
    (h : Writes text p r) (h' : Writes text p' r') : p' = p ∧ r' = r := by
  obtain ⟨rest, led, body⟩ := writes_iff.1 h
  obtain ⟨rest', led', body'⟩ := writes_iff.1 h'
  have same := (front_eq_iff priority?_eq_some_iff).2 led
  rw [(front_eq_iff priority?_eq_some_iff).2 led'] at same
  cases same
  have same := reading?_eq_some_iff.2 body
  rw [reading?_eq_some_iff.2 body'] at same
  cases same
  exact ⟨rfl, rfl⟩

theorem ofText_of_front {t : String} {p : Option Priority} {rest : List Char}
    (led : Front Pri t.toList p rest) :
    ofText t = (((reading? rest).map Reading.event).getD (raw t)).withPriority p := by
  have taken : front priority? t.toList = (p, rest) := (front_eq_iff priority?_eq_some_iff).2 led
  rw [← structured?_eq_map]
  unfold front at taken
  cases read : priority? t.toList with
  | none =>
    rw [read] at taken
    cases taken
    simp only [ofText, read]
  | some found =>
    rw [read] at taken
    cases taken
    simp only [ofText, read]

theorem ofText_of_writes {t : String} {p : Option Priority} {r : Reading}
    (h : Writes t.toList p r) : ofText t = r.event.withPriority p := by
  obtain ⟨rest, led, body⟩ := writes_iff.1 h
  rw [ofText_of_front led, reading?_eq_some_iff.2 body]
  rfl

/-- What a priority says stands in the event, whatever follows it. -/
theorem priority_ofText {t : String} {w rest : List Char} {p : Priority} (priority : Pri w p)
    (split : t.toList = w ++ rest) :
    (ofText t).facility = some p.facility ∧ (ofText t).severity = some p.severity := by
  have led : Front Pri t.toList (some p) rest := split ▸ .present priority
  rw [ofText_of_front led]
  exact ⟨rfl, rfl⟩

/-- A text is kept whole if what follows its priority is no body. -/
theorem ofText_of_not_body {t : String} {p : Option Priority} {rest : List Char}
    (led : Front Pri t.toList p rest) (h : ∀ r, ¬ Body rest r) :
    ofText t = (raw t).withPriority p := by
  have unread : reading? rest = none :=
    Option.eq_none_iff_forall_ne_some.2 fun r read => h r (reading?_eq_some_iff.1 read)
  rw [ofText_of_front led, unread]
  rfl

theorem ofText_of_not_writes {t : String} {p : Option Priority} {rest : List Char}
    (h : ∀ p r, ¬ Writes t.toList p r) (led : Front Pri t.toList p rest) :
    ofText t = (raw t).withPriority p :=
  ofText_of_not_body led fun r body => h p r (writes_iff.2 ⟨rest, led, body⟩)

/-- Of elements with one name the last counts, and of its parameters with one name the last. -/
theorem get?_dataOf (es : List (String × List (String × String))) (id : String) :
    ((dataOf es).get? id).map Dict.get? = (Dict.lastOf es id).map Dict.lastOf := by
  rw [dataOf, Dict.get?_ofList, Dict.lastOf_map, Option.map_map]
  congr 1
  funext params key
  exact Dict.get?_ofList params key

/-- **A text is taken for a structured event exactly when it is of the grammar.** The event is then
that of its only reading, in which the last of several elements or parameters of one name counts,
with the facility and the severity of the priority. Any other text is kept whole, also with those of
the priority that leads it if there is one. -/
theorem ofText_structured (t : String) :
    ((ofText t).structured = true ↔ ∃ p r, Writes t.toList p r) ∧
    (∀ p r, Writes t.toList p r →
      ofText t =
        { r.event with facility := p.map (·.facility), severity := p.map (·.severity) } ∧
      (∀ p' r', Writes t.toList p' r' → p' = p ∧ r' = r) ∧
      ∀ id, ((ofText t).structuredData.get? id).map Dict.get? =
        (Dict.lastOf r.elements id).map Dict.lastOf) ∧
    ((∀ p r, ¬ Writes t.toList p r) →
      ∃ p rest, Front Pri t.toList p rest ∧
        ofText t =
          { message := t, facility := p.map (·.facility), severity := p.map (·.severity) }) := by
  have led : Front Pri t.toList (front priority? t.toList).1 (front priority? t.toList).2 :=
    (front_eq_iff priority?_eq_some_iff).1 rfl
  refine ⟨⟨fun structured => ?_, ?_⟩, fun p r writes => ⟨ofText_of_writes writes, fun p' r' =>
    writes_unique writes, fun id => ?_⟩, fun none => ⟨_, _, led, ofText_of_not_writes none led⟩⟩
  · by_contra none
    have none : ∀ p r, ¬ Writes t.toList p r := fun p r writes => none ⟨p, r, writes⟩
    rw [ofText_of_not_writes none led] at structured
    cases structured
  · rintro ⟨p, r, writes⟩
    rw [ofText_of_writes writes]
    rfl
  · rw [ofText_of_writes writes]
    exact get?_dataOf r.elements id

end Syslog.Event

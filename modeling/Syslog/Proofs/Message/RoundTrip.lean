import Syslog.Message.Render
import Syslog.Proofs.Event.Reading
import Syslog.Proofs.Text.Charset

/-!
# A message is read back from its structured form

* `Readable`: what is asked of a message;
* `received`: the event that is to come of it;
* `writes_render`: the structured form writes the reading of the message;
* `ofBytes_encode_render`: the event that its bytes give in a charset that has its characters.
-/

namespace Syslog.Message

open Text Event Reader Grammar

/-- What is asked of a message for its structured form to be read back: no space in a field, names
that structured data can have, a year of four digits, and no byte order mark in front of the
body. -/
structure Readable (m : Message) : Prop where
  host : ∀ s ∈ m.host, ' ' ∉ s.toList
  appName : ∀ s ∈ m.effectiveAppName, ' ' ∉ s.toList
  procId : ∀ s ∈ m.procId, ' ' ∉ s.toList
  msgId : ∀ s ∈ m.msgId, ' ' ∉ s.toList
  year : ∀ t ∈ m.timestamp, 0 ≤ t.year ∧ t.year ≤ 9999
  ids : ∀ e ∈ m.structuredData.entries, IsName e.1.toList
  names : ∀ e ∈ m.structuredData.entries, ∀ p ∈ e.2.entries, IsName p.1.toList
  body : m.body.toList.head? ≠ some '\ufeff'

/-- A field as it is read back: nothing where it is missing, empty or a hyphen. -/
def fieldBack (s : Option String) : Option String := s.filter fun s => s ≠ "" ∧ s ≠ nil

/-- The event of a message that is sent in the structured form. -/
def received (m : Message) : Event where
  facility := some m.facility
  severity := some m.severity
  version := some 1
  timestamp := m.timestamp.map fun t => ⟨t.truncateToMillis, 0⟩
  host := fieldBack m.host
  appName := fieldBack m.effectiveAppName
  procId := fieldBack m.procId
  msgId := fieldBack m.msgId
  structuredData := m.structuredData
  message := m.body
  structured := true

/-- The reading of a message in the structured form. -/
def reading (m : Message) : Reading where
  version := some 1
  timestamp := m.timestamp.map fun t => ⟨t.truncateToMillis, 0⟩
  host := fieldBack m.host
  appName := fieldBack m.effectiveAppName
  procId := fieldBack m.procId
  msgId := fieldBack m.msgId
  elements := m.structuredData.entries.map fun e => (e.1, e.2.entries)
  message := m.body.toList

/-- The event of that reading is the one to come. -/
theorem event_reading {m : Message} (body : m.body.toList.head? ≠ some '\ufeff') :
    m.reading.event.withPriority (some m.priority) = m.received := by
  have data : dataOf m.reading.elements = m.structuredData := by
    simp only [dataOf, reading, List.map_map, Function.comp_def, Dict.ofList_entries]
    exact (congrArg Dict.ofList (List.map_id _)).trans (Dict.ofList_entries _)
  have text : dropMark m.body.toList = m.body.toList := by
    unfold dropMark
    split
    · rename_i rest start
      rw [start] at body
      exact absurd rfl body
    · rfl
  simp only [Reading.event, withPriority, data]
  simp only [reading, text, String.ofList_toList, priority, received, Option.map_some]

/-! ## 1. The header -/

theorem pri_renderPriority (m : Message) : Pri m.renderPriority.toList m.priority := by
  have small : m.priority.code < Nat.pow 10 3 := Nat.lt_of_le_of_lt m.priority.code_le (by decide)
  have written : m.renderPriority.toList =
      '<' :: (Decimal.digits m.priority.code ++ ['>']) := by
    simp only [renderPriority, Decimal.render, String.toList_append, String.toList_ofList]
    rfl
  rw [written]
  refine .mk ⟨Decimal.digits_ne_nil _, fun c => Decimal.isDigit_of_mem_digits⟩
    (Decimal.length_digits_le (by decide) small) ?_ ?_
  · rw [Decimal.ofDigits_digits]
    exact m.priority.code_le
  · rw [Decimal.ofDigits_digits]

theorem timeField_render {t : Option Time.DateTime}
    (year : ∀ t' ∈ t, 0 ≤ t'.year ∧ t'.year ≤ 9999) :
    TimeField ((t.map Time.renderMillis).getD nil).toList
      (t.map fun t' => ⟨t'.truncateToMillis, 0⟩) := by
  cases t with
  | none => exact .nil
  | some t =>
    obtain ⟨low, high⟩ := year t rfl
    exact .time (Time.read?_renderMillis t low high)

/-- A field without a space is read back, but for an empty one and a hyphen. -/
theorem field_orNil {s : Option String} (token : ∀ s' ∈ s, ' ' ∉ s'.toList) :
    Field (orNil s).toList (fieldBack s) := by
  cases s with
  | none => exact .nil
  | some s =>
    by_cases empty : s = ""
    · subst empty
      exact .nil
    by_cases hyphen : s = nil
    · subst hyphen
      exact .nil
    have written : orNil (some s) = s := if_neg (by simpa using empty)
    have back : fieldBack (some s) = some (String.ofList s.toList) := by
      simp [fieldBack, empty, hyphen]
    rw [written, back]
    refine .text (by simpa using empty) (token s rfl) fun same => hyphen ?_
    rw [← String.ofList_toList (s := s), same]
    rfl

/-! ## 2. Structured data -/

/-- An escaped value reads back as it was. -/
theorem value_escapeValue (s : String) : Value (escapeValue s).toList s.toList := by
  rw [escapeValue, String.toList_ofList]
  induction s.toList with
  | nil => exact .nil
  | cons c cs ih =>
    rw [List.flatMap_cons]
    split
    · rename_i escaped
      exact .escape (isEscaped_iff.1 escaped) ih
    · rename_i other
      have other := mt isEscaped_iff.2 other
      exact .plain (fun quote => other (.inl quote)) (fun slash => other (.inr (.inl slash))) ih

/-- The parameters of an element and its closing bracket, written one after the other. -/
theorem params_render (ps : List (String × String)) (names : ∀ p ∈ ps, IsName p.1.toList) :
    Params
      ((ps.map fun p => " " ++ p.1 ++ "=\"" ++ escapeValue p.2 ++ "\"").flatMap String.toList ++
        [']']) ps := by
  induction ps with
  | nil => exact .close 0
  | cons p ps ih =>
    have more := ih fun q hq => names q (List.mem_cons_of_mem p hq)
    have step := Params.param 0 (names p List.mem_cons_self) (value_escapeValue p.2) more
    simpa [String.toList_append] using step

theorem element_renderElement {id : String} {params : Dict String} (isName : IsName id.toList)
    (names : ∀ p ∈ params.entries, IsName p.1.toList) :
    Element (renderElement id params).toList (id, params.entries) := by
  have element := Element.mk isName (params_render params.entries names)
  simpa [renderElement, String.toList_append, String.toList_join] using element

theorem elements_render {es : List (String × Dict String)} (ids : ∀ e ∈ es, IsName e.1.toList)
    (names : ∀ e ∈ es, ∀ p ∈ e.2.entries, IsName p.1.toList) :
    Elements ((es.map fun e => renderElement e.1 e.2).flatMap String.toList)
      (es.map fun e => (e.1, e.2.entries)) := by
  induction es with
  | nil => exact .nil
  | cons e es ih =>
    exact .cons (element_renderElement (ids e List.mem_cons_self) (names e List.mem_cons_self))
      (ih (fun d hd => ids d (List.mem_cons_of_mem e hd))
        fun d hd => names d (List.mem_cons_of_mem e hd))

/-- The structured data and the body behind it. -/
theorem data_render {m : Message} (readable : m.Readable) :
    Data ((renderStructuredData m.structuredData).toList ++
      (if m.body.isEmpty then "" else " " ++ m.body).toList) m.reading.elements m.body.toList := by
  have elements := elements_render readable.ids readable.names
  by_cases none : m.structuredData.isEmpty
  · have entries : m.structuredData.entries = [] := List.isEmpty_iff.1 none
    have read : m.reading.elements = [] := by rw [reading, entries, List.map_nil]
    rw [renderStructuredData, if_pos none, read]
    split
    · rename_i empty
      rw [String.isEmpty_iff.1 empty]
      exact .nil
    · rw [String.toList_append]
      exact .nilText m.body.toList
  · rw [renderStructuredData, if_neg none, String.toList_join]
    split
    · rename_i empty
      rw [String.isEmpty_iff.1 empty]
      obtain ⟨nil, nilText⟩ := elements.not_nil (show [].head? ≠ some '-' by simp)
      exact .direct elements (by simp) (by simp) nil nilText
    · rw [String.toList_append]
      exact .spaced elements

/-! ## 3. The whole -/

/-- **The structured form writes the reading of the message.** -/
theorem writes_render {m : Message} (readable : m.Readable) :
    Writes (m.render .rfc5424).toList (some m.priority) m.reading := by
  have one : Version (['1'] ++ [' ']) (Decimal.ofDigits ['1']) :=
    .mk ⟨List.cons_ne_nil _ _, List.forall_mem_singleton.2 rfl⟩ (by decide)
  have body : Body _ m.reading := .mk 0 (.present one) (timeField_render readable.year)
    (field_orNil readable.host) (field_orNil readable.appName) (field_orNil readable.procId)
    (field_orNil readable.msgId) (.data (data_render readable))
  have writes := Writes.prioritised (pri_renderPriority m) body
  simpa [render, renderRfc5424, String.toList_append] using writes

/-- **A message is read back from its structured form**, in every charset that has its
characters. -/
theorem ofBytes_encode_render {m : Message} {charset : Charset} (readable : m.Readable)
    (covered : ∀ c ∈ (m.render .rfc5424).toList, charset.Covers c) :
    ofBytes charset (charset.encode (m.render .rfc5424)) = m.received := by
  rw [ofBytes, Charset.decode_encode covered, ofText_of_writes (writes_render readable),
    event_reading readable.body]

/-- A message of a leap second with an empty host, a hyphen for its kind, a value of nothing but
escapes and a body that starts with a bracket. -/
theorem ofBytes_encode_render_of_leap_second :
    let m : Message :=
      { facility := .auth, severity := .critical, ident := some "su", body := "[é] ok"
        timestamp := some ⟨2016, 12, 31, 23, 59, 60, 250500000, by decide⟩
        host := some "", msgId := some "-"
        structuredData :=
          ⟨[("a@1", ⟨[("k", "\"]\\")], List.pairwise_singleton _ _⟩)],
            List.pairwise_singleton _ _⟩ }
    m.Readable ∧ (∀ c ∈ (m.render .rfc5424).toList, Charset.utf8.Covers c) ∧
      ofBytes .utf8 (Charset.utf8.encode (m.render .rfc5424)) =
        { facility := some .auth, severity := some .critical, version := some 1
          appName := some "su"
          timestamp := some ⟨⟨2016, 12, 31, 23, 59, 60, 250000000, by decide⟩, 0⟩
          structuredData := m.structuredData, message := "[é] ok", structured := true } := by
  intro m
  have readable : m.Readable := by
    constructor
    all_goals simp [m, effectiveAppName, IsName]
  have covered : ∀ c ∈ (m.render .rfc5424).toList, Charset.utf8.Covers c := fun _ _ => trivial
  exact ⟨readable, covered, ofBytes_encode_render readable covered⟩

end Syslog.Message

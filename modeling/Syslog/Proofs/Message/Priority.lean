import Syslog.Proofs.Message.RoundTrip

/-!
# The priority of a message comes back

Both forms of a message lead with its priority, which every charset leaves as it is. So a reader
finds it, whatever the fields say and whatever the charset makes of them. Behind it, the older form
with a time goes on with the name of a month, and no header does.

* `toList_render`, `toList_render_of_dated`: how the forms begin;
* `not_body_of_letter`: a text behind a priority that begins with a capital letter is no header;
* `ofBytes_encode_render_priority`: what a reader makes of the bytes of a message.
-/

namespace Syslog.Message

open Text Event Grammar

/-! ## 1. How the forms begin -/

theorem toList_render (m : Message) (format : MessageFormat) :
    ∃ rest, (m.render format).toList = m.renderPriority.toList ++ rest := by
  cases format with
  | bsd =>
    simp only [render, renderBsd, String.toList_append, List.append_assoc]
    exact ⟨_, rfl⟩
  | rfc5424 =>
    simp only [render, renderRfc5424, String.toList_append, List.append_assoc]
    exact ⟨_, rfl⟩

/-- In the older form of a message with a time a month follows the priority. -/
theorem toList_render_of_dated {m : Message} {t : Time.DateTime} (dated : m.timestamp = some t) :
    ∃ c rest, (m.render .bsd).toList = m.renderPriority.toList ++ c :: rest ∧
      'A' ≤ c ∧ c ≤ 'Z' := by
  obtain ⟨c, rest, month, letter⟩ := Time.head_renderShort t
  simp only [render, renderBsd, dated, Option.map_some, optional, String.toList_append, month,
    List.append_assoc, List.cons_append]
  exact ⟨c, _, rfl, letter⟩

/-! ## 2. What a reader finds -/

/-- A header begins with no capital letter. -/
theorem not_body_of_letter {c : Char} (letter : 'A' ≤ c) (rest : List Char) (r : Reading) :
    ¬ Body (c :: rest) r := by
  have other {d : Char} (low : ¬ 'A' ≤ d) : c ≠ d := fun same => low (same ▸ letter)
  have digit : Decimal.isDigit c = false := by
    simp only [Decimal.isDigit, Bool.and_eq_false_iff, decide_eq_false_iff_not]
    exact .inr fun high => absurd (Char.le_trans letter high) (by decide)
  exact fun body => body.head?_ne digit (other (by decide)) (other (by decide)) rfl

/-- **The priority of a message comes back from both of its forms in every charset**, whatever its
fields say. The older form with a time is never taken for a structured event: it is kept whole, as
far as the charset has its characters. -/
theorem ofBytes_encode_render_priority (m : Message) (format : MessageFormat) (charset : Charset) :
    let event := ofBytes charset (charset.encode (m.render format))
    (event.facility = some m.facility ∧ event.severity = some m.severity) ∧
    (format = .bsd → m.timestamp ≠ none →
      event =
        { facility := some m.facility, severity := some m.severity, version := none
          timestamp := none, host := none, appName := none, procId := none, msgId := none
          structuredData := .empty, message := charset.decode (charset.encode (m.render format))
          structured := false }) := by
  intro event
  have priority := pri_renderPriority m
  constructor
  · obtain ⟨rest, split⟩ := toList_render m format
    exact priority_ofText priority (Charset.toList_decode_encode split priority.le_tilde charset)
  · rintro rfl present
    obtain ⟨t, dated⟩ := Option.ne_none_iff_exists'.1 present
    obtain ⟨c, rest, split, letter, last⟩ := toList_render_of_dated dated
    have read := Charset.toList_decode_encode split priority.le_tilde charset
    have kept : charset.written c = c :=
      Charset.written_of_covers (Charset.covers_of_le (Char.le_trans last (by decide)) charset)
    rw [List.map_cons, kept] at read
    exact ofText_of_not_body (read ▸ Front.present priority) (not_body_of_letter letter _)

/-- A message whose host and body look like texts of their own, with an ident that ASCII lacks. -/
theorem ofBytes_encode_render_priority_of_headers_in_fields :
    let m : Message :=
      { facility := .auth, severity := .critical, host := some "<0>1 -", ident := some "é"
        body := "<7>1 - - - - - -", timestamp := some ⟨2016, 12, 31, 23, 59, 60, 0, by decide⟩ }
    (ofBytes .latin1 (Charset.latin1.encode (m.render .rfc5424))).severity = some .critical ∧
      ofBytes .ascii (Charset.ascii.encode (m.render .bsd)) =
        { facility := some .auth, severity := some .critical
          message := "<34>Dec 31 23:59:60 <0>1 - ?: <7>1 - - - - - -" } := by
  intro m
  have text : Charset.ascii.decode (Charset.ascii.encode (m.render .bsd)) =
      "<34>Dec 31 23:59:60 <0>1 - ?: <7>1 - - - - - -" := by decide +kernel
  obtain ⟨⟨-, severity⟩, -⟩ := ofBytes_encode_render_priority m .rfc5424 .latin1
  obtain ⟨-, whole⟩ := ofBytes_encode_render_priority m .bsd .ascii
  exact ⟨severity, text ▸ whole rfl (Option.some_ne_none _)⟩

/-- Without a time the older form may read as a header. -/
example :
    let m : Message := { body := "- host app 1 - - up" }
    let event := ofBytes .utf8 (Charset.utf8.encode (m.render .bsd))
    event.structured = true ∧ event.facility = some m.facility ∧ event.message = "up" := by
  decide +kernel

end Syslog.Message

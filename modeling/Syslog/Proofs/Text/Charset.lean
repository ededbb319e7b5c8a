import Syslog.Charset

/-!
# What charsets can write

A text whose characters a charset has reads back from its bytes. For UTF-8 these are all texts; the
proof goes character by character, and for one of several bytes it follows the reader through the
states between them.

* `Covers`: the characters that a charset has;
* `decodeFrom_utf8EncodeChar`: one character in UTF-8;
* `decode_encode_eq`: any text, with question marks for what the charset lacks;
* `decode_encode`: a text of characters that the charset has.
-/

namespace Syslog

namespace Text.Utf8

/-! ## 1. One character in UTF-8 -/

/-- What the first of three bytes announces. The bounds leave out overlong forms and surrogates. -/
theorem ofLead?_three {b : Nat} (low : 0xe0 ≤ b) (high : b < 0xf0) :
    Partial.ofLead? b =
      some ⟨1, if b = 0xe0 then 0xa0 else 0x80, if b = 0xed then 0x9f else 0xbf, b - 0xe0⟩ := by
  have : ¬ b < 0xc2 := by omega
  have : ¬ b < 0xe0 := by omega
  simp only [Partial.ofLead?, *, if_false, if_true, beq_iff_eq]
  split
  · simp_all
  · split <;> simp_all

/-- What the first of four bytes announces. The bounds leave out overlong forms and values past the
last code point. -/
theorem ofLead?_four {b : Nat} (low : 0xf0 ≤ b) (high : b ≤ 0xf4) :
    Partial.ofLead? b =
      some ⟨2, if b = 0xf0 then 0x90 else 0x80, if b = 0xf4 then 0x8f else 0xbf, b - 0xf0⟩ := by
  have : ¬ b < 0xc2 := by omega
  have : ¬ b < 0xe0 := by omega
  have : ¬ b < 0xf0 := by omega
  have : b ≠ 0xe0 ∧ b ≠ 0xed := by omega
  simp only [Partial.ofLead?, *, if_false, beq_iff_eq]
  split
  · simp_all
  · split
    · rw [if_neg (by omega)]
    · simp_all [show b = 0xf4 by omega]

variable {b : UInt8} {bytes : Bytes} {p : Partial}

theorem decodeFrom_lead (several : 0x80 ≤ b.toNat) (lead : Partial.ofLead? b.toNat = some p) :
    decodeFrom none (b :: bytes) = decodeFrom (some p) bytes := by
  simp only [decodeFrom, step, start, Nat.not_lt.2 several, if_false, lead, Option.toList_none,
    List.nil_append]

theorem decodeFrom_last (missing : p.missing = 0) (low : p.low ≤ b.toNat)
    (high : b.toNat ≤ p.high) :
    decodeFrom (some p) (b :: bytes) =
      Char.ofNat (p.value * 64 + (b.toNat - 0x80)) :: decodeFrom none bytes := by
  simp only [decodeFrom, step, low, high, decide_true, Bool.and_self, if_true, missing,
    List.cons_append, List.nil_append]

theorem decodeFrom_next {n : Nat} (missing : p.missing = n + 1) (low : p.low ≤ b.toNat)
    (high : b.toNat ≤ p.high) :
    decodeFrom (some p) (b :: bytes) =
      decodeFrom (some ⟨n, 0x80, 0xbf, p.value * 64 + (b.toNat - 0x80)⟩) bytes := by
  simp only [decodeFrom, step, low, high, decide_true, Bool.and_self, if_true, missing,
    List.nil_append]

/-- A byte below 256 is the number that it was made from. -/
theorem toNat_ofNat {n : Nat} (h : n < 256) : (UInt8.ofNat n).toNat = n := by
  simp [Nat.mod_eq_of_lt h]

/-- **The bytes of a character give that character**, and the reader is between characters again. -/
theorem decodeFrom_utf8EncodeChar (c : Char) (rest : Bytes) :
    decodeFrom none (String.utf8EncodeChar c ++ rest) = c :: decodeFrom none rest := by
  have valid := c.valid
  have back : Char.ofNat c.val.toNat = c := Char.ofNat_toNat c
  simp only [UInt32.isValidChar, Nat.isValidChar] at valid
  generalize hv : c.val.toNat = v at valid back
  simp only [String.utf8EncodeChar, hv]
  split
  · -- one byte
    have size : (UInt8.ofNat v).toNat = v := toNat_ofNat (by omega)
    simp only [List.cons_append, List.nil_append, decodeFrom, step, start, size,
      if_pos (show v < 0x80 by omega), back, Option.toList_some]
  split
  · -- two bytes
    have lead : (UInt8.ofNat (v / 64 % 0x20 + 0xc0)).toNat = v / 64 + 0xc0 := by
      rw [toNat_ofNat (by omega)]
      omega
    have second : (UInt8.ofNat (v % 0x40 + 0x80)).toNat = v % 64 + 0x80 := toNat_ofNat (by omega)
    rw [List.cons_append, decodeFrom_lead (p := ⟨0, 0x80, 0xbf, v / 64⟩) (by omega)
      (by simp only [lead, Partial.ofLead?]; rw [if_neg (by omega), if_pos (by omega)]; simp)]
    rw [List.cons_append, decodeFrom_last rfl (by simp only; omega) (by simp only; omega), second]
    rw [show v / 64 * 64 + (v % 64 + 0x80 - 0x80) = v by omega, back, List.nil_append]
  split
  · -- three bytes
    have lead : (UInt8.ofNat (v / 4096 % 0x10 + 0xe0)).toNat = v / 4096 + 0xe0 := by
      rw [toNat_ofNat (by omega)]
      omega
    have second : (UInt8.ofNat (v / 64 % 0x40 + 0x80)).toNat = v / 64 % 64 + 0x80 :=
      toNat_ofNat (by omega)
    have third : (UInt8.ofNat (v % 0x40 + 0x80)).toNat = v % 64 + 0x80 := toNat_ofNat (by omega)
    rw [List.cons_append, decodeFrom_lead (by omega)
      (ofLead?_three (by omega) (by omega))]
    rw [List.cons_append, decodeFrom_next (n := 0) rfl (by simp only [lead]; split <;> omega)
      (by simp only [lead]; split <;> omega)]
    rw [List.cons_append, decodeFrom_last rfl (by simp only; omega) (by simp only; omega), lead,
      second, third]
    rw [show ((v / 4096 + 0xe0 - 0xe0) * 64 + (v / 64 % 64 + 0x80 - 0x80)) * 64 +
      (v % 64 + 0x80 - 0x80) = v by omega, back, List.nil_append]
  · -- four bytes
    have lead : (UInt8.ofNat (v / 262144 % 0x08 + 0xf0)).toNat = v / 262144 + 0xf0 := by
      rw [toNat_ofNat (by omega)]
      omega
    have second : (UInt8.ofNat (v / 4096 % 0x40 + 0x80)).toNat = v / 4096 % 64 + 0x80 :=
      toNat_ofNat (by omega)
    have third : (UInt8.ofNat (v / 64 % 0x40 + 0x80)).toNat = v / 64 % 64 + 0x80 :=
      toNat_ofNat (by omega)
    have fourth : (UInt8.ofNat (v % 0x40 + 0x80)).toNat = v % 64 + 0x80 := toNat_ofNat (by omega)
    rw [List.cons_append, decodeFrom_lead (by omega) (ofLead?_four (by omega) (by omega))]
    rw [List.cons_append, decodeFrom_next (n := 1) rfl (by simp only [lead]; split <;> omega)
      (by simp only [lead]; split <;> omega)]
    rw [List.cons_append, decodeFrom_next (n := 0) rfl (by simp only; omega) (by simp only; omega)]
    rw [List.cons_append, decodeFrom_last rfl (by simp only; omega) (by simp only; omega), lead,
      second, third, fourth]
    rw [show (((v / 262144 + 0xf0 - 0xf0) * 64 + (v / 4096 % 64 + 0x80 - 0x80)) * 64 +
      (v / 64 % 64 + 0x80 - 0x80)) * 64 + (v % 64 + 0x80 - 0x80) = v by omega, back,
      List.nil_append]

/-! ## 2. Texts -/

theorem decode_encode (s : String) : decode (encode s) = s := by
  have chars : ∀ cs : List Char, decodeFrom none (cs.flatMap String.utf8EncodeChar) = cs := by
    intro cs
    induction cs with
    | nil => rfl
    | cons c cs ih => rw [List.flatMap_cons, decodeFrom_utf8EncodeChar, ih]
  rw [decode, decodeChars, encode, chars, String.ofList_toList]

theorem encode_append (s t : String) : encode (s ++ t) = encode s ++ encode t := by
  simp only [encode, String.toList_append, List.flatMap_append]

/-- Texts of the same bytes are the same. -/
theorem encode_inj {s t : String} : encode s = encode t ↔ s = t := by
  constructor
  · intro same
    rw [← decode_encode s, same, decode_encode]
  · exact congrArg _

end Text.Utf8

namespace Charset

/-- Has the charset the character? -/
def Covers : Charset → Char → Prop
  | utf8, _ => True
  | ascii, c => c.toNat < 128
  | latin1, c => c.toNat < 256

instance (charset : Charset) (c : Char) : Decidable (charset.Covers c) :=
  match charset with
  | utf8 => .isTrue trivial
  | ascii => inferInstanceAs (Decidable (c.toNat < 128))
  | latin1 => inferInstanceAs (Decidable (c.toNat < 256))

/-- What the charset writes for a character: a question mark if it lacks it. -/
def written (charset : Charset) (c : Char) : Char := if charset.Covers c then c else '?'

theorem written_of_covers {charset : Charset} {c : Char} (h : charset.Covers c) :
    charset.written c = c := if_pos h

/-- Every charset has the characters up to the last visible one of ASCII. -/
theorem covers_of_le {c : Char} (h : c ≤ '~') (charset : Charset) : charset.Covers c := by
  have small : c.toNat ≤ '~'.toNat := h
  cases charset with
  | utf8 => trivial
  | ascii => exact Nat.lt_of_le_of_lt small (by decide)
  | latin1 => exact Nat.lt_of_le_of_lt small (by decide)

theorem map_written {charset : Charset} {cs : List Char} (h : ∀ c ∈ cs, charset.Covers c) :
    cs.map charset.written = cs :=
  (List.map_congr_left fun c hc => written_of_covers (h c hc)).trans (List.map_id cs)

/-- With one byte a character, reading byte by byte gives the characters below the size and
question marks for the others. -/
theorem map_encodeBelow {size : Nat} {read : UInt8 → Char} (s : String) (mark : '?'.toNat < size)
    (back : ∀ c : Char, c.toNat < size → read (UInt8.ofNat c.toNat) = c) :
    (encodeBelow size s).map read = s.toList.map fun c => if c.toNat < size then c else '?' := by
  rw [encodeBelow, List.map_map]
  refine List.map_congr_left fun c _ => ?_
  by_cases below : c.toNat < size
  · simp only [Function.comp_apply, if_pos below, back c below]
  · simp only [Function.comp_apply, if_neg below]
    exact back '?' mark

/-- **What is read from the bytes of a text**: the text, with question marks for the characters that
the charset lacks. -/
theorem decode_encode_eq (charset : Charset) (s : String) :
    charset.decode (charset.encode s) = String.ofList (s.toList.map charset.written) := by
  cases charset with
  | utf8 =>
    have covered : ∀ c ∈ s.toList, Covers utf8 c := fun _ _ => trivial
    rw [map_written covered, String.ofList_toList]
    exact Text.Utf8.decode_encode s
  | ascii =>
    refine congrArg String.ofList (map_encodeBelow s (by decide) fun c below => ?_)
    rw [Text.Utf8.toNat_ofNat (by omega), if_pos below, Char.ofNat_toNat]
  | latin1 =>
    refine congrArg String.ofList (map_encodeBelow s (by decide) fun c below => ?_)
    rw [Text.Utf8.toNat_ofNat below, Char.ofNat_toNat]

/-- **A text whose characters the charset has reads back from its bytes.** -/
theorem decode_encode {charset : Charset} {s : String} (h : ∀ c ∈ s.toList, charset.Covers c) :
    charset.decode (charset.encode s) = s := by
  rw [decode_encode_eq, map_written h, String.ofList_toList]

/-- ASCII in front of a text is read as it was written. -/
theorem toList_decode_encode {s : String} {w rest : List Char} (split : s.toList = w ++ rest)
    (plain : ∀ c ∈ w, c ≤ '~') (charset : Charset) :
    (charset.decode (charset.encode s)).toList = w ++ rest.map charset.written := by
  rw [decode_encode_eq, String.toList_ofList, split, List.map_append,
    map_written fun c hc => covers_of_le (plain c hc) charset]

end Charset

end Syslog

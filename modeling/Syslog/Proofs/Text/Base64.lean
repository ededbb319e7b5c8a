import Mathlib.Data.List.Basic
import Syslog.Text.Base64

/-!
# Base64 has one written form

Reading takes what writing gives and nothing else, so that bytes stand for one text only.

* `value?_eq_some_iff`: the digits and their values;
* `encode_one`, `encode_two`, `encode_three`: the bytes of one, two and three digits more than one;
* `encode_of_decode`, `decode_encode`: one way and the other;
* `isWritten_of_mem_encode`, `length_encode`: which characters are written, and how many.
-/

namespace Syslog.Text.Base64

/-! ## 1. Digits -/

theorem value?_digit {n : Nat} (small : n < 64) : value? (digit n) = some n := by
  have each : ∀ k : Fin 64, value? (digit k) = some k.val := by decide +kernel
  exact each ⟨n, small⟩

theorem digit_ne_padding {n : Nat} (small : n < 64) : digit n ≠ '=' := by
  have each : ∀ k : Fin 64, digit k ≠ '=' := by decide +kernel
  exact each ⟨n, small⟩

/-- Only characters of ASCII have values. -/
theorem ascii_of_value? {c : Char} {n : Nat} (h : value? c = some n) : c.toNat < 128 := by
  have bound : ∀ limit : Char, limit.toNat < 128 → c ≤ limit → c.toNat < 128 :=
    fun limit small below => Nat.lt_of_le_of_lt (UInt32.le_iff_toNat_le.1 below) small
  simp only [value?, Bool.and_eq_true, decide_eq_true_eq, beq_iff_eq] at h
  split at h
  · rename_i capital
    exact bound 'Z' (by decide) capital.2
  split at h
  · rename_i small
    exact bound 'z' (by decide) small.2
  split at h
  · rename_i number
    exact bound '9' (by decide) number.2
  split at h
  · rename_i plus
    rw [plus]
    decide
  split at h
  · rename_i slash
    rw [slash]
    decide
  · cases h

/-- A character that has a value is the digit of it. -/
theorem value?_eq_some_iff {c : Char} {n : Nat} : value? c = some n ↔ n < 64 ∧ c = digit n := by
  constructor
  · intro h
    have each : ∀ k : Fin 128, ∀ n ∈ value? (Char.ofNat k), n < 64 ∧ Char.ofNat k = digit n := by
      decide +kernel
    have own := each ⟨c.toNat, ascii_of_value? h⟩ n
    rw [Char.ofNat_toNat] at own
    exact own h
  · rintro ⟨small, rfl⟩
    exact value?_digit small

/-! ## 2. Bytes -/

section Groups

variable {p q r s : Nat}

/-- One byte is two digits, and the last bits of the second are not used. -/
theorem encode_one (hp : p < 64) (hq : q < 64) (whole : q % 16 = 0) :
    encode [UInt8.ofNat (p * 4 + q / 16)] = [digit p, digit q, '=', '='] := by
  have byte := UInt8.toNat_ofNat_of_lt' (show p * 4 + q / 16 < 256 by omega)
  simp only [encode, byte]
  rw [show (p * 4 + q / 16) / 4 = p by omega, show (p * 4 + q / 16) % 4 * 16 = q by omega]

theorem encode_two (hp : p < 64) (hq : q < 64) (hr : r < 64) (whole : r % 4 = 0) :
    encode [UInt8.ofNat (p * 4 + q / 16), UInt8.ofNat (q % 16 * 16 + r / 4)] =
      [digit p, digit q, digit r, '='] := by
  have first := UInt8.toNat_ofNat_of_lt' (show p * 4 + q / 16 < 256 by omega)
  have second := UInt8.toNat_ofNat_of_lt' (show q % 16 * 16 + r / 4 < 256 by omega)
  simp only [encode, first, second]
  rw [show (p * 4 + q / 16) / 4 = p by omega,
    show (p * 4 + q / 16) % 4 * 16 + (q % 16 * 16 + r / 4) / 16 = q by omega,
    show (q % 16 * 16 + r / 4) % 16 * 4 = r by omega]

theorem encode_three (hp : p < 64) (hq : q < 64) (hr : r < 64) (hs : s < 64) (rest : Bytes) :
    encode (UInt8.ofNat (p * 4 + q / 16) :: UInt8.ofNat (q % 16 * 16 + r / 4) ::
        UInt8.ofNat (r % 4 * 64 + s) :: rest) =
      digit p :: digit q :: digit r :: digit s :: encode rest := by
  have first := UInt8.toNat_ofNat_of_lt' (show p * 4 + q / 16 < 256 by omega)
  have second := UInt8.toNat_ofNat_of_lt' (show q % 16 * 16 + r / 4 < 256 by omega)
  have third := UInt8.toNat_ofNat_of_lt' (show r % 4 * 64 + s < 256 by omega)
  simp only [encode, first, second, third]
  rw [show (p * 4 + q / 16) / 4 = p by omega,
    show (p * 4 + q / 16) % 4 * 16 + (q % 16 * 16 + r / 4) / 16 = q by omega,
    show (q % 16 * 16 + r / 4) % 16 * 4 + (r % 4 * 64 + s) / 64 = r by omega,
    show (r % 4 * 64 + s) % 64 = s by omega]

end Groups

/-- What is read of the last four digits is what they write. -/
theorem encode_of_decodeLast {w x y z : Char} {bytes : Bytes}
    (h : decodeLast w x y z = some bytes) : encode bytes = [w, x, y, z] := by
  obtain ⟨p, first, h₁⟩ := Option.bind_eq_some_iff.1 h
  obtain ⟨q, second, h₂⟩ := Option.bind_eq_some_iff.1 h₁
  obtain ⟨hp, hw⟩ := value?_eq_some_iff.1 first
  obtain ⟨hq, hx⟩ := value?_eq_some_iff.1 second
  split at h₂
  · -- one byte
    rename_i hy
    split at h₂
    · rename_i hz
      rw [Bool.and_eq_true, beq_iff_eq, beq_iff_eq] at hz
      rw [← Option.some.inj h₂, encode_one hp hq hz.2, hw, hx, beq_iff_eq.1 hy, hz.1]
    · cases h₂
  · obtain ⟨r, third, h₃⟩ := Option.bind_eq_some_iff.1 h₂
    obtain ⟨hr, hy⟩ := value?_eq_some_iff.1 third
    split at h₃
    · -- two bytes
      rename_i hz
      split at h₃
      · rename_i whole
        rw [← Option.some.inj h₃, encode_two hp hq hr (beq_iff_eq.1 whole), hw, hx, hy,
          beq_iff_eq.1 hz]
      · cases h₃
    · -- three bytes
      obtain ⟨s, fourth, h₄⟩ := Option.bind_eq_some_iff.1 h₃
      obtain ⟨hs, hz⟩ := value?_eq_some_iff.1 fourth
      rw [← Option.some.inj h₄, encode_three hp hq hr hs [], hw, hx, hy, hz]
      rfl

/-- What is read is what the digits write. -/
theorem encode_of_decode {cs : List Char} {bytes : Bytes} (h : decode cs = some bytes) :
    encode bytes = cs := by
  fun_induction decode cs generalizing bytes with
  | case1 =>
    cases h
    rfl
  | case2 w x y z => exact encode_of_decodeLast h
  | case3 w x y z rest _ ih =>
    obtain ⟨p, first, h₁⟩ := Option.bind_eq_some_iff.1 h
    obtain ⟨q, second, h₂⟩ := Option.bind_eq_some_iff.1 h₁
    obtain ⟨r, third, h₃⟩ := Option.bind_eq_some_iff.1 h₂
    obtain ⟨s, fourth, h₄⟩ := Option.bind_eq_some_iff.1 h₃
    obtain ⟨tail, later, h₅⟩ := Option.bind_eq_some_iff.1 h₄
    obtain ⟨hp, hw⟩ := value?_eq_some_iff.1 first
    obtain ⟨hq, hx⟩ := value?_eq_some_iff.1 second
    obtain ⟨hr, hy⟩ := value?_eq_some_iff.1 third
    obtain ⟨hs, hz⟩ := value?_eq_some_iff.1 fourth
    rw [← Option.some.inj h₅, encode_three hp hq hr hs tail, ih later, hw, hx, hy, hz]
  | case4 => cases h

/-- A byte from its value. -/
theorem ofNat_eq {n : Nat} {a : UInt8} (h : n = a.toNat) : UInt8.ofNat n = a := by
  rw [h, UInt8.ofNat_toNat]

/-- Four digits without padding are three bytes. -/
theorem decode_digits {p q r s : Nat} (hp : p < 64) (hq : q < 64) (hr : r < 64) (hs : s < 64)
    (rest : List Char) :
    decode (digit p :: digit q :: digit r :: digit s :: rest) =
      (decode rest).map fun tail =>
        UInt8.ofNat (p * 4 + q / 16) :: UInt8.ofNat (q % 16 * 16 + r / 4) ::
          UInt8.ofNat (r % 4 * 64 + s) :: tail := by
  cases rest with
  | nil =>
    have third := beq_false_of_ne (digit_ne_padding hr)
    have fourth := beq_false_of_ne (digit_ne_padding hs)
    simp only [decode, decodeLast, value?_digit hp, value?_digit hq, value?_digit hr,
      value?_digit hs, third, fourth, Option.bind_eq_bind, Option.bind_some, Option.map_some,
      Bool.false_eq_true, if_false]
  | cons c rest =>
    simp only [decode, value?_digit hp, value?_digit hq, value?_digit hr, value?_digit hs,
      Option.bind_eq_bind, Option.bind_some]
    cases decode (c :: rest) <;> rfl

/-- What is written is read back. -/
theorem decode_encode (bytes : Bytes) : decode (encode bytes) = some bytes := by
  fun_induction encode bytes with
  | case1 => rfl
  | case2 a =>
    have low := a.toNat_lt
    have first := ofNat_eq (show a.toNat / 4 * 4 + a.toNat % 4 * 16 / 16 = a.toNat by omega)
    have whole : (a.toNat % 4 * 16 % 16 == 0) = true := beq_iff_eq.2 (by omega)
    simp only [decode, decodeLast, value?_digit (show a.toNat / 4 < 64 by omega),
      value?_digit (show a.toNat % 4 * 16 < 64 by omega), Option.bind_eq_bind, Option.bind_some,
      beq_self_eq_true, whole, Bool.and_self, if_true, first]
  | case3 a b =>
    have low := a.toNat_lt
    have low' := b.toNat_lt
    have third : b.toNat % 16 * 4 < 64 := by omega
    have first := ofNat_eq
      (show a.toNat / 4 * 4 + (a.toNat % 4 * 16 + b.toNat / 16) / 16 = a.toNat by omega)
    have second := ofNat_eq (show (a.toNat % 4 * 16 + b.toNat / 16) % 16 * 16 +
      b.toNat % 16 * 4 / 4 = b.toNat by omega)
    have whole : (b.toNat % 16 * 4 % 4 == 0) = true := beq_iff_eq.2 (by omega)
    simp only [decode, decodeLast, value?_digit (show a.toNat / 4 < 64 by omega),
      value?_digit (show a.toNat % 4 * 16 + b.toNat / 16 < 64 by omega), value?_digit third,
      Option.bind_eq_bind, Option.bind_some, beq_false_of_ne (digit_ne_padding third),
      beq_self_eq_true, Bool.false_eq_true, whole, if_true, if_false, first, second]
  | case4 a b c rest ih =>
    have low := a.toNat_lt
    have low' := b.toNat_lt
    have low'' := c.toNat_lt
    rw [decode_digits (by omega) (by omega) (by omega) (by omega), ih, Option.map_some,
      ofNat_eq (show a.toNat / 4 * 4 + (a.toNat % 4 * 16 + b.toNat / 16) / 16 = a.toNat by omega),
      ofNat_eq (show (a.toNat % 4 * 16 + b.toNat / 16) % 16 * 16 +
        (b.toNat % 16 * 4 + c.toNat / 64) / 4 = b.toNat by omega),
      ofNat_eq (show (b.toNat % 16 * 4 + c.toNat / 64) % 4 * 64 + c.toNat % 64 = c.toNat by omega)]

/-- **What is written is read, and nothing else is.** -/
theorem decode_eq_some_iff {cs : List Char} {bytes : Bytes} :
    decode cs = some bytes ↔ cs = encode bytes :=
  ⟨fun h => (encode_of_decode h).symm, fun h => h ▸ decode_encode bytes⟩

theorem encode_inj {a b : Bytes} : encode a = encode b ↔ a = b := by
  constructor
  · intro same
    have read := decode_encode a
    rw [same, decode_encode] at read
    exact (Option.some.inj read).symm
  · exact congrArg _

/-! ## 3. What stands in Base64 -/

/-- Can the character stand in Base64? -/
def isWritten (c : Char) : Bool := alphabet.contains c || c == '='

theorem isWritten_digit (n : Nat) : isWritten (digit n) = true := by
  unfold isWritten digit
  rw [List.getD_eq_getElem?_getD]
  cases inside : alphabet[n]? with
  | none => decide
  | some c => simp [List.mem_of_getElem? inside]

/-- **Only digits and padding are written.** -/
theorem isWritten_of_mem_encode {bytes : Bytes} {c : Char} (h : c ∈ encode bytes) :
    isWritten c = true := by
  have padding : isWritten '=' = true := by decide
  fun_induction encode bytes with
  | case1 => cases h
  | case2 a =>
    simp only [List.mem_cons, List.not_mem_nil, or_false] at h
    rcases h with rfl | rfl | rfl | rfl
    · exact isWritten_digit _
    · exact isWritten_digit _
    · exact padding
    · exact padding
  | case3 a b =>
    simp only [List.mem_cons, List.not_mem_nil, or_false] at h
    rcases h with rfl | rfl | rfl | rfl
    · exact isWritten_digit _
    · exact isWritten_digit _
    · exact isWritten_digit _
    · exact padding
  | case4 a b c' rest ih =>
    simp only [List.mem_cons] at h
    rcases h with rfl | rfl | rfl | rfl | later
    · exact isWritten_digit _
    · exact isWritten_digit _
    · exact isWritten_digit _
    · exact isWritten_digit _
    · exact ih later

/-- The digits grow with the bytes. -/
theorem length_encode (bytes : Bytes) : (encode bytes).length = (bytes.length + 2) / 3 * 4 := by
  fun_induction encode bytes with
  | case1 => rfl
  | case2 a | case3 a b => simp
  | case4 a b c rest ih =>
    simp only [List.length_cons, ih]
    omega

end Syslog.Text.Base64

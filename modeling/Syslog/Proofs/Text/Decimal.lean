import Mathlib.Data.List.TakeWhile
import Syslog.Text.Decimal

/-!
# Runs of characters and digits

* `span_eq_iff`: what a reader takes from the front of a text is the longest run of characters of
  its kind;
* `ofDigits_digits`, `ofDigits_padLeft`: a number reads back from its digits, also with zeros in
  front of them;
* `length_padLeft`: how wide a number is that fits its width.
-/

namespace Syslog.Text

/-! ## 1. Runs -/

/-- **A run is the longest one**: all its characters are of the kind, and the next one is not. -/
theorem span_eq_iff {p : Char → Bool} {cs run rest : List Char} :
    cs.takeWhile p = run ∧ cs.dropWhile p = rest ↔
      cs = run ++ rest ∧ (∀ c ∈ run, p c = true) ∧ ∀ c ∈ rest.head?, p c = false := by
  constructor
  · rintro ⟨rfl, rfl⟩
    refine ⟨List.takeWhile_append_dropWhile.symm, fun c hc => List.mem_takeWhile_imp hc,
      fun c hc => ?_⟩
    have := List.head?_dropWhile_not p cs
    rw [Option.mem_def.1 hc] at this
    simpa using this
  · rintro ⟨rfl, all, stop⟩
    rw [List.takeWhile_append_of_pos all, List.dropWhile_append_of_pos all]
    cases rest with
    | nil => simp
    | cons c rest =>
      have : p c = false := stop c rfl
      simp [this]

theorem takeWhile_append_of_stop {p : Char → Bool} {run rest : List Char}
    (all : ∀ c ∈ run, p c = true) (stop : ∀ c ∈ rest.head?, p c = false) :
    (run ++ rest).takeWhile p = run :=
  (span_eq_iff.2 ⟨rfl, all, stop⟩).1

theorem dropWhile_append_of_stop {p : Char → Bool} {run rest : List Char}
    (all : ∀ c ∈ run, p c = true) (stop : ∀ c ∈ rest.head?, p c = false) :
    (run ++ rest).dropWhile p = rest :=
  (span_eq_iff.2 ⟨rfl, all, stop⟩).2

/-! ## 2. Digits -/

namespace Decimal

theorem ofDigits_eq (cs : List Char) : ofDigits cs = Nat.ofDigitChars 10 cs 0 := by
  simp only [ofDigits, value, Nat.ofDigitChars, Nat.mul_comm]

/-- A number reads back from its digits. -/
@[simp] theorem ofDigits_digits (n : Nat) : ofDigits (digits n) = n := by
  rw [ofDigits_eq, digits, Nat.ofDigitChars_ten_toDigits]

theorem digits_ne_nil (n : Nat) : digits n ≠ [] :=
  Nat.toDigits_ne_nil

theorem isDigit_of_mem_digits {n : Nat} {c : Char} (h : c ∈ digits n) : isDigit c = true := by
  have := Nat.isDigit_of_mem_toDigits (by decide) (by decide) h
  simpa [isDigit, Char.isDigit, Char.le_def] using this

theorem length_digits_le {n width : Nat} (positive : 0 < width) (small : n < Nat.pow 10 width) :
    (digits n).length ≤ width :=
  (Nat.length_toDigits_le_iff (by decide) positive).2 small

/-- A smaller number has no more digits. -/
theorem length_digits_mono {m n : Nat} (le : m ≤ n) : (digits m).length ≤ (digits n).length := by
  have positive : 0 < (digits n).length := List.length_pos_iff.2 (digits_ne_nil n)
  have below : n < Nat.pow 10 (digits n).length :=
    (Nat.length_toDigits_le_iff (by decide) positive).1 (Nat.le_refl _)
  exact length_digits_le positive (Nat.lt_of_le_of_lt le below)

/-- Zeros in front do not count. -/
@[simp] theorem ofDigits_padLeft (width n : Nat) : ofDigits (padLeft width '0' (digits n)) = n := by
  rw [padLeft, ofDigits_eq, Nat.ofDigitChars_append, Nat.ofDigitChars_replicate_zero, Nat.mul_zero,
    digits, Nat.ofDigitChars_ten_toDigits]

theorem isDigit_of_mem_padLeft {width n : Nat} {c : Char}
    (h : c ∈ padLeft width '0' (digits n)) : isDigit c = true := by
  rcases List.mem_append.1 h with h | h
  · rw [List.eq_of_mem_replicate h]
    decide
  · exact isDigit_of_mem_digits h

/-- A number that fits its width is exactly as wide. -/
theorem length_padLeft {width n : Nat} (positive : 0 < width) (small : n < Nat.pow 10 width) :
    (padLeft width '0' (digits n)).length = width := by
  have := length_digits_le positive small
  rw [padLeft, List.length_append, List.length_replicate]
  omega

end Decimal

end Syslog.Text

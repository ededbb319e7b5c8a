import Syslog.Proofs.Text.Decimal
import Syslog.Time.Rfc3339

/-!
# Times read back

* `read?_renderMillis`: a moment of the years 0 to 9999 reads back from its text, to the
  millisecond, in UTC;
* `not_space_of_read?`, `head_of_read?`: a text that is read as a time begins with a digit and has
  no space in it, so it is a field of its own;
* `head_renderShort`: the short form begins with a capital letter.
-/

namespace Syslog.Time

open Text

/-! ## 1. The texts that are read -/

/-- A reader that takes digits leaves every space. -/
theorem space_of_digits? {count v : Nat} {cs rest : List Char}
    (h : digits? count cs = some (v, rest)) (space : ' ' ∈ cs) : ' ' ∈ rest := by
  simp only [digits?] at h
  split at h
  · rename_i taken
    cases h
    rw [← List.take_append_drop count cs] at space
    rcases List.mem_append.1 space with space | space
    · simp only [Bool.and_eq_true, List.all_eq_true] at taken
      exact absurd (taken.2 _ space) (by decide)
    · exact space
  · cases h

theorem space_of_skip? {allowed cs rest : List Char} (other : ' ' ∉ allowed)
    (h : skip? allowed cs = some rest) (space : ' ' ∈ cs) : ' ' ∈ rest := by
  cases cs with
  | nil => cases h
  | cons c cs =>
    simp only [skip?] at h
    split at h
    · rename_i taken
      cases h
      rcases List.mem_cons.1 space with rfl | space
      · exact absurd (List.contains_iff_mem.1 taken) other
      · exact space
    · cases h

theorem space_of_fraction? {v : Nat} {cs rest : List Char} (h : fraction? cs = some (v, rest))
    (space : ' ' ∈ cs) : ' ' ∈ rest := by
  unfold fraction? at h
  split at h
  · rename_i digits
    simp only at h
    split at h
    · cases h
    · cases h
      have space : ' ' ∈ digits := by simpa using space
      rw [← List.takeWhile_append_dropWhile (p := Decimal.isDigit) (l := digits)] at space
      rcases List.mem_append.1 space with space | space
      · exact absurd (List.mem_takeWhile_imp space) (by decide)
      · exact space
  · cases h
    exact space

/-- An offset has no space in it. -/
theorem not_space_of_shift? {v : Int} {cs : List Char} (h : shift? cs = some v) : ' ' ∉ cs := by
  intro space
  unfold shift? at h
  split at h
  · simp at space
  · simp at space
  · rename_i sign rest _ _
    simp only [Option.bind_eq_bind, Option.bind_eq_some_iff, Prod.exists] at h
    obtain ⟨hours, rest₁, h₁, rest₂, h₂, minutes, rest₃, h₃, h⟩ := h
    split at h
    · cases h
    · rename_i ended
      simp only [Bool.or_eq_true, Bool.not_eq_true', not_or, Bool.not_eq_false,
        List.isEmpty_iff] at ended
      rcases List.mem_cons.1 space with rfl | space
      · simp at h
      · have := space_of_digits? h₃ (space_of_skip? (by decide) h₂ (space_of_digits? h₁ space))
        rw [ended.1.1] at this
        cases this
  · cases h

/-- **A text that is read as a time has no space in it.** -/
theorem not_space_of_read? {t : OffsetTime} {cs : List Char} (h : read? cs = some t) :
    ' ' ∉ cs := by
  intro space
  unfold read? at h
  obtain ⟨⟨_, _⟩, year, h⟩ := Option.bind_eq_some_iff.1 h
  obtain ⟨_, hyphen, h⟩ := Option.bind_eq_some_iff.1 h
  obtain ⟨⟨_, _⟩, month, h⟩ := Option.bind_eq_some_iff.1 h
  obtain ⟨_, hyphen', h⟩ := Option.bind_eq_some_iff.1 h
  obtain ⟨⟨_, _⟩, day, h⟩ := Option.bind_eq_some_iff.1 h
  obtain ⟨_, letter, h⟩ := Option.bind_eq_some_iff.1 h
  obtain ⟨⟨_, _⟩, hour, h⟩ := Option.bind_eq_some_iff.1 h
  obtain ⟨_, colon, h⟩ := Option.bind_eq_some_iff.1 h
  obtain ⟨⟨_, _⟩, minute, h⟩ := Option.bind_eq_some_iff.1 h
  obtain ⟨_, colon', h⟩ := Option.bind_eq_some_iff.1 h
  obtain ⟨⟨_, _⟩, second, h⟩ := Option.bind_eq_some_iff.1 h
  obtain ⟨⟨_, _⟩, fraction, h⟩ := Option.bind_eq_some_iff.1 h
  obtain ⟨_, shift, -⟩ := Option.bind_eq_some_iff.1 h
  refine not_space_of_shift? shift (space_of_fraction? fraction ?_)
  refine space_of_digits? second (space_of_skip? (by decide) colon' ?_)
  refine space_of_digits? minute (space_of_skip? (by decide) colon ?_)
  refine space_of_digits? hour (space_of_skip? (by decide) letter ?_)
  refine space_of_digits? day (space_of_skip? (by decide) hyphen' ?_)
  exact space_of_digits? month (space_of_skip? (by decide) hyphen (space_of_digits? year space))

/-- A text that is read as a time begins with a digit. -/
theorem head_of_read? {t : OffsetTime} {cs : List Char} (h : read? cs = some t) :
    ∃ c rest, cs = c :: rest ∧ Decimal.isDigit c = true := by
  unfold read? at h
  obtain ⟨_, year, -⟩ := Option.bind_eq_some_iff.1 h
  simp only [digits?] at year
  split at year
  · rename_i taken
    cases cs with
    | nil => simp at taken
    | cons c rest =>
      simp only [Bool.and_eq_true, List.all_eq_true] at taken
      exact ⟨c, rest, rfl, taken.2 c (by simp)⟩
  · cases year

/-! ## 2. The text of a moment -/

/-- A number reads back from as many digits as it is written in. -/
theorem digits?_padded {width n : Nat} (positive : 0 < width) (small : n < Nat.pow 10 width)
    (rest : List Char) :
    digits? width ((Decimal.padded width n).toList ++ rest) = some (n, rest) := by
  have size := Decimal.length_padLeft positive small
  have digit : (Decimal.padLeft width '0' (Decimal.digits n)).all Decimal.isDigit = true :=
    List.all_eq_true.2 fun c hc => Decimal.isDigit_of_mem_padLeft hc
  simp only [digits?, Decimal.padded, String.toList_ofList]
  rw [List.take_left' size, List.drop_left' size, size, digit, Decimal.ofDigits_padLeft]
  simp

/-- Three decimals are so many millions of nanoseconds. -/
theorem fraction?_millis {n : Nat} (small : n < 1000) (rest : List Char)
    (stop : ∀ c ∈ rest.head?, Decimal.isDigit c = false) :
    fraction? ('.' :: ((Decimal.padded 3 n).toList ++ rest)) = some (n * 1000000, rest) := by
  have size : (Decimal.padLeft 3 '0' (Decimal.digits n)).length = 3 :=
    Decimal.length_padLeft (by decide) small
  have digit : ∀ c ∈ Decimal.padLeft 3 '0' (Decimal.digits n), Decimal.isDigit c = true :=
    fun c hc => Decimal.isDigit_of_mem_padLeft hc
  have nonempty : (Decimal.padLeft 3 '0' (Decimal.digits n)).isEmpty = false := by
    rw [List.isEmpty_eq_false_iff, ← List.length_pos_iff, size]
    decide
  simp only [fraction?, Decimal.padded, String.toList_ofList, takeWhile_append_of_stop digit stop,
    dropWhile_append_of_stop digit stop, nonempty, Bool.false_eq_true, if_false]
  rw [List.take_append, List.take_of_length_le (by omega), size, List.take_replicate,
    Decimal.ofDigits_eq, Nat.ofDigitChars_append, ← Decimal.ofDigits_eq, Decimal.ofDigits_padLeft,
    Nat.ofDigitChars_replicate_zero, Nat.mul_comm]
  rfl

/-- **A moment reads back from its text to the millisecond.** -/
theorem read?_renderMillis (t : DateTime) (low : 0 ≤ t.year) (high : t.year ≤ 9999) :
    read? (renderMillis t).toList = some ⟨t.truncateToMillis, 0⟩ := by
  have parts := t.valid
  simp only [ValidParts] at parts
  obtain ⟨-, month, -, day, hour, minute, second, nanosecond⟩ := parts
  have longest : daysInMonth t.year t.month ≤ 31 := by
    unfold daysInMonth
    split
    · split <;> omega
    · split <;> omega
  have year : renderYear t.year = Decimal.padded 4 t.year.toNat := by
    simp [renderYear, low, high]
  have back : ((t.year.toNat : Nat) : Int) = t.year := Int.toNat_of_nonneg low
  have made : DateTime.make? t.year t.month t.day t.hour t.minute t.second
      (t.nanosecond / 1000000 * 1000000) = some t.truncateToMillis :=
    dif_pos t.truncateToMillis.valid
  have years : t.year.toNat < Nat.pow 10 4 := show t.year.toNat < 10000 by omega
  have four : ∀ rest, digits? 4 ((Decimal.padded 4 t.year.toNat).toList ++ rest) =
      some (t.year.toNat, rest) := digits?_padded (by decide) years
  have two : ∀ n < 100, ∀ rest, digits? 2 ((Decimal.padded 2 n).toList ++ rest) = some (n, rest) :=
    fun n small rest => digits?_padded (by decide) small rest
  have month := two t.month (by omega)
  have day := two t.day (by omega)
  have hour := two t.hour (by omega)
  have minute := two t.minute (by omega)
  have second := two t.second (by omega)
  have millis : ∀ rest, fraction? ('.' :: ((Decimal.padded 3 (t.nanosecond / 1000000)).toList ++
      'Z' :: rest)) = some (t.nanosecond / 1000000 * 1000000, 'Z' :: rest) := by
    refine fun rest => fraction?_millis (by omega) _ fun c hc => ?_
    cases hc
    rfl
  simp only [renderMillis, renderSeconds, year, String.toList_append, List.append_assoc,
    show "-".toList = ['-'] from rfl, show "T".toList = ['T'] from rfl,
    show ":".toList = [':'] from rfl, show ".".toList = ['.'] from rfl,
    show "Z".toList = ['Z'] from rfl, List.cons_append, List.nil_append]
  unfold read?
  refine Option.bind_eq_some_iff.2 ⟨_, four _, Option.bind_eq_some_iff.2 ⟨_, rfl, ?_⟩⟩
  refine Option.bind_eq_some_iff.2 ⟨_, month _, Option.bind_eq_some_iff.2 ⟨_, rfl, ?_⟩⟩
  refine Option.bind_eq_some_iff.2 ⟨_, day _, Option.bind_eq_some_iff.2 ⟨_, rfl, ?_⟩⟩
  refine Option.bind_eq_some_iff.2 ⟨_, hour _, Option.bind_eq_some_iff.2 ⟨_, rfl, ?_⟩⟩
  refine Option.bind_eq_some_iff.2 ⟨_, minute _, Option.bind_eq_some_iff.2 ⟨_, rfl, ?_⟩⟩
  refine Option.bind_eq_some_iff.2 ⟨_, second _, Option.bind_eq_some_iff.2 ⟨_, millis _, ?_⟩⟩
  exact Option.bind_eq_some_iff.2 ⟨_, rfl, Option.bind_eq_some_iff.2 ⟨_, back ▸ made, rfl⟩⟩

/-! ## 3. The short form -/

theorem head_monthName {month : Nat} (low : 1 ≤ month) (high : month ≤ 12) :
    ∃ c rest, (monthName month).toList = c :: rest ∧ 'A' ≤ c ∧ c ≤ 'Z' := by
  have letters : ∀ i < 12,
      ((monthName (i + 1)).toList.head?.any fun c => 'A' ≤ c && c ≤ 'Z') = true := by decide
  obtain ⟨c, first, letter⟩ := (Option.any_eq_true _ _).1 (letters (month - 1) (by omega))
  rw [Nat.sub_add_cancel low] at first
  simp only [Bool.and_eq_true, decide_eq_true_eq] at letter
  obtain ⟨rest, name⟩ := List.head?_eq_some_iff.1 first
  exact ⟨c, rest, name, letter⟩

/-- The short form of a moment begins with the name of a month. -/
theorem head_renderShort (t : DateTime) :
    ∃ c rest, (renderShort t).toList = c :: rest ∧ 'A' ≤ c ∧ c ≤ 'Z' := by
  obtain ⟨c, rest, name, letter⟩ := head_monthName t.valid.1 t.valid.2.1
  simp only [renderShort, String.toList_append, name, List.cons_append]
  exact ⟨c, _, rfl, letter⟩

end Syslog.Time

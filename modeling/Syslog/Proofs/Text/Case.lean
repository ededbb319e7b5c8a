import Mathlib.Data.List.DropRight
import Syslog.Registry

/-!
# Names that count as one

Routes take names as one that differ in the case of ASCII letters only; registries take the lower
case of what is left without the blanks at the ends. This file says that the first never goes beyond
the second.

* `toLower_letter`: what does not tell small letters from capital ones does not see `Char.toLower`;
* `trim_lowerAscii`, `trim_trim`: trimming does not see the case, nor that it was done before;
* `toLower_lowerAscii`: nor does the lower case in all scripts see it, although a final sigma
  depends on the letters around it;
* `normalize_eq_of_equalIgnoringAsciiCase`: names that are one for a route are one for a registry.
-/

namespace Syslog

namespace Text

/-! ## 1. Letters of ASCII -/

/-- A function that does not tell small letters from capital ones does not see `Char.toLower`. -/
theorem toLower_letter {β : Type} {f : Char → β}
    (letters : ∀ n : Fin 26, f (Char.ofNat (97 + n)) = f (Char.ofNat (65 + n))) (c : Char) :
    f c.toLower = f c := by
  by_cases capital : 65 ≤ c.toNat ∧ c.toNat ≤ 90
  · obtain ⟨n, hn⟩ : ∃ n : Fin 26, 65 + n.val = c.toNat :=
      ⟨⟨c.toNat - 65, by omega⟩, by simp; omega⟩
    have self : c = Char.ofNat (65 + n) := by rw [hn, Char.ofNat_toNat]
    have lower : ∀ n : Fin 26, (Char.ofNat (65 + n)).toLower = Char.ofNat (97 + n) := by decide
    rw [self, lower, letters]
  · have same : c.toLower = c := by
      unfold Char.toLower
      rw [dif_neg]
      intro h
      exact capital ⟨UInt32.le_iff_toNat_le.1 h.1, UInt32.le_iff_toNat_le.1 h.2⟩
    rw [same]

theorem isBlank_toLower (c : Char) : isBlank c.toLower = isBlank c := toLower_letter (by decide) c

/-! ## 2. Trimming -/

theorem trimChars_map_toLower (cs : List Char) :
    trimChars (cs.map Char.toLower) = (trimChars cs).map Char.toLower := by
  have blank : isBlank ∘ Char.toLower = isBlank := funext isBlank_toLower
  simp only [trimChars, List.dropWhile_map, blank, ← List.map_reverse]

theorem trim_lowerAscii (s : String) : trim (lowerAscii s) = lowerAscii (trim s) := by
  simp only [trim, lowerAscii, String.toList_ofList, trimChars_map_toLower]

/-- No blank is left at the front. -/
theorem dropWhile_trimChars (cs : List Char) :
    (trimChars cs).dropWhile isBlank = trimChars cs := by
  obtain ⟨tail, front⟩ : trimChars cs <+: cs.dropWhile isBlank := by
    rw [← List.reverse_suffix, trimChars, List.reverse_reverse]
    exact List.dropWhile_suffix _
  cases h : trimChars cs with
  | nil => rfl
  | cons c rest =>
    have head : (cs.dropWhile isBlank).head? = some c := by rw [← front, h]; rfl
    have blank : isBlank c = false := by
      have := List.head?_dropWhile_not isBlank cs
      rw [head] at this
      simpa using this
    rw [List.dropWhile_cons_of_neg (by simp [blank])]

theorem trimChars_trimChars (cs : List Char) : trimChars (trimChars cs) = trimChars cs := by
  rw [trimChars.eq_def (trimChars cs), dropWhile_trimChars, trimChars, List.reverse_reverse,
    List.dropWhile_idempotent]

theorem trim_trim (s : String) : trim (trim s) = trim s := by
  simp only [trim, String.toList_ofList, trimChars_trimChars]

/-! ## 3. The lower case in all scripts -/

namespace Case

theorem change_toLower (c : Char) :
    change lowerLong lowerRuns c.toLower = change lowerLong lowerRuns c :=
  toLower_letter (f := change lowerLong lowerRuns) (by decide +kernel) c

theorem meetsCased_map_toLower (cs : List Char) :
    meetsCased (cs.map Char.toLower) = meetsCased cs := by
  have ignorable : ignorableRanges.has ∘ Char.toLower = ignorableRanges.has :=
    funext (toLower_letter (by decide +kernel))
  have cased := toLower_letter (f := casedRanges.has) (by decide +kernel)
  unfold meetsCased
  rw [List.dropWhile_map, ignorable]
  cases cs.dropWhile ignorableRanges.has with
  | nil => rfl
  | cons c rest => exact cased c

theorem lowerIn_map_toLower (before : List Char) (c : Char) (after : List Char) :
    lowerIn (before.map Char.toLower) c.toLower (after.map Char.toLower) =
      lowerIn before c after := by
  have sigma : (c.toLower == 'Σ') = (c == 'Σ') := toLower_letter (f := (· == 'Σ')) (by decide) c
  unfold lowerIn
  rw [sigma, meetsCased_map_toLower, meetsCased_map_toLower, change_toLower]

theorem lowerFrom_map_toLower (before cs : List Char) :
    lowerFrom (before.map Char.toLower) (cs.map Char.toLower) = lowerFrom before cs := by
  induction cs generalizing before with
  | nil => rfl
  | cons c rest ih =>
    simp only [List.map_cons, lowerFrom, lowerIn_map_toLower]
    exact congrArg _ (ih (c :: before))

end Case

theorem toLower_lowerAscii (s : String) : toLower (lowerAscii s) = toLower s := by
  simp only [toLower, lowerAscii, String.toList_ofList]
  exact congrArg _ (Case.lowerFrom_map_toLower [] s.toList)

end Text

/-! ## 4. Routes and registries -/

theorem Text.equalIgnoringAsciiCase_refl (s : String) : Text.equalIgnoringAsciiCase s s = true :=
  beq_self_eq_true _

theorem Text.equalIgnoringAsciiCase_comm (s t : String) :
    Text.equalIgnoringAsciiCase s t = Text.equalIgnoringAsciiCase t s := Bool.beq_comm

namespace Registry

theorem normalize_lowerAscii (name : String) :
    normalize (Text.lowerAscii name) = normalize name := by
  rw [normalize, Text.trim_lowerAscii, Text.toLower_lowerAscii, normalize]

@[simp] theorem normalize_trim (name : String) : normalize (Text.trim name) = normalize name := by
  rw [normalize, Text.trim_trim, normalize]

/-- **Names that are one for a route are one for a registry.** -/
theorem normalize_eq_of_equalIgnoringAsciiCase {name other : String}
    (h : Text.equalIgnoringAsciiCase name other = true) : normalize name = normalize other := by
  have same : Text.lowerAscii name = Text.lowerAscii other := beq_iff_eq.1 h
  rw [← normalize_lowerAscii, same, normalize_lowerAscii]

end Registry

end Syslog

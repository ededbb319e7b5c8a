import Syslog.Proofs.Text.Case
import Syslog.Registry

/-!
# The lower case of a lower case

The letters that the lower case gives are in lower case themselves, and none of them is a blank. So
the form of a name that counts in a registry is a form that counts.

* `Run.avoids`: no letter that one run of the tables gives is moved by another, which is told from
  the ends of the runs;
* `IsLower`, `isLower_of_mem_lowerIn`: a character that stays, and that all that is given stays;
* `toLower_toLower`, `trim_toLower_trim`: twice in lower case, or trimmed again, is the same;
* `normalize_normalize`: so is a name.
-/

namespace Syslog

namespace Text

/-! ## 1. Runs of letters that do not meet -/

namespace Case

/-- A closed range of code points that stay. -/
def Run.still (range : Nat × Nat) : Run := ⟨range.1, range.2, 1, 0⟩

/-- The first letter that a run gives. -/
def Run.low (r : Run) : Nat := (r.first + r.shift).toNat

/-- The last letter that a run gives. -/
def Run.high (r : Run) : Nat := (r.last + r.shift).toNat

/-- No letter of the second run is one that the first gives. -/
def Run.avoids (r s : Run) : Bool :=
  Nat.blt r.high s.first || Nat.blt s.last r.low ||
    ((r.step == 2 || r.first == r.last) && s.step == 2 && (r.low + s.first) % 2 == 1)

/-- What the run gives are characters. -/
def Run.lands (r : Run) : Bool :=
  0 ≤ r.first + r.shift &&
    (Nat.blt r.high 0xD800 || Nat.blt 0xDFFF r.low && Nat.blt r.high 0x110000)

theorem Run.map?_eq_some_iff {r : Run} {n m : Nat} :
    r.map? n = some m ↔
      (r.first ≤ n ∧ n ≤ r.last ∧ (n - r.first) % r.step = 0) ∧ (n + r.shift).toNat = m := by
  simp [map?, and_assoc]

theorem Run.map?_still_eq_none_iff {range : Nat × Nat} {n : Nat} :
    (still range).map? n = none ↔ ¬ (range.1 ≤ n ∧ n ≤ range.2) := by
  constructor
  · intro stays inside
    have moved : (still range).map? n = some n :=
      Run.map?_eq_some_iff.2 ⟨⟨inside.1, inside.2, Nat.mod_one _⟩, by simp [still]⟩
    rw [stays] at moved
    cases moved
  · intro outside
    refine Option.eq_none_iff_forall_ne_some.2 fun m moved => ?_
    obtain ⟨⟨above, below, -⟩, -⟩ := Run.map?_eq_some_iff.1 moved
    exact outside ⟨above, below⟩

theorem Run.avoids.map? {r s : Run} (avoids : r.avoids s = true) (lands : r.lands = true)
    {n m : Nat} (moved : r.map? n = some m) : s.map? m = none := by
  obtain ⟨⟨above, below, steps⟩, rfl⟩ := Run.map?_eq_some_iff.1 moved
  refine Option.eq_none_iff_forall_ne_some.2 fun m' again => ?_
  obtain ⟨⟨above', below', steps'⟩, -⟩ := Run.map?_eq_some_iff.1 again
  simp only [Run.avoids, Run.lands, Bool.or_eq_true, Bool.and_eq_true, decide_eq_true_eq,
    beq_iff_eq, Nat.blt_eq] at avoids lands
  unfold Run.low Run.high at avoids
  rcases avoids with (behind | before) | ⟨⟨step | single, step'⟩, odd⟩
  · omega
  · omega
  · rw [step] at steps
    rw [step'] at steps'
    omega
  · rw [step'] at steps'
    omega

theorem Run.lands.toNat_ofNat {r : Run} (lands : r.lands = true) {n m : Nat}
    (moved : r.map? n = some m) : (Char.ofNat m).toNat = m := by
  obtain ⟨⟨above, below, -⟩, rfl⟩ := Run.map?_eq_some_iff.1 moved
  simp only [Run.lands, Bool.or_eq_true, Bool.and_eq_true, decide_eq_true_eq, Nat.blt_eq] at lands
  unfold Run.low Run.high at lands
  have valid : (n + r.shift).toNat.isValidChar := by
    unfold Nat.isValidChar
    omega
  rw [Char.ofNat, dif_pos valid]
  rfl

/-- The runs of capital letters, and what else the lower case or a blank is told by. -/
def lowerMarks : List Run :=
  lowerRuns ++ lowerLong.map (fun e => Run.still (e.1, e.1)) ++ blankRanges.map Run.still

theorem lowerRuns_avoid :
    (lowerRuns.all fun r => r.lands && lowerMarks.all r.avoids) = true := by decide +kernel

/-! ## 2. Characters in lower case -/

/-- A character that the lower case does not change. -/
structure IsLower (c : Char) : Prop where
  kept : change lowerLong lowerRuns c = [c]
  other : c ≠ 'Σ'

theorem isLower_of_untouched {c : Char} (alone : lowerLong.lookup c.toNat = none)
    (outside : lowerRuns.findSome? (·.map? c.toNat) = none) : IsLower c where
  kept := by simp only [change, alone, outside]
  other same := by
    subst same
    revert outside
    decide +kernel

/-- A letter that a run gives is in lower case, and no blank. -/
theorem isLower_of_map? {r : Run} (member : r ∈ lowerRuns) {n m : Nat} (moved : r.map? n = some m) :
    IsLower (Char.ofNat m) ∧ isBlank (Char.ofNat m) = false := by
  obtain ⟨lands, avoids⟩ := Bool.and_eq_true_iff.1 (List.all_eq_true.1 lowerRuns_avoid r member)
  have unmarked : ∀ s ∈ lowerMarks, s.map? m = none :=
    fun s inside => Run.avoids.map? (List.all_eq_true.1 avoids s inside) lands moved
  simp only [lowerMarks, List.mem_append, or_imp, forall_and, List.forall_mem_map,
    Run.map?_still_eq_none_iff] at unmarked
  obtain ⟨⟨runs, long⟩, blank⟩ := unmarked
  have same := Run.lands.toNat_ofNat lands moved
  refine ⟨isLower_of_untouched ?_ ?_, ?_⟩
  · rw [same, List.lookup_eq_none_iff]
    intro e inside
    have other := long e inside
    exact bne_iff_ne.2 fun equal => other ⟨Nat.le_of_eq equal.symm, Nat.le_of_eq equal⟩
  · rw [same, List.findSome?_eq_none_iff]
    exact runs
  · rw [isBlank, Ranges.has, List.any_eq_false, same]
    intro range inside
    simpa using blank range inside

/-- The characters of a long change are in lower case, and no blanks. -/
theorem isLower_of_lowerLong {e : Nat × List Nat} (member : e ∈ lowerLong) :
    e.2 ≠ [] ∧ ∀ n ∈ e.2, IsLower (Char.ofNat n) ∧ isBlank (Char.ofNat n) = false := by
  have checked : (lowerLong.all fun e => e.2 != [] && e.2.all fun n =>
      (lowerLong.lookup (Char.ofNat n).toNat).isNone &&
        (lowerRuns.findSome? (·.map? (Char.ofNat n).toNat)).isNone &&
          !isBlank (Char.ofNat n)) = true := by decide +kernel
  have here := List.all_eq_true.1 checked e member
  simp only [Bool.and_eq_true, bne_iff_ne, List.all_eq_true, Option.isNone_iff_eq_none,
    Bool.not_eq_true'] at here
  exact ⟨here.1, fun n inside =>
    ⟨isLower_of_untouched (here.2 n inside).1.1 (here.2 n inside).1.2, (here.2 n inside).2⟩⟩

/-- What the lower case makes of a character is in lower case, and no blank unless it was one. -/
theorem isLower_of_mem_change {c d : Char} (other : c ≠ 'Σ')
    (member : d ∈ change lowerLong lowerRuns c) :
    IsLower d ∧ (isBlank c = false → isBlank d = false) := by
  unfold change at member
  cases long : lowerLong.lookup c.toNat with
  | some cs =>
    rw [long] at member
    obtain ⟨n, inside, rfl⟩ := List.mem_map.1 member
    obtain ⟨before, after, entries, -⟩ := List.lookup_eq_some_iff.1 long
    have listed : (c.toNat, cs) ∈ lowerLong := by rw [entries]; simp
    obtain ⟨lower, blank⟩ := (isLower_of_lowerLong listed).2 n inside
    exact ⟨lower, fun _ => blank⟩
  | none =>
    cases run : lowerRuns.findSome? (·.map? c.toNat) with
    | some n =>
      simp only [long, run, List.mem_singleton] at member
      subst member
      obtain ⟨r, inside, moved⟩ := List.exists_of_findSome?_eq_some run
      obtain ⟨lower, blank⟩ := isLower_of_map? inside moved
      exact ⟨lower, fun _ => blank⟩
    | none =>
      simp only [long, run, List.mem_singleton] at member
      subst member
      exact ⟨isLower_of_untouched long run, id⟩

theorem isLower_of_mem_lowerIn {before after : List Char} {c d : Char}
    (member : d ∈ lowerIn before c after) :
    IsLower d ∧ (isBlank c = false → isBlank d = false) := by
  unfold lowerIn at member
  by_cases sigma : (c == 'Σ') = true
  · have small : d = 'ς' ∨ d = 'σ' := by
      rw [if_pos sigma] at member
      split at member
      · exact .inl (List.mem_singleton.1 member)
      · exact .inr (List.mem_singleton.1 member)
    rcases small with rfl | rfl
    · exact ⟨isLower_of_untouched (by decide +kernel) (by decide +kernel), fun _ => by decide⟩
    · exact ⟨isLower_of_untouched (by decide +kernel) (by decide +kernel), fun _ => by decide⟩
  · rw [if_neg sigma] at member
    exact isLower_of_mem_change (fun same => sigma (beq_iff_eq.2 same)) member

theorem isLower_of_mem_lowerFrom {before cs : List Char} {d : Char}
    (member : d ∈ lowerFrom before cs) : IsLower d := by
  induction cs generalizing before with
  | nil => cases member
  | cons c after ih =>
    rcases List.mem_append.1 member with here | later
    · exact (isLower_of_mem_lowerIn here).1
    · exact ih later

/-- What is in lower case stays. -/
theorem lowerFrom_of_isLower {cs : List Char} (lower : ∀ c ∈ cs, IsLower c) (before : List Char) :
    lowerFrom before cs = cs := by
  induction cs generalizing before with
  | nil => rfl
  | cons c after ih =>
    have here := lower c List.mem_cons_self
    have same : lowerIn before c after = [c] := by
      rw [lowerIn, if_neg fun sigma => here.other (eq_of_beq sigma)]
      exact here.kept
    rw [lowerFrom, same, ih fun d inside => lower d (List.mem_cons_of_mem c inside)]
    rfl

end Case

/-! ## 3. Texts in lower case -/

/-- **A text in lower case stays as it is in lower case.** -/
theorem toLower_toLower (s : String) : toLower (toLower s) = toLower s := by
  simp only [toLower, String.toList_ofList]
  rw [Case.lowerFrom_of_isLower fun _ => Case.isLower_of_mem_lowerFrom]

/-- A text is trimmed if it has no blank at its ends. -/
theorem trimChars_eq_self {cs : List Char} (front : ∀ c ∈ cs.head?, isBlank c = false)
    (back : ∀ c ∈ cs.getLast?, isBlank c = false) : trimChars cs = cs := by
  have untouched : ∀ ds : List Char, (∀ c ∈ ds.head?, isBlank c = false) →
      ds.dropWhile isBlank = ds := by
    intro ds head
    cases ds with
    | nil => rfl
    | cons c rest => exact List.dropWhile_cons_of_neg (by simp [head c rfl])
  rw [trimChars, untouched cs front, untouched cs.reverse, List.reverse_reverse]
  rwa [List.head?_reverse]

/-- A trimmed text has no blank at its ends. -/
theorem not_blank_of_trimmed {cs : List Char} (trimmed : trimChars cs = cs) :
    (∀ c ∈ cs.head?, isBlank c = false) ∧ ∀ c ∈ cs.getLast?, isBlank c = false := by
  have head : ∀ (ds : List Char), ∀ c ∈ (ds.dropWhile isBlank).head?, isBlank c = false := by
    intro ds c first
    have := List.head?_dropWhile_not isBlank ds
    rw [first] at this
    simpa using this
  constructor
  · intro c first
    rw [← trimmed, ← dropWhile_trimChars] at first
    exact head _ c first
  · intro c last
    rw [← trimmed, trimChars, List.getLast?_reverse] at last
    exact head _ c last

namespace Case

theorem lowerIn_ne_nil (before : List Char) (c : Char) (after : List Char) :
    lowerIn before c after ≠ [] := by
  unfold lowerIn
  split
  · split <;> exact List.cons_ne_nil _ _
  · unfold change
    cases long : lowerLong.lookup c.toNat with
    | some cs =>
      obtain ⟨before, after, entries, -⟩ := List.lookup_eq_some_iff.1 long
      have listed : (c.toNat, cs) ∈ lowerLong := by rw [entries]; simp
      exact fun empty => (isLower_of_lowerLong listed).1 (List.map_eq_nil_iff.1 empty)
    | none => cases lowerRuns.findSome? (·.map? c.toNat) <;> exact List.cons_ne_nil _ _

/-- The last character, in lower case, stands at the end. -/
theorem exists_lowerFrom_concat (before cs : List Char) (c : Char) :
    ∃ front, lowerFrom before (cs ++ [c]) = front ++ lowerIn (cs.reverse ++ before) c [] := by
  induction cs generalizing before with
  | nil => exact ⟨[], by simp [lowerFrom]⟩
  | cons d rest ih =>
    obtain ⟨front, eq⟩ := ih (d :: before)
    refine ⟨lowerIn before d (rest ++ [c]) ++ front, ?_⟩
    rw [List.cons_append, lowerFrom, eq]
    simp

/-- The lower case puts no blank at the ends of a text. -/
theorem trimChars_lowerFrom {cs : List Char} (trimmed : trimChars cs = cs) :
    trimChars (lowerFrom [] cs) = lowerFrom [] cs := by
  obtain ⟨front, back⟩ := not_blank_of_trimmed trimmed
  refine trimChars_eq_self (fun d first => ?_) fun d last => ?_
  · cases cs with
    | nil => cases first
    | cons c after =>
      have here : d ∈ lowerIn [] c after := by
        rw [lowerFrom, List.head?_append_of_ne_nil _ (lowerIn_ne_nil [] c after)] at first
        exact List.mem_of_head? first
      exact (isLower_of_mem_lowerIn here).2 (front c rfl)
  · rcases List.eq_nil_or_concat cs with rfl | ⟨rest, c, rfl⟩
    · cases last
    · rw [List.concat_eq_append] at last back
      obtain ⟨start, eq⟩ := exists_lowerFrom_concat [] rest c
      have here : d ∈ lowerIn (rest.reverse ++ []) c [] := by
        rw [eq, List.getLast?_append_of_ne_nil _ (lowerIn_ne_nil _ c [])] at last
        exact List.mem_of_getLast? last
      exact (isLower_of_mem_lowerIn here).2 (back c (by simp))

end Case

/-- The lower case of a trimmed text is trimmed. -/
theorem trim_toLower_trim (s : String) : trim (toLower (trim s)) = toLower (trim s) := by
  simp only [trim, toLower, String.toList_ofList]
  rw [Case.trimChars_lowerFrom (trimChars_trimChars s.toList)]

/-- Only the empty text is empty in lower case. -/
theorem toLower_eq_empty_iff {s : String} : toLower s = "" ↔ s = "" := by
  rw [toLower, String.ofList_eq_empty_iff, ← String.toList_eq_nil_iff]
  cases s.toList with
  | nil => exact iff_of_true rfl rfl
  | cons c after =>
    refine iff_of_false (fun empty => ?_) (List.cons_ne_nil _ _)
    rw [Case.lowerFrom] at empty
    exact Case.lowerIn_ne_nil [] c after (List.append_eq_nil_iff.1 empty).1

end Text

/-! ## 4. Names -/

namespace Registry

/-- The form of a name is empty just when the name is blank. -/
theorem normalize_eq_empty_iff {name : String} : normalize name = "" ↔ Text.trim name = "" :=
  Text.toLower_eq_empty_iff

/-- **The form of a name that counts is its own.** -/
@[simp] theorem normalize_normalize (name : String) :
    normalize (normalize name) = normalize name := by
  rw [normalize, normalize, Text.trim_toLower_trim, Text.toLower_toLower]

end Registry

end Syslog

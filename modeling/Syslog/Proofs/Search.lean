import Mathlib.Data.List.Infix
import Syslog.Search

/-!
# Where a pattern stands

The searches of `Syslog.Search` said with the prefixes and suffixes of lists.

* `startsWith_iff`, `endsWith_iff`: the two ends;
* `firstIndex?_eq_some_iff`, `firstIndex?_eq_none_iff`: the leftmost place is a place, and no place
  is left of it;
* `firstIndex?_append`: more elements at the end do not move it; `firstIndex?_of_clean`: a start
  without a place may be left out of the search;
* `splitLast?_eq_some_iff`: the rightmost place is a place, and no place is right of it;
  `length_le_of_foreign`: which places are the rightmost ones.
-/

namespace Syslog.Search

variable {α : Type}

/-! ## 1. Places -/

/-- A pattern that stands at `i` ends inside the list. -/
theorem length_le_of_prefix_drop {pattern xs : List α} {i : Nat} (h : pattern <+: xs.drop i) :
    pattern.length ≤ xs.length - i := by
  simpa using h.length_le

/-- Inside the longer list the pattern stands where it stood. -/
theorem prefix_drop_append {pattern xs : List α} {i : Nat} (h : pattern <+: xs.drop i)
    (ys : List α) : pattern <+: (xs ++ ys).drop i := by
  rw [List.drop_append]
  exact h.trans (List.prefix_append _ _)

/-- A pattern that stands in the longer list, with room for it in the shorter one, stands there. -/
theorem prefix_drop_of_append {pattern xs ys : List α} {i : Nat}
    (h : pattern <+: (xs ++ ys).drop i) (room : i + pattern.length ≤ xs.length) :
    pattern <+: xs.drop i := by
  rw [List.drop_append] at h
  refine List.prefix_of_prefix_length_le h (List.prefix_append _ _) ?_
  rw [List.length_drop]
  omega

/-- **Where the pattern has an element of another kind than all those behind it, no place is further
right**, also none that begins inside the pattern. -/
theorem length_le_of_foreign {p : α → Bool} {pattern before after front back : List α}
    (foreign : ∃ c ∈ pattern, p c = false) (plain : ∀ c ∈ after, p c = true)
    (place : before ++ pattern ++ after = front ++ pattern ++ back) :
    front.length ≤ before.length := by
  obtain ⟨c, member, other⟩ := foreign
  -- both places of the pattern put its last foreign element at the same distance from the end
  have inside : pattern.reverse.findIdx (! p ·) < pattern.reverse.length :=
    List.findIdx_lt_length_of_exists ⟨c, List.mem_reverse.2 member, by rw [other]; rfl⟩
  have last : ∀ head, (head ++ pattern).reverse.findIdx (! p ·) =
      pattern.reverse.findIdx (! p ·) := fun head => by
    rw [List.reverse_append, List.findIdx_append, if_pos inside]
  have none_after : after.reverse.findIdx (! p ·) = after.reverse.length := by
    refine List.findIdx_eq_length.2 fun c hc => ?_
    rw [plain c (List.mem_reverse.1 hc)]
    rfl
  have same := congrArg (fun xs => xs.reverse.findIdx (! p ·)) place
  rw [List.reverse_append, List.findIdx_append, none_after, if_neg (Nat.lt_irrefl _), last,
    List.reverse_append, List.findIdx_append, last, List.length_reverse, List.length_reverse]
    at same
  have sizes := congrArg List.length place
  simp only [List.length_append] at sizes
  split at same <;> omega

variable [BEq α] [LawfulBEq α]

theorem startsWith_iff {xs head : List α} : startsWith xs head = true ↔ head <+: xs :=
  List.isPrefixOf_iff_prefix

theorem endsWith_iff {xs tail : List α} : endsWith xs tail = true ↔ tail <:+ xs :=
  List.isSuffixOf_iff_suffix

/-! ## 2. The leftmost place -/

/-- **The leftmost place is a place of the pattern, and no place is left of it.** -/
theorem firstIndex?_eq_some_iff {pattern xs : List α} {i : Nat} :
    firstIndex? pattern xs = some i ↔
      pattern <+: xs.drop i ∧ ∀ j < i, ¬ pattern <+: xs.drop j := by
  induction xs generalizing i with
  | nil =>
    cases i with
    | zero => cases pattern <;> simp [firstIndex?]
    | succ i =>
      simp only [firstIndex?, List.drop_nil, List.prefix_nil, List.isEmpty_iff]
      constructor
      · intro h
        split at h <;> simp at h
      · intro h
        exact absurd h.1 (h.2 0 (Nat.succ_pos i))
  | cons x xs ih =>
    by_cases head : pattern <+: x :: xs
    · have here : firstIndex? pattern (x :: xs) = some 0 := by
        simp [firstIndex?, startsWith_iff.2 head]
      rw [here]
      cases i with
      | zero => simpa using head
      | succ i =>
        constructor
        · intro h
          simp at h
        · intro h
          exact absurd head (h.2 0 (Nat.succ_pos i))
    · have later : firstIndex? pattern (x :: xs) = (firstIndex? pattern xs).map (· + 1) := by
        simp [firstIndex?, mt startsWith_iff.1 head]
      rw [later]
      cases i with
      | zero => simp [head]
      | succ i =>
        have shift : (firstIndex? pattern xs).map (· + 1) = some (i + 1) ↔
            firstIndex? pattern xs = some i := by
          cases firstIndex? pattern xs <;> simp
        rw [shift, ih, List.drop_succ_cons]
        refine and_congr_right fun _ => ⟨fun h j hj => ?_, fun h j hj => ?_⟩
        · cases j with
          | zero => exact head
          | succ j => exact h j (by omega)
        · exact h (j + 1) (by omega)

/-- **Without a leftmost place the pattern stands nowhere.** -/
theorem firstIndex?_eq_none_iff {pattern xs : List α} :
    firstIndex? pattern xs = none ↔ ∀ j, ¬ pattern <+: xs.drop j := by
  constructor
  · intro none j place
    -- some place is the leftmost one
    induction j using Nat.strongRecOn with
    | ind j ih =>
      by_cases left : ∃ i < j, pattern <+: xs.drop i
      · obtain ⟨i, hi, place'⟩ := left
        exact ih i hi place'
      · have : firstIndex? pattern xs = some j :=
          firstIndex?_eq_some_iff.2 ⟨place, fun i hi p => left ⟨i, hi, p⟩⟩
        rw [none] at this
        cases this
  · intro nowhere
    cases h : firstIndex? pattern xs with
    | none => rfl
    | some i => exact absurd (firstIndex?_eq_some_iff.1 h).1 (nowhere i)

/-- A pattern stands somewhere in a list if it is a part of it. -/
theorem firstIndex?_eq_none_iff_infix {pattern xs : List α} :
    firstIndex? pattern xs = none ↔ ¬ pattern <:+: xs := by
  rw [firstIndex?_eq_none_iff]
  constructor
  · rintro nowhere ⟨before, after, rfl⟩
    refine nowhere before.length ?_
    rw [List.append_assoc, List.drop_left]
    exact List.prefix_append _ _
  · intro part j place
    exact part (place.isInfix.trans (List.drop_suffix j xs).isInfix)

/-- The leftmost place of a pattern lies in the list, with the pattern. -/
theorem length_of_firstIndex? {pattern xs : List α} {i : Nat} (nonempty : pattern ≠ [])
    (h : firstIndex? pattern xs = some i) : i + pattern.length ≤ xs.length := by
  have place := length_le_of_prefix_drop (firstIndex?_eq_some_iff.1 h).1
  have := List.length_pos_iff.2 nonempty
  omega

/-- **More elements at the end do not move the leftmost place.** -/
theorem firstIndex?_append {pattern xs : List α} {i : Nat} (nonempty : pattern ≠ [])
    (h : firstIndex? pattern xs = some i) (ys : List α) :
    firstIndex? pattern (xs ++ ys) = some i := by
  have room := length_of_firstIndex? nonempty h
  obtain ⟨place, left⟩ := firstIndex?_eq_some_iff.1 h
  refine firstIndex?_eq_some_iff.2 ⟨prefix_drop_append place ys, fun j hj place' => ?_⟩
  exact left j hj (prefix_drop_of_append place' (by omega))

/-- **The search may begin after elements at which the pattern does not stand.** -/
theorem firstIndex?_of_clean {pattern xs : List α} {k : Nat}
    (clean : ∀ j < k, ¬ pattern <+: xs.drop j) :
    firstIndex? pattern xs = (firstIndex? pattern (xs.drop k)).map (k + ·) := by
  cases h : firstIndex? pattern (xs.drop k) with
  | none =>
    rw [Option.map_none, firstIndex?_eq_none_iff]
    intro j place
    by_cases hj : j < k
    · exact clean j hj place
    · refine firstIndex?_eq_none_iff.1 h (j - k) ?_
      rw [List.drop_drop]
      rwa [show k + (j - k) = j by omega]
  | some i =>
    obtain ⟨place, left⟩ := firstIndex?_eq_some_iff.1 h
    rw [Option.map_some, firstIndex?_eq_some_iff]
    rw [List.drop_drop] at place
    refine ⟨place, fun j hj place' => ?_⟩
    by_cases hk : j < k
    · exact clean j hk place'
    · refine left (j - k) (by omega) ?_
      rw [List.drop_drop]
      rwa [show k + (j - k) = j by omega]

/-! ## 3. The rightmost place -/

/-- What is cut off at the pattern can be put together again. -/
theorem eq_append_of_splitLast? {pattern xs before after : List α}
    (h : splitLast? pattern xs = some (before, after)) : xs = before ++ pattern ++ after := by
  induction xs generalizing before with
  | nil =>
    simp only [splitLast?, List.isEmpty_iff] at h
    split at h
    · rename_i empty
      cases h
      rw [empty]
      rfl
    · cases h
  | cons x xs ih =>
    simp only [splitLast?] at h
    split at h
    · rename_i front back found
      cases h
      rw [ih found]
      rfl
    · obtain ⟨rest, start, same⟩ := Option.map_eq_some_iff.1 h
      cases same
      exact (List.isPrefixOf?_eq_some_iff_append_eq.1 start).symm

/-- Wherever the pattern stands, a place at least as far to the right is found. -/
theorem exists_splitLast? {pattern xs before after : List α}
    (place : xs = before ++ pattern ++ after) :
    ∃ front back, splitLast? pattern xs = some (front, back) ∧
      before.length ≤ front.length := by
  induction xs generalizing before with
  | nil =>
    obtain ⟨inside, -⟩ := List.append_eq_nil_iff.1 place.symm
    obtain ⟨rfl, rfl⟩ := List.append_eq_nil_iff.1 inside
    exact ⟨[], [], rfl, Nat.le_refl 0⟩
  | cons x xs ih =>
    cases before with
    | cons y before =>
      obtain ⟨rfl, later⟩ := List.cons.inj place
      obtain ⟨front, back, found, far⟩ := ih later
      exact ⟨x :: front, back, by rw [splitLast?, found], Nat.succ_le_succ far⟩
    | nil =>
      cases found : splitLast? pattern xs with
      | some parts => exact ⟨x :: parts.1, parts.2, by rw [splitLast?, found], Nat.zero_le _⟩
      | none =>
        refine ⟨[], after, ?_, Nat.le_refl 0⟩
        rw [splitLast?, found, place, List.nil_append]
        simp only [List.isPrefixOf?_eq_some_iff_append_eq.2 rfl, Option.map_some]

/-- **The rightmost place is a place of the pattern, and no place is right of it.** -/
theorem splitLast?_eq_some_iff {pattern xs before after : List α} :
    splitLast? pattern xs = some (before, after) ↔
      xs = before ++ pattern ++ after ∧
        ∀ front back, xs = front ++ pattern ++ back → front.length ≤ before.length := by
  constructor
  · intro found
    refine ⟨eq_append_of_splitLast? found, fun front back place => ?_⟩
    obtain ⟨front', back', found', far⟩ := exists_splitLast? place
    obtain ⟨rfl, rfl⟩ := Prod.mk.inj (Option.some.inj (found'.symm.trans found))
    exact far
  · rintro ⟨place, right⟩
    obtain ⟨front, back, found, far⟩ := exists_splitLast? place
    have place' := eq_append_of_splitLast? found
    have same : before.length = front.length := Nat.le_antisymm far (right front back place')
    rw [place', List.append_assoc, List.append_assoc] at place
    obtain ⟨rfl, rest⟩ := List.append_inj place same.symm
    rw [List.append_cancel_left rest] at found
    exact found

end Syslog.Search

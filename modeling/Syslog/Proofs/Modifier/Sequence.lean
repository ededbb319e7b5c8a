import Syslog.Modifier.Counter
import Syslog.Proofs.Text.Decimal

/-!
# Numbers without gaps

A counter hands out the numbers between its bounds in a circle. The bounds and the number that is
due can be set while it runs.

* `Operation`, `performAll`: what is done with a counter, and a run of it;
* `performChecked?`: an operation that stops where a sum needs more than a word;
* `InBounds`, `InBounds.performAll`: the number that is due lies between the bounds, and all are
  words;
* `upcoming`, `InBounds.numbered_performAll`: the numbers that come next, as long as nothing is set;
* `render_of_padding`: how wide a number is written;
* `performAll_counts`: all of this after any run.
-/

namespace Syslog

open Text

namespace Counter

/-! ## 1. What is done with a counter -/

/-- What is done with a counter. -/
inductive Operation where
  /-- A text gets the number that is due. -/
  | number (text : String)
  /-- A text is to lose its number. -/
  | strip (text : String)
  | setNext (value : Nat)
  | setFirst (value : Nat)
  | setLast (value : Nat)

/-- What it answers. -/
inductive Answer where
  | numbered (text : String)
  | stripped (text : Option String)
  | changed (done : Bool)
  deriving DecidableEq

/-- Is the value of the operation a word? -/
def Operation.IsWord : Operation → Prop
  | setNext value | setFirst value | setLast value => value < UInt64.size
  | number _ | strip _ => True

/-- The text that is to get a number. -/
def Operation.text? : Operation → Option String
  | number text => some text
  | _ => none

/-- The text that got its number. -/
def Answer.text? : Answer → Option String
  | numbered text => some text
  | _ => none

/-- The answer to a change, and the counter after it: the same one if the change was refused. -/
def accept (c : Counter) (after : Option Counter) : Answer × Counter :=
  (.changed after.isSome, after.getD c)

/-- One operation. -/
def perform (c : Counter) : Operation → Answer × Counter
  | .number text => (.numbered (c.number text).1, (c.number text).2)
  | .strip text => (.stripped (c.numbering.strip? text), c)
  | .setNext value => c.accept (c.setNext? value)
  | .setFirst value => c.accept (c.setFirst? value)
  | .setLast value => c.accept (c.setLast? value)

/-- Operations, one after the other, and all their answers. -/
def performAll (c : Counter) : List Operation → List Answer × Counter
  | [] => ([], c)
  | op :: rest =>
    let (answer, c) := c.perform op
    let (answers, c) := c.performAll rest
    (answer :: answers, c)

theorem performAll_cons (c : Counter) (op : Operation) (rest : List Operation) :
    c.performAll (op :: rest) =
      ((c.perform op).1 :: ((c.perform op).2.performAll rest).1,
        ((c.perform op).2.performAll rest).2) := rfl

/-- The sum of two words, if it is a word. -/
def sum? (a b : Nat) : Option Nat := if a + b < UInt64.size then some (a + b) else none

/-- One operation, unless a sum is no word: where a number is handed out, the next one is a sum. -/
def performChecked? (c : Counter) : Operation → Option (Answer × Counter)
  | .number text => do
    let next ← if c.next ≥ c.numbering.last then some c.numbering.first else sum? c.next 1
    return (.numbered (text ++ String.ofList Numbering.mark ++ c.numbering.render c.next),
      { c with next })
  | op => some (c.perform op)

/-! ## 2. Changes -/

section Changes

variable {c c' : Counter} {value : Nat}

theorem setNext?_eq_some_iff :
    c.setNext? value = some c' ↔
      (c.numbering.first ≤ value ∧ value ≤ c.numbering.last) ∧ c' = { c with next := value } := by
  simp only [setNext?, Bool.or_eq_true, decide_eq_true_eq]
  rw [Option.ite_none_left_eq_some, not_or, Nat.not_lt, Nat.not_lt, Option.some_inj, eq_comm]

theorem setFirst?_eq_some_iff :
    c.setFirst? value = some c' ↔ value ≤ c.numbering.last ∧
      c' = ⟨{ c.numbering with first := value }, max c.next value⟩ := by
  rw [setFirst?, Numbering.setFirst?, apply_ite (Option.map _), Option.map_none, Option.map_some,
    Option.ite_none_left_eq_some, Nat.not_lt, Option.some_inj, eq_comm]

theorem setLast?_eq_some_iff :
    c.setLast? value = some c' ↔ c.numbering.first ≤ value ∧
      c' = ⟨{ c.numbering with last := value },
        if c.next > value then c.numbering.first else c.next⟩ := by
  rw [setLast?, Numbering.setLast?, apply_ite (Option.map _), Option.map_none, Option.map_some,
    Option.ite_none_left_eq_some, Nat.not_lt, Option.some_inj, eq_comm]

theorem accept_of_refused {after : Option Counter} (refused : (c.accept after).1 = .changed false) :
    (c.accept after).2 = c := by
  cases after with
  | none => rfl
  | some c' => cases refused

/-- **A change that is refused changes nothing.** -/
theorem perform_of_refused {op : Operation} (refused : (c.perform op).1 = .changed false) :
    (c.perform op).2 = c := by
  cases op with
  | number | strip => cases refused
  | setNext | setFirst | setLast => exact accept_of_refused refused

end Changes

/-! ## 3. Bounds -/

/-- The number that is due lies between the bounds, and all three are words. -/
structure InBounds (c : Counter) : Prop where
  first_le : c.numbering.first ≤ c.next
  le_last : c.next ≤ c.numbering.last
  isWord : c.numbering.last < UInt64.size

variable {c : Counter}

theorem inBounds_start {n : Numbering} (ordered : n.first ≤ n.last) (word : n.last < UInt64.size) :
    (start n).InBounds := ⟨Nat.le_refl _, ordered, word⟩

theorem number_snd (c : Counter) (text : String) :
    (c.number text).2 =
      { c with next := if c.next ≥ c.numbering.last then c.numbering.first else c.next + 1 } := rfl

namespace InBounds

theorem number (h : c.InBounds) (text : String) : (c.number text).2.InBounds := by
  have ⟨low, high, word⟩ := h
  rw [number_snd]
  split
  · exact ⟨Nat.le_refl _, low.trans high, word⟩
  · rename_i below
    exact ⟨Nat.le_succ_of_le low, Nat.not_le.1 below, word⟩

theorem accept (h : c.InBounds) {after : Option Counter}
    (keeps : ∀ c', after = some c' → c'.InBounds) : (c.accept after).2.InBounds := by
  cases after with
  | none => exact h
  | some c' => exact keeps c' rfl

/-- **No operation leaves the bounds.** A first number that is raised takes the number that is due
along, and one that would be due beyond the last number becomes the first. -/
theorem perform (h : c.InBounds) {op : Operation} (word : op.IsWord) :
    (c.perform op).2.InBounds := by
  cases op with
  | number text => exact h.number text
  | strip text => exact h
  | setNext value =>
    refine h.accept fun c' set => ?_
    obtain ⟨⟨low, high⟩, rfl⟩ := setNext?_eq_some_iff.1 set
    exact ⟨low, high, h.isWord⟩
  | setFirst value =>
    refine h.accept fun c' set => ?_
    obtain ⟨high, rfl⟩ := setFirst?_eq_some_iff.1 set
    exact ⟨Nat.le_max_right _ _, Nat.max_le.2 ⟨h.le_last, high⟩, h.isWord⟩
  | setLast value =>
    refine h.accept fun c' set => ?_
    obtain ⟨low, rfl⟩ := setLast?_eq_some_iff.1 set
    refine ⟨?_, ?_, word⟩ <;> dsimp only <;> split
    · exact Nat.le_refl _
    · exact h.first_le
    · exact low
    · exact Nat.not_lt.1 ‹_›

theorem performAll (h : c.InBounds) {ops : List Operation} (words : ∀ op ∈ ops, op.IsWord) :
    (c.performAll ops).2.InBounds := by
  induction ops generalizing c with
  | nil => exact h
  | cons op rest ih =>
    obtain ⟨word, words⟩ := List.forall_mem_cons.1 words
    exact ih (h.perform word) words

/-- **No sum needs more than a word**: nothing is added to the last number. -/
theorem performChecked?_eq (h : c.InBounds) (op : Operation) :
    c.performChecked? op = some (c.perform op) := by
  cases op with
  | number text =>
    have ⟨_, high, word⟩ := h
    simp only [performChecked?, Counter.perform, Counter.number, advance]
    split
    · rfl
    · have fits : sum? c.next 1 = some (c.next + 1) := if_pos (by omega)
      rw [fits]
      rfl
  | strip | setNext | setFirst | setLast => rfl

end InBounds

/-! ## 4. The numbers that come next -/

/-- The number that is handed out after `k` others, if nothing is set meanwhile. -/
def upcoming (c : Counter) (k : Nat) : Nat :=
  c.numbering.first +
    (c.next - c.numbering.first + k) % (c.numbering.last - c.numbering.first + 1)

namespace InBounds

theorem upcoming_zero (h : c.InBounds) : c.upcoming 0 = c.next := by
  have ⟨low, high, _⟩ := h
  rw [upcoming, Nat.add_zero, Nat.mod_eq_of_lt (by omega)]
  omega

/-- Behind the number that is due come those that came behind it before. -/
theorem upcoming_number (h : c.InBounds) (text : String) (k : Nat) :
    (c.number text).2.upcoming k = c.upcoming (k + 1) := by
  have ⟨low, high, _⟩ := h
  simp only [upcoming, number_snd]
  split
  · -- the last number is followed by the first
    have round : c.next - c.numbering.first + (k + 1) =
        k + (c.numbering.last - c.numbering.first + 1) := by omega
    rw [round, Nat.add_mod_right, Nat.sub_self, Nat.zero_add]
  · have step : c.next + 1 - c.numbering.first + k = c.next - c.numbering.first + (k + 1) := by
      omega
    rw [step]

theorem upcoming_within (h : c.InBounds) (k : Nat) :
    c.numbering.first ≤ c.upcoming k ∧ c.upcoming k ≤ c.numbering.last := by
  have ⟨low, high, _⟩ := h
  have below := Nat.mod_lt (c.next - c.numbering.first + k)
    (Nat.zero_lt_succ (c.numbering.last - c.numbering.first))
  rw [Nat.succ_eq_add_one] at below
  rw [upcoming]
  omega

end InBounds

/-- The texts with their numbers: those of the counter from here on. -/
def numberedFrom (c : Counter) (texts : List String) : List String :=
  texts.mapIdx fun k text =>
    text ++ String.ofList Numbering.mark ++ c.numbering.render (c.upcoming k)

theorem InBounds.numberedFrom_cons (h : c.InBounds) (text : String) (texts : List String) :
    c.numberedFrom (text :: texts) =
      (c.number text).1 :: (c.number text).2.numberedFrom texts := by
  have first : (c.number text).1 =
      text ++ String.ofList Numbering.mark ++ c.numbering.render (c.upcoming 0) := by
    rw [h.upcoming_zero]
    rfl
  simp only [numberedFrom, List.mapIdx_cons, first, h.upcoming_number]
  rfl

theorem accept_of_unset {after : Option Counter} (unset : (c.accept after).1 ≠ .changed true) :
    (c.accept after).1.text? = none ∧ (c.accept after).2 = c := by
  cases after with
  | none => exact ⟨rfl, rfl⟩
  | some c' => exact absurd rfl unset

/-- An operation that sets nothing hands out a number, or leaves the counter as it was. -/
theorem perform_of_unset {op : Operation} (unset : (c.perform op).1 ≠ .changed true) :
    (∃ text, op = .number text) ∨
      op.text? = none ∧ (c.perform op).1.text? = none ∧ (c.perform op).2 = c := by
  cases op with
  | number text => exact .inl ⟨text, rfl⟩
  | strip text => exact .inr ⟨rfl, rfl, rfl⟩
  | setNext | setFirst | setLast => exact .inr ⟨rfl, accept_of_unset unset⟩

/-- **As long as nothing is set, texts get the numbers that come next.** -/
theorem InBounds.numbered_performAll (h : c.InBounds) {ops : List Operation}
    (unset : .changed true ∉ (c.performAll ops).1) :
    (c.performAll ops).1.filterMap Answer.text? =
      c.numberedFrom (ops.filterMap Operation.text?) := by
  induction ops generalizing c with
  | nil => rfl
  | cons op rest ih =>
    rw [performAll_cons] at unset ⊢
    obtain ⟨here, later⟩ := not_or.1 (mt List.mem_cons.2 unset)
    rcases perform_of_unset (Ne.symm here) with ⟨text, rfl⟩ | ⟨other, silent, same⟩
    · have asked : Operation.text? (.number text) = some text := rfl
      have answered : (c.perform (.number text)).1.text? = some (c.number text).1 := rfl
      rw [List.filterMap_cons_some answered, List.filterMap_cons_some asked, h.numberedFrom_cons]
      exact congrArg _ (ih (h.number text) later)
    · rw [List.filterMap_cons_none silent, List.filterMap_cons_none other, same]
      exact ih h (same ▸ later)

/-! ## 5. After any run -/

/-- A number up to the last one is filled up to the width of the last one. -/
theorem render_of_padding {n : Numbering} (padding : n.usePadding = true) {value : Nat}
    (le : value ≤ n.last) :
    ∃ fill, (n.render value).toList = List.replicate fill n.padChar ++ Decimal.digits value ∧
      (n.render value).toList.length = (Decimal.digits n.last).length := by
  have shorter := Decimal.length_digits_mono le
  refine ⟨(Decimal.digits n.last).length - (Decimal.digits value).length, ?_, ?_⟩
  · simp only [Numbering.render, padding, if_true, String.toList_ofList, Decimal.padLeft]
  · simp only [Numbering.render, padding, if_true, String.toList_ofList, Decimal.padLeft,
      List.length_append, List.length_replicate]
    omega

/-- **A counter stays within its bounds and counts without gaps.** After any run the number that is
due lies between the bounds, the next operation needs no sum that is more than a word, and a change
that is refused changes nothing. As long as nothing is set, texts get the numbers that come next:
from the one that is due up to the last, then from the first. Each of them is written in decimal
digits and, with padding, filled up to exactly the width of the last one. -/
theorem performAll_counts {n : Numbering} (ordered : n.first ≤ n.last) (word : n.last < UInt64.size)
    {ops : List Operation} (words : ∀ op ∈ ops, op.IsWord) :
    let c := ((start n).performAll ops).2
    let first := c.numbering.first
    let last := c.numbering.last
    let value (k : Nat) := first + (c.next - first + k) % (last - first + 1)
    (first ≤ c.next ∧ c.next ≤ last ∧ last < UInt64.size) ∧
    (∀ op, c.performChecked? op = some (c.perform op)) ∧
    (∀ op, (c.perform op).1 = .changed false → (c.perform op).2 = c) ∧
    (∀ more, .changed true ∉ (c.performAll more).1 →
      (c.performAll more).1.filterMap Answer.text? =
        (more.filterMap Operation.text?).mapIdx fun k text =>
          text ++ String.ofList Numbering.mark ++ c.numbering.render (value k)) ∧
    value 0 = c.next ∧
    ∀ k, (first ≤ value k ∧ value k ≤ last) ∧
      (c.numbering.usePadding = false →
        (c.numbering.render (value k)).toList = Decimal.digits (value k)) ∧
      (c.numbering.usePadding = true → ∃ fill,
        (c.numbering.render (value k)).toList =
            List.replicate fill c.numbering.padChar ++ Decimal.digits (value k) ∧
          (c.numbering.render (value k)).toList.length = (Decimal.digits last).length) := by
  intro c first last value
  have h : c.InBounds := (inBounds_start ordered word).performAll words
  refine ⟨⟨h.first_le, h.le_last, h.isWord⟩, h.performChecked?_eq, fun op => perform_of_refused,
    fun more => h.numbered_performAll, h.upcoming_zero, fun k => ⟨h.upcoming_within k, ?_, ?_⟩⟩
  · intro plain
    simp only [Numbering.render, plain, Bool.false_eq_true, if_false, String.toList_ofList]
  · exact fun padding => render_of_padding padding (h.upcoming_within k).2

/-- The largest word is handed out, and the next number is the first; a change of the bounds that
would part them is refused, and one that leaves nine numbers takes the padding along. -/
theorem performAll_counts_of_largest_word :
    let n : Numbering := ⟨0, 18446744073709551615, true, ' '⟩
    let ops : List Operation := [.setNext 18446744073709551615, .setFirst 7, .setLast 6]
    let c := ((start n).performAll ops).2
    n.first ≤ n.last ∧ n.last < UInt64.size ∧ (∀ op ∈ ops, op.IsWord) ∧
      (c.performAll [.number "a", .strip "a #1", .number "b"]).1.filterMap Answer.text? =
        ["a #18446744073709551615", "b #                   7"] ∧
      c.performChecked? (.number "a") = some (c.perform (.number "a")) := by
  intro n ops c
  have words : ∀ op ∈ ops, op.IsWord := by
    simp [ops, Operation.IsWord, UInt64.size]
  have ordered : n.first ≤ n.last := by decide
  have word : n.last < UInt64.size := by decide
  obtain ⟨-, checked, -, numbered, -⟩ := performAll_counts ordered word words
  have unset : .changed true ∉ (c.performAll [.number "a", .strip "a #1", .number "b"]).1 := by
    decide +kernel
  exact ⟨ordered, word, words, (numbered _ unset).trans (by decide +kernel), checked _⟩

end Counter

end Syslog

import Syslog.Event.Reader
import Syslog.Proofs.Text.Decimal
import Syslog.Proofs.Time.Rfc3339

/-!
# The grammar of an event

The parts of an event as relations between characters and what they say, and for each reader of
`Syslog.Event.Reader` that it takes exactly such a part from the front of a text.

* header: `Pri`, `Version`, `Front`, `TimeField`, `Field`;
* structured data: `IsName`, `Value`, `Params`, `Element`, `Elements`, `Data`;
* readers: `priority?_eq_some_iff`, `version?_eq_some_iff`, `front_eq_iff`, `time?_eq_some_iff`,
  `field?_eq_some_iff`, `value?_eq_some_iff`, `params?_eq_some_iff`, `element?_eq_some_iff`,
  `elements?_eq_some_iff`, `dataElements?_eq_some_iff`.

A reader takes the longest part of its kind. Where that is not clear from the part alone, the
relation says what may follow.
-/

namespace Syslog.Event.Grammar

open Text Reader

/-! ## 1. The header -/

/-- A run of at least one digit. -/
def IsNumber (ds : List Char) : Prop := ds ≠ [] ∧ ∀ c ∈ ds, Decimal.isDigit c = true

/-- A priority: one to three digits in angle brackets, with a value of at most 191. -/
inductive Pri : List Char → Priority → Prop where
  | mk {ds : List Char} {p : Priority} (digits : IsNumber ds) (short : ds.length ≤ 3)
      (small : Decimal.ofDigits ds ≤ 191) (code : p.code = Decimal.ofDigits ds) :
      Pri ('<' :: (ds ++ ['>'])) p

/-- A version and the space behind it: digits with a value of at most 32 bits. -/
inductive Version : List Char → Nat → Prop where
  | mk {ds : List Char} (digits : IsNumber ds) (word : Decimal.ofDigits ds < UInt32.size) :
      Version (ds ++ [' ']) (Decimal.ofDigits ds)

/-- A part at the front of a text and what follows it. The part is taken whenever there is one. -/
inductive Front {α : Type} (part : List Char → α → Prop) :
    List Char → Option α → List Char → Prop where
  | present {w rest : List Char} {a : α} (isPart : part w a) : Front part (w ++ rest) (some a) rest
  | absent {text : List Char} (without : ∀ w a, part w a → ¬ w <+: text) : Front part text none text

/-- A time field: nothing for a hyphen, or what reads as a time. -/
inductive TimeField : List Char → Option Time.OffsetTime → Prop where
  | nil : TimeField ['-'] none
  | time {w : List Char} {t : Time.OffsetTime} (reads : Time.read? w = some t) :
      TimeField w (some t)

/-- A field without a space: nothing for a hyphen, or its characters. -/
inductive Field : List Char → Option String → Prop where
  | nil : Field ['-'] none
  | text {w : List Char} (nonempty : w ≠ []) (token : ' ' ∉ w) (other : w ≠ ['-']) :
      Field w (some (String.ofList w))

/-! ## 2. Structured data -/

/-- A name: visible ASCII but for three characters. -/
def IsName (w : List Char) : Prop :=
  w ≠ [] ∧ ∀ c ∈ w, '!' ≤ c ∧ c ≤ '~' ∧ c ≠ '=' ∧ c ≠ ']' ∧ c ≠ '"'

/-- A value between its quotes. A backslash before a quote, a backslash or a closing bracket is an
escape, and any other stands for itself. -/
inductive Value : List Char → List Char → Prop where
  | nil : Value [] []
  | plain {c : Char} {w v : List Char} (quote : c ≠ '"') (backslash : c ≠ '\\')
      (more : Value w v) : Value (c :: w) (c :: v)
  | escape {c : Char} {w v : List Char} (escaped : c = '"' ∨ c = '\\' ∨ c = ']')
      (more : Value w v) : Value ('\\' :: c :: w) (c :: v)
  | literal {c : Char} {w v : List Char} (escaped : ¬ (c = '"' ∨ c = '\\' ∨ c = ']'))
      (more : Value (c :: w) v) : Value ('\\' :: c :: w) ('\\' :: v)

/-- The parameters of an element, each behind at least one space, and its closing bracket behind any
number of spaces. -/
inductive Params : List Char → List (String × String) → Prop where
  | close (spaces : Nat) : Params (List.replicate spaces ' ' ++ [']']) []
  | param {name w v more : List Char} {ps : List (String × String)} (spaces : Nat)
      (isName : IsName name) (value : Value w v) (rest : Params more ps) :
      Params
        (List.replicate (spaces + 1) ' ' ++ (name ++ '=' :: '"' :: (w ++ '"' :: more)))
        ((String.ofList name, String.ofList v) :: ps)

/-- An element: a name and parameters in brackets. -/
inductive Element : List Char → String × List (String × String) → Prop where
  | mk {name more : List Char} {ps : List (String × String)} (isName : IsName name)
      (params : Params more ps) : Element ('[' :: (name ++ more)) (String.ofList name, ps)

/-- Elements, one after the other. -/
inductive Elements : List Char → List (String × List (String × String)) → Prop where
  | nil : Elements [] []
  | cons {w more : List Char} {e : String × List (String × String)}
      {es : List (String × List (String × String))} (element : Element w e)
      (rest : Elements more es) : Elements (w ++ more) (e :: es)

/-- What follows the header: a hyphen, a hyphen with a space and a message, or any number of
elements and a message, with at most one space between them. Elements are taken as long as a bracket
follows, the space is taken if it is there, and a hyphen that could be the first form is not the
third. -/
inductive Data : List Char → List (String × List (String × String)) → List Char → Prop where
  | nil : Data ['-'] [] []
  | nilText (message : List Char) : Data ('-' :: ' ' :: message) [] message
  | spaced {w message : List Char} {es : List (String × List (String × String))}
      (elements : Elements w es) : Data (w ++ ' ' :: message) es message
  | direct {w message : List Char} {es : List (String × List (String × String))}
      (elements : Elements w es) (space : message.head? ≠ some ' ')
      (bracket : message.head? ≠ some '[') (nil : w ++ message ≠ ['-'])
      (nilText : ¬ ['-', ' '] <+: w ++ message) : Data (w ++ message) es message

/-! ## 3. Readers of the header -/

/-- A number stands for the priority that has it. -/
theorem ofCode?_eq_some_iff {n : Nat} {p : Priority} :
    Priority.ofCode? n = some p ↔ p.code = n := by
  constructor
  · intro h
    simp only [Priority.ofCode?, Option.bind_eq_bind, Option.bind_eq_some_iff,
      Option.pure_def, Option.some.injEq] at h
    obtain ⟨facility, hf, severity, hs, rfl⟩ := h
    obtain ⟨low, rfl⟩ := List.getElem?_eq_some_iff.1 hf
    obtain ⟨high, rfl⟩ := List.getElem?_eq_some_iff.1 hs
    have facilities : ∀ i : Fin 24, (Facility.all[i]).code = i := by decide
    have severities : ∀ i : Fin 8, (Severity.all[i]).code = i := by decide
    have code_div : (Facility.all[n / 8]).code = n / 8 := facilities ⟨_, low⟩
    have code_mod : (Severity.all[n % 8]).code = n % 8 := severities ⟨_, high⟩
    simp only [Priority.code, code_div, code_mod]
    omega
  · rintro rfl
    exact p.ofCode?_code

theorem priority?_eq_some_iff {cs rest : List Char} {p : Priority} :
    priority? cs = some (p, rest) ↔ ∃ w, Pri w p ∧ cs = w ++ rest := by
  constructor
  · intro h
    unfold priority? at h
    split at h
    · rename_i cs
      simp only at h
      split at h
      · rename_i after stop
        obtain ⟨split, digits, -⟩ := span_eq_iff.1 ⟨rfl, stop⟩
        split at h
        · cases h
        · rename_i width
          obtain ⟨q, code, e⟩ := Option.map_eq_some_iff.1 h
          cases e
          simp only [Bool.or_eq_true, List.isEmpty_iff, decide_eq_true_eq, not_or,
            Nat.not_lt] at width
          have code := ofCode?_eq_some_iff.1 code
          refine ⟨_, .mk ⟨width.1, digits⟩ width.2 (code ▸ p.code_le) code, ?_⟩
          simpa using split
      · cases h
    · cases h
  · rintro ⟨_, ⟨⟨nonempty, digits⟩, short, -, code⟩, rfl⟩
    rename_i ds
    have stop : ∀ c ∈ ('>' :: rest).head?, Decimal.isDigit c = false := by
      intro c hc
      cases hc
      rfl
    have width : (ds.isEmpty || decide (ds.length > 3)) = false := by
      simp [nonempty, Nat.not_lt.2 short]
    simp only [List.cons_append, List.append_assoc, List.nil_append, priority?,
      takeWhile_append_of_stop digits stop, dropWhile_append_of_stop digits stop, width,
      Bool.false_eq_true, if_false, ofCode?_eq_some_iff.2 code, Option.map_some]

theorem version?_eq_some_iff {cs rest : List Char} {n : Nat} :
    version? cs = some (n, rest) ↔ ∃ w, Version w n ∧ cs = w ++ rest := by
  constructor
  · intro h
    unfold version? at h
    simp only at h
    split at h
    · rename_i after stop
      obtain ⟨split, digits, -⟩ := span_eq_iff.1 ⟨rfl, stop⟩
      split at h
      · cases h
      · rename_i fits
        cases h
        simp only [Bool.or_eq_true, List.isEmpty_iff, decide_eq_true_eq, not_or, ge_iff_le,
          Nat.not_le] at fits
        exact ⟨_, .mk ⟨fits.1, digits⟩ fits.2, by simpa using split⟩
    · cases h
  · rintro ⟨_, ⟨⟨nonempty, digits⟩, word⟩, rfl⟩
    rename_i ds
    have stop : ∀ c ∈ (' ' :: rest).head?, Decimal.isDigit c = false := by
      intro c hc
      cases hc
      rfl
    have fits : (ds.isEmpty || decide (Decimal.ofDigits ds ≥ UInt32.size)) = false := by
      simp [nonempty]
      omega
    simp only [List.append_assoc, List.cons_append, List.nil_append, version?,
      takeWhile_append_of_stop digits stop, dropWhile_append_of_stop digits stop, fits,
      Bool.false_eq_true, if_false]

/-- What a reader takes from the front of a text, if anything, and what follows. -/
def front {α : Type} (read : List Char → Option (α × List Char)) (cs : List Char) :
    Option α × List Char :=
  match read cs with
  | some (a, rest) => (some a, rest)
  | none => (none, cs)

/-- A reader of a part takes it from the front of a text whenever it is there. -/
theorem front_eq_iff {α : Type} {read : List Char → Option (α × List Char)}
    {part : List Char → α → Prop}
    (reads : ∀ {cs rest a}, read cs = some (a, rest) ↔ ∃ w, part w a ∧ cs = w ++ rest)
    {cs rest : List Char} {found : Option α} :
    front read cs = (found, rest) ↔ Front part cs found rest := by
  unfold front
  constructor
  · intro h
    split at h
    · rename_i a after taken
      cases h
      obtain ⟨w, isPart, rfl⟩ := reads.1 taken
      exact .present isPart
    · rename_i nothing
      cases h
      refine .absent fun w a isPart => ?_
      rintro ⟨after, rfl⟩
      rw [reads.2 ⟨w, isPart, rfl⟩] at nothing
      cases nothing
  · rintro (isPart | without)
    · rename_i w a
      rw [reads.2 ⟨w, isPart, rfl⟩]
    · split
      · rename_i a after taken
        obtain ⟨w, isPart, rfl⟩ := reads.1 taken
        exact absurd (List.prefix_append _ _) (without w a isPart)
      · rfl

/-- What follows a field: a space and the rest, or nothing. -/
def Behind (after rest : List Char) : Prop := after = ' ' :: rest ∨ after = [] ∧ rest = []

/-- Something follows a field only behind a space. -/
theorem Behind.eq_cons {after rest : List Char} (h : Behind after rest) (more : rest ≠ []) :
    after = ' ' :: rest := by
  rcases h with rfl | ⟨-, rfl⟩
  · rfl
  · exact absurd rfl more

theorem token?_eq_some_iff {cs w rest : List Char} :
    token? cs = some (w, rest) ↔
      (w ≠ [] ∧ ' ' ∉ w) ∧ ∃ after, cs = w ++ after ∧ Behind after rest := by
  constructor
  · intro h
    unfold token? at h
    simp only at h
    split at h
    · cases h
    · rename_i nonempty
      cases h
      obtain ⟨split, token, stop⟩ := span_eq_iff.1 ⟨rfl, rfl⟩
      refine ⟨⟨by simpa using nonempty, fun space => ?_⟩, _, split, ?_⟩
      · exact absurd (token ' ' space) (by decide)
      · cases hd : cs.dropWhile (· != ' ') with
        | nil => exact .inr ⟨rfl, rfl⟩
        | cons c after =>
          rw [hd] at stop
          have space : c = ' ' := by simpa using stop c rfl
          subst space
          exact .inl rfl
  · rintro ⟨⟨nonempty, token⟩, after, rfl, behind⟩
    have all : ∀ c ∈ w, (c != ' ') = true := by
      intro c hc
      rw [bne_iff_ne]
      rintro rfl
      exact token hc
    have stop : ∀ c ∈ after.head?, (c != ' ') = false := by
      rcases behind with rfl | ⟨rfl, rfl⟩ <;> simp
    have next : skipSpace after = rest := by
      rcases behind with rfl | ⟨rfl, rfl⟩ <;> rfl
    have some : w.isEmpty = false := by simpa using nonempty
    simp only [token?, takeWhile_append_of_stop all stop, dropWhile_append_of_stop all stop, some,
      Bool.false_eq_true, if_false, next]

/-- A time field is a token. -/
theorem TimeField.token {w : List Char} {t : Option Time.OffsetTime} (h : TimeField w t) :
    w ≠ [] ∧ ' ' ∉ w := by
  cases h with
  | nil => decide
  | time reads =>
    obtain ⟨c, rest, rfl, -⟩ := Time.head_of_read? reads
    exact ⟨List.cons_ne_nil _ _, Time.not_space_of_read? reads⟩

theorem time?_eq_some_iff {cs rest : List Char} {t : Option Time.OffsetTime} :
    time? cs = some (t, rest) ↔ ∃ w after, TimeField w t ∧ cs = w ++ after ∧ Behind after rest := by
  simp only [time?, Option.bind_eq_bind, Option.bind_eq_some_iff, Prod.exists]
  constructor
  · rintro ⟨w, rest', read, h⟩
    obtain ⟨-, after, split, behind⟩ := token?_eq_some_iff.1 read
    split at h
    · rename_i hyphen
      cases h
      rw [beq_iff_eq] at hyphen
      exact ⟨w, after, hyphen ▸ .nil, split, behind⟩
    · obtain ⟨t', reads, h⟩ := Option.bind_eq_some_iff.1 h
      cases h
      exact ⟨w, after, .time reads, split, behind⟩
  · rintro ⟨w, after, field, split, behind⟩
    refine ⟨w, rest, token?_eq_some_iff.2 ⟨field.token, after, split, behind⟩, ?_⟩
    cases field with
    | nil => simp
    | time reads =>
      have other : (w == ['-']) = false := by
        rw [beq_eq_false_iff_ne]
        rintro rfl
        cases reads
      simp only [other, Bool.false_eq_true, if_false, reads, Option.bind_some]

theorem Field.token {w : List Char} {s : Option String} (h : Field w s) : w ≠ [] ∧ ' ' ∉ w := by
  cases h with
  | nil => decide
  | text nonempty token _ => exact ⟨nonempty, token⟩

theorem Field.append_ne_nil {w : List Char} {s : Option String} (h : Field w s) (rest : List Char) :
    w ++ rest ≠ [] :=
  List.append_ne_nil_of_left_ne_nil h.token.1 rest

theorem field_eq_iff {w : List Char} {s : Option String} (token : w ≠ [] ∧ ' ' ∉ w) :
    field w = s ↔ Field w s := by
  unfold field
  constructor
  · rintro rfl
    split
    · rename_i hyphen
      rw [beq_iff_eq] at hyphen
      exact hyphen ▸ .nil
    · rename_i other
      exact .text token.1 token.2 (by simpa using other)
  · intro h
    cases h with
    | nil => rfl
    | text _ _ other => simp [other]

theorem field?_eq_some_iff {cs rest : List Char} {s : Option String} :
    field? cs = some (s, rest) ↔ ∃ w after, Field w s ∧ cs = w ++ after ∧ Behind after rest := by
  simp only [field?, Option.map_eq_some_iff, Prod.exists, Prod.mk.injEq]
  constructor
  · rintro ⟨w, rest', read, content, rfl⟩
    obtain ⟨token, after, split, behind⟩ := token?_eq_some_iff.1 read
    exact ⟨w, after, (field_eq_iff token).1 content, split, behind⟩
  · rintro ⟨w, after, field, split, behind⟩
    exact ⟨w, rest, token?_eq_some_iff.2 ⟨field.token, after, split, behind⟩,
      (field_eq_iff field.token).2 field, rfl⟩

theorem Pri.head? {w : List Char} {p : Priority} (h : Pri w p) : w.head? = some '<' := by
  cases h
  rfl

/-- A priority is written in ASCII. -/
theorem Pri.le_tilde {w : List Char} {p : Priority} (h : Pri w p) : ∀ c ∈ w, c ≤ '~' := by
  obtain ⟨⟨-, digits⟩, -⟩ := h
  intro c hc
  rw [List.mem_cons, List.mem_append, List.mem_singleton] at hc
  rcases hc with rfl | digit | rfl
  · decide
  · have digit := digits c digit
    simp only [Decimal.isDigit, Bool.and_eq_true, decide_eq_true_eq] at digit
    exact Char.le_trans digit.2 (by decide)
  · decide

/-- A version starts with a digit. -/
theorem Version.head?_ne {c : Char} (digit : Decimal.isDigit c = false) {w rest : List Char}
    {n : Nat} (h : Version w n) : (w ++ rest).head? ≠ some c := by
  obtain ⟨⟨nonempty, digits⟩, -⟩ := h
  rename_i ds
  obtain ⟨d, ds, rfl⟩ := List.exists_cons_of_ne_nil nonempty
  intro first
  cases first
  exact absurd (digits c List.mem_cons_self) (Bool.eq_false_iff.1 digit)

/-- A time field starts with a digit or a hyphen. -/
theorem TimeField.head?_ne {c : Char} (digit : Decimal.isDigit c = false) (hyphen : c ≠ '-')
    {w : List Char} {t : Option Time.OffsetTime} (h : TimeField w t) (rest : List Char) :
    (w ++ rest).head? ≠ some c := by
  intro first
  cases h with
  | nil =>
    cases first
    exact hyphen rfl
  | time reads =>
    obtain ⟨d, w, rfl, isDigit⟩ := Time.head_of_read? reads
    cases first
    exact absurd isDigit (Bool.eq_false_iff.1 digit)

theorem Front.head?_ne {α : Type} {part : List Char → α → Prop} {text rest : List Char}
    {found : Option α} {c : Char} (h : Front part text found rest)
    (starts : ∀ w a, part w a → (w ++ rest).head? ≠ some c) (other : rest.head? ≠ some c) :
    text.head? ≠ some c := by
  cases h with
  | present isPart => exact starts _ _ isPart
  | absent => exact other

/-- Spaces are skipped up to the first other character. -/
theorem skipSpaces_replicate (spaces : Nat) {rest : List Char} (stop : rest.head? ≠ some ' ') :
    skipSpaces (List.replicate spaces ' ' ++ rest) = rest := by
  refine dropWhile_append_of_stop (fun c hc => ?_) fun c hc => ?_
  · simp [List.eq_of_mem_replicate hc]
  · rw [beq_eq_false_iff_ne]
    rintro rfl
    exact stop hc

/-- What is skipped are spaces. -/
theorem exists_skipSpaces (cs : List Char) :
    ∃ spaces, cs = List.replicate spaces ' ' ++ skipSpaces cs ∧
      (skipSpaces cs).head? ≠ some ' ' := by
  obtain ⟨split, all, stop⟩ := span_eq_iff.1 ⟨rfl, (rfl : cs.dropWhile (· == ' ') = skipSpaces cs)⟩
  refine ⟨(cs.takeWhile (· == ' ')).length, ?_, fun space => ?_⟩
  · rw [← List.eq_replicate_of_mem fun c hc => by simpa using all c hc]
    exact split
  · exact absurd (stop ' ' space) (by decide)

/-! ## 4. Readers of structured data -/

theorem isEscaped_iff {c : Char} : isEscaped c = true ↔ c = '"' ∨ c = '\\' ∨ c = ']' := by
  simp only [isEscaped, Bool.or_eq_true, beq_iff_eq, or_assoc]

theorem value?_eq_some_iff {cs v rest : List Char} :
    value? cs = some (v, rest) ↔ ∃ w, Value w v ∧ cs = w ++ '"' :: rest := by
  constructor
  · intro h
    fun_induction value? cs generalizing v rest with
    | case1 => cases h
    | case2 after =>
      cases h
      exact ⟨[], .nil, rfl⟩
    | case3 c after escaped ih =>
      obtain ⟨⟨v', rest'⟩, read, e⟩ := Option.map_eq_some_iff.1 h
      cases e
      obtain ⟨w, value, rfl⟩ := ih read
      exact ⟨'\\' :: c :: w, .escape (isEscaped_iff.1 escaped) value, rfl⟩
    | case4 c after escaped ih =>
      obtain ⟨⟨v', rest'⟩, read, e⟩ := Option.map_eq_some_iff.1 h
      cases e
      obtain ⟨w, value, split⟩ := ih read
      rw [isEscaped_iff] at escaped
      -- the character after the backslash is no quote, so it belongs to the value
      cases w with
      | nil =>
        cases split
        exact absurd (.inl rfl) escaped
      | cons d w =>
        cases split
        exact ⟨'\\' :: c :: w, .literal escaped value, rfl⟩
    | case5 c after quote backslash ih =>
      obtain ⟨⟨v', rest'⟩, read, e⟩ := Option.map_eq_some_iff.1 h
      cases e
      obtain ⟨w, value, rfl⟩ := ih read
      by_cases lone : c = '\\'
      · subst lone
        cases w with
        | nil => exact absurd rfl (backslash '"' rest rfl)
        | cons d w => exact absurd rfl (backslash d (w ++ '"' :: rest) rfl)
      · exact ⟨c :: w, .plain (fun same => quote same) lone value, rfl⟩
  · rintro ⟨w, value, rfl⟩
    induction value with
    | nil => rfl
    | plain quote backslash more ih =>
      rename_i c w v
      rw [List.cons_append, value?.eq_def]
      split <;> simp_all
    | escape escaped more ih =>
      simp only [List.cons_append, value?, isEscaped_iff.2 escaped, if_true, ih, Option.map_some]
    | literal escaped more ih =>
      rename_i c w v
      rw [List.cons_append] at ih
      simp only [List.cons_append, value?, mt isEscaped_iff.1 escaped, Bool.false_eq_true, if_false,
        ih, Option.map_some]

theorem isNameChar_iff {c : Char} :
    isNameChar c = true ↔ '!' ≤ c ∧ c ≤ '~' ∧ c ≠ '=' ∧ c ≠ ']' ∧ c ≠ '"' := by
  simp only [isNameChar, Bool.and_eq_true, decide_eq_true_eq, bne_iff_ne, and_assoc]

theorem name?_eq_some_iff {cs rest : List Char} {n : String} :
    name? cs = some (n, rest) ↔
      ∃ w, (IsName w ∧ n = String.ofList w) ∧ cs = w ++ rest ∧
        ∀ c ∈ rest.head?, isNameChar c = false := by
  simp only [IsName, ← isNameChar_iff]
  constructor
  · intro h
    unfold name? at h
    simp only at h
    split at h
    · cases h
    · rename_i nonempty
      cases h
      obtain ⟨split, all, stop⟩ := span_eq_iff.1 ⟨rfl, rfl⟩
      exact ⟨_, ⟨⟨by simpa using nonempty, all⟩, rfl⟩, split, stop⟩
  · rintro ⟨w, ⟨⟨nonempty, all⟩, rfl⟩, rfl, stop⟩
    have some : w.isEmpty = false := by simpa using nonempty
    simp only [name?, takeWhile_append_of_stop all stop, dropWhile_append_of_stop all stop, some,
      Bool.false_eq_true, if_false]

theorem param?_eq_some_iff {cs rest : List Char} {p : String × String} :
    Reader.param? cs = some (p, rest) ↔
      ∃ name w v, IsName name ∧ Value w v ∧ p = (String.ofList name, String.ofList v) ∧
        cs = name ++ '=' :: '"' :: (w ++ '"' :: rest) := by
  simp only [Reader.param?, Option.bind_eq_bind, Option.bind_eq_some_iff, Prod.exists]
  constructor
  · rintro ⟨n, rest₁, read, h⟩
    obtain ⟨name, ⟨isName, rfl⟩, rfl, -⟩ := name?_eq_some_iff.1 read
    split at h
    · rename_i rest₂
      obtain ⟨⟨v, rest₃⟩, read, h⟩ := Option.bind_eq_some_iff.1 h
      cases h
      obtain ⟨w, value, rfl⟩ := value?_eq_some_iff.1 read
      exact ⟨name, w, v, isName, value, rfl, rfl⟩
    · cases h
  · rintro ⟨name, w, v, isName, value, rfl, rfl⟩
    refine ⟨_, _, name?_eq_some_iff.2 ⟨name, ⟨isName, rfl⟩, rfl, ?_⟩, ?_⟩
    · intro c hc
      cases hc
      rfl
    · have read : value? (w ++ '"' :: rest) = some (v, rest) := value?_eq_some_iff.2 ⟨w, value, rfl⟩
      simp only [read, Option.bind_some]

theorem params?_of_close {after tail : List Char} (close : skipSpaces after = ']' :: tail) :
    params? (' ' :: after) = some ([], tail) := by
  rw [params?.eq_def]
  simp [close]

theorem params?_of_param {after rest : List Char} {p : String × String}
    (other : (skipSpaces after).head? ≠ some ']')
    (read : Reader.param? (skipSpaces after) = some (p, rest)) :
    params? (' ' :: after) = (params? rest).map fun (ps, r) => (p :: ps, r) := by
  rw [params?.eq_def]
  simp only [beq_iff_eq, other, if_false]
  split
  · rename_i p' rest' read'
    rw [read] at read'
    cases read'
    rfl
  · rename_i none
    rw [read] at none
    cases none

theorem params?_eq_some_iff {cs rest : List Char} {ps : List (String × String)} :
    params? cs = some (ps, rest) ↔ ∃ w, Params w ps ∧ cs = w ++ rest := by
  constructor
  · intro h
    fun_induction params? cs generalizing ps rest with
    | case1 after =>
      cases h
      exact ⟨[']'], .close 0, rfl⟩
    | case2 after next =>
      rename_i close
      cases h
      obtain ⟨spaces, split, -⟩ := exists_skipSpaces after
      obtain ⟨tail, closed⟩ : ∃ tail, skipSpaces after = ']' :: tail := by
        cases hs : skipSpaces after with
        | nil => simp [next, hs] at close
        | cons c tail =>
          have : c = ']' := by simpa [next, hs] using close
          exact ⟨tail, by rw [this]⟩
      refine ⟨_, .close (spaces + 1), ?_⟩
      simp only [next, closed, List.tail_cons]
      rw [closed] at split
      simp [List.replicate_succ, split]
    | case3 after next _ p rest' read =>
      rename_i ih
      obtain ⟨⟨ps', r⟩, more, e⟩ := Option.map_eq_some_iff.1 h
      cases e
      obtain ⟨spaces, split, -⟩ := exists_skipSpaces after
      obtain ⟨name, w, v, isName, value, rfl, start⟩ := param?_eq_some_iff.1 read
      obtain ⟨rest, params, rfl⟩ := ih more
      refine ⟨_, .param spaces isName value params, ?_⟩
      rw [show skipSpaces after = _ from start] at split
      rw [split]
      simp [List.replicate_succ]
    | case4 => cases h
    | case5 => cases h
  · rintro ⟨w, params, rfl⟩
    induction params with
    | close spaces =>
      cases spaces with
      | zero =>
        rw [params?.eq_def]
        rfl
      | succ spaces =>
        rw [List.replicate_succ, List.append_assoc, List.cons_append]
        exact params?_of_close (skipSpaces_replicate spaces (by simp))
    | param spaces isName value tail ih =>
      rename_i name w v more ps
      obtain ⟨c, name', rfl⟩ := List.exists_cons_of_ne_nil isName.1
      have first := isName.2 c (by simp)
      have skip : skipSpaces (List.replicate spaces ' ' ++
          ((c :: name') ++ '=' :: '"' :: (w ++ '"' :: (more ++ rest)))) =
          (c :: name') ++ '=' :: '"' :: (w ++ '"' :: (more ++ rest)) := by
        refine skipSpaces_replicate spaces fun space => ?_
        cases space
        exact absurd first.1 (by decide)
      have read : Reader.param? ((c :: name') ++ '=' :: '"' :: (w ++ '"' :: (more ++ rest))) =
          some ((String.ofList (c :: name'), String.ofList v), more ++ rest) :=
        param?_eq_some_iff.2 ⟨c :: name', w, v, isName, value, rfl, rfl⟩
      rw [← skip] at read
      have other : (skipSpaces (List.replicate spaces ' ' ++
          ((c :: name') ++ '=' :: '"' :: (w ++ '"' :: (more ++ rest))))).head? ≠ some ']' := by
        rw [skip]
        simpa using first.2.2.2.1
      have step := params?_of_param other read
      rw [ih, Option.map_some] at step
      rw [← step]
      simp [List.replicate_succ]

/-- After the name of an element come a space or its bracket. -/
theorem Params.stop {w rest : List Char} {ps : List (String × String)} (h : Params w ps) :
    ∀ c ∈ (w ++ rest).head?, isNameChar c = false := by
  intro c hc
  cases h with
  | close spaces =>
    cases spaces with
    | zero =>
      cases hc
      rfl
    | succ spaces =>
      cases hc
      rfl
  | param spaces isName value more =>
    cases hc
    rfl

theorem element?_eq_some_iff {cs rest : List Char} {e : String × List (String × String)} :
    element? cs = some (e, rest) ↔ ∃ w, Element ('[' :: w) e ∧ cs = w ++ rest := by
  simp only [element?, Option.bind_eq_bind, Option.bind_eq_some_iff, Prod.exists]
  constructor
  · rintro ⟨n, rest₁, read, ps, rest₂, params, h⟩
    cases h
    obtain ⟨name, ⟨isName, rfl⟩, rfl, -⟩ := name?_eq_some_iff.1 read
    obtain ⟨more, written, rfl⟩ := params?_eq_some_iff.1 params
    exact ⟨name ++ more, .mk isName written, by rw [List.append_assoc]⟩
  · rintro ⟨w, element, rfl⟩
    cases element with
    | mk isName params =>
      rename_i name more ps
      refine ⟨_, more ++ rest, name?_eq_some_iff.2 ⟨name, ⟨isName, rfl⟩, ?_, params.stop⟩, ps, rest,
        params?_eq_some_iff.2 ⟨more, params, rfl⟩, rfl⟩
      rw [List.append_assoc]

theorem elements?_of_bracket {after rest : List Char} {e : String × List (String × String)}
    (read : element? after = some (e, rest)) :
    elements? ('[' :: after) = (elements? rest).map fun (es, r) => (e :: es, r) := by
  rw [elements?.eq_def]
  split
  · rename_i after' same
    cases same
    split
    · rename_i e' rest' read'
      rw [read] at read'
      cases read'
      rfl
    · rename_i none
      rw [read] at none
      cases none
  · rename_i other
    exact absurd rfl (other after)

theorem elements?_of_other {cs : List Char} (other : cs.head? ≠ some '[') :
    elements? cs = some ([], cs) := by
  rw [elements?.eq_def]
  split
  · exact absurd rfl other
  · rfl

theorem elements?_eq_some_iff {cs rest : List Char}
    {es : List (String × List (String × String))} :
    elements? cs = some (es, rest) ↔
      ∃ w, Elements w es ∧ cs = w ++ rest ∧ rest.head? ≠ some '[' := by
  constructor
  · intro h
    fun_induction elements? cs generalizing es rest with
    | case1 after e rest' read ih =>
      obtain ⟨⟨es', r⟩, more, eq⟩ := Option.map_eq_some_iff.1 h
      cases eq
      obtain ⟨w, element, rfl⟩ := element?_eq_some_iff.1 read
      obtain ⟨w', elements, rfl, stop⟩ := ih more
      exact ⟨_, .cons element elements, by simp, stop⟩
    | case2 => cases h
    | case3 cs other =>
      cases h
      refine ⟨[], .nil, rfl, ?_⟩
      cases cs with
      | nil => simp
      | cons c cs =>
        intro bracket
        cases bracket
        exact other cs rfl
  · rintro ⟨w, elements, rfl, stop⟩
    induction elements with
    | nil => exact elements?_of_other stop
    | cons element more ih =>
      rename_i w w' e es
      cases element with
      | mk isName params =>
        rename_i name after ps
        have read : element? ((name ++ after) ++ (w' ++ rest)) =
            some ((String.ofList name, ps), w' ++ rest) :=
          element?_eq_some_iff.2 ⟨name ++ after, .mk isName params, rfl⟩
        have step := elements?_of_bracket read
        rw [ih, Option.map_some] at step
        rw [← step]
        simp

theorem skipSpace_of_other {cs : List Char} (other : cs.head? ≠ some ' ') : skipSpace cs = cs := by
  unfold skipSpace
  split
  · exact absurd rfl other
  · rfl

/-- Structured data as it is written, before a dictionary is made of it. -/
def dataElements? : List Char → Option (List (String × List (String × String)) × List Char)
  | ['-'] => some ([], [])
  | '-' :: ' ' :: rest => some ([], rest)
  | cs => (elements? cs).map fun (es, rest) => (es, skipSpace rest)

theorem dataElements?_of_other {cs : List Char} (nil : cs ≠ ['-']) (nilText : ¬ ['-', ' '] <+: cs) :
    dataElements? cs = (elements? cs).map fun (es, rest) => (es, skipSpace rest) := by
  unfold dataElements?
  split
  · exact absurd rfl nil
  · rename_i rest
    exact absurd ⟨rest, rfl⟩ nilText
  · rfl

theorem structuredData?_eq_map (cs : List Char) :
    structuredData? cs = (dataElements? cs).map fun (es, rest) => (dataOf es, rest) := by
  unfold structuredData?
  split
  · rfl
  · rfl
  · rename_i nil nilText
    rw [dataElements?_of_other nil (by rintro ⟨rest, rfl⟩; exact nilText rest rfl), Option.map_map]
    rfl

/-- Elements are no hyphen, as long as what follows them is none. -/
theorem Elements.not_nil {w message : List Char} {es : List (String × List (String × String))}
    (h : Elements w es) (other : message.head? ≠ some '-') :
    w ++ message ≠ ['-'] ∧ ¬ ['-', ' '] <+: w ++ message := by
  have first : (w ++ message).head? ≠ some '-' := by
    cases h with
    | nil => exact other
    | cons element more =>
      cases element
      simp
  constructor
  · intro same
    simp [same] at first
  · rintro ⟨rest, same⟩
    simp [← same] at first

theorem dataElements?_eq_some_iff {cs rest : List Char}
    {es : List (String × List (String × String))} :
    dataElements? cs = some (es, rest) ↔ Data cs es rest := by
  constructor
  · intro h
    by_cases nil : cs = ['-']
    · subst nil
      cases h
      exact .nil
    by_cases nilText : ['-', ' '] <+: cs
    · obtain ⟨message, rfl⟩ := nilText
      cases h
      exact .nilText message
    rw [dataElements?_of_other nil nilText] at h
    obtain ⟨⟨es, after⟩, read, eq⟩ := Option.map_eq_some_iff.1 h
    cases eq
    obtain ⟨w, elements, rfl, stop⟩ := elements?_eq_some_iff.1 read
    by_cases space : after.head? = some ' '
    · obtain ⟨message, rfl⟩ := List.head?_eq_some_iff.1 space
      exact .spaced elements
    · rw [skipSpace_of_other space]
      exact .direct elements space stop nil nilText
  · intro data
    cases data with
    | nil => rfl
    | nilText => rfl
    | spaced elements =>
      rename_i w
      obtain ⟨nil, nilText⟩ := elements.not_nil (show (' ' :: rest).head? ≠ some '-' by simp)
      rw [dataElements?_of_other nil nilText, elements?_eq_some_iff.2 ⟨w, elements, rfl, by simp⟩]
      rfl
    | direct elements space bracket nil nilText =>
      rename_i w
      rw [dataElements?_of_other nil nilText,
        elements?_eq_some_iff.2 ⟨w, elements, rfl, bracket⟩]
      simp only [Option.map_some, skipSpace_of_other space]

theorem data_nil_iff {es : List (String × List (String × String))} {message : List Char} :
    Data [] es message ↔ es = [] ∧ message = [] := by
  have read : dataElements? [] = some ([], []) := by
    have none : elements? [] = some ([], []) := elements?_of_other (by simp)
    simp only [dataElements?, none, Option.map_some, skipSpace]
  rw [← dataElements?_eq_some_iff, read]
  simp [eq_comm]

end Syslog.Event.Grammar

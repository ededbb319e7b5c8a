import Syslog.Charset
import Syslog.Event
import Syslog.Time.Rfc3339

/-!
# Reading an event

An event is read in one pass over its characters:

    ["<" PRI ">"] [VERSION " "] *" " TIME " " HOST " " APP " " PROC " " MSGID [" " DATA [" "] TEXT]

Each reader takes what it knows from the start of the characters and returns what follows. A text
that is not of this form is an event of its own, whole and without structure, so reading never
fails. A hyphen stands for a missing field; of elements or parameters with one name the last
counts; a byte order mark in front of the text is dropped.
-/

namespace Syslog.Event.Reader

open Text

/-! ## 1. The header -/

/-- A priority in angle brackets: one to three digits, at most 191. -/
def priority? : List Char → Option (Priority × List Char)
  | '<' :: cs =>
    let ds := cs.takeWhile Decimal.isDigit
    match cs.dropWhile Decimal.isDigit with
    | '>' :: rest =>
      if ds.isEmpty || ds.length > 3 then none
      else (Priority.ofCode? (Decimal.ofDigits ds)).map (·, rest)
    | _ => none
  | _ => none

/-- A version: digits directly before a space, with a value of at most 32 bits. -/
def version? (cs : List Char) : Option (Nat × List Char) :=
  let ds := cs.takeWhile Decimal.isDigit
  match cs.dropWhile Decimal.isDigit with
  | ' ' :: rest =>
    let n := Decimal.ofDigits ds
    if ds.isEmpty || n ≥ UInt32.size then none else some (n, rest)
  | _ => none

/-- What follows the spaces. -/
def skipSpaces (cs : List Char) : List Char := cs.dropWhile (· == ' ')

/-- What follows one space, if there is one. -/
def skipSpace : List Char → List Char
  | ' ' :: rest => rest
  | cs => cs

/-- A field up to the next space, which is taken with it. -/
def token? (cs : List Char) : Option (List Char × List Char) :=
  let token := cs.takeWhile (· != ' ')
  if token.isEmpty then none else some (token, skipSpace (cs.dropWhile (· != ' ')))

/-- The content of a field: nothing for a hyphen. -/
def field (token : List Char) : Option String :=
  if token == ['-'] then none else some (String.ofList token)

/-- A field, read. -/
def field? (cs : List Char) : Option (Option String × List Char) :=
  (token? cs).map fun (token, rest) => (field token, rest)

/-- A time field: a hyphen or a time. -/
def time? (cs : List Char) : Option (Option Time.OffsetTime × List Char) := do
  let (token, rest) ← token? cs
  if token == ['-'] then some (none, rest)
  else
    let t ← Time.read? token
    some (some t, rest)

/-! ## 2. Structured data -/

/-- The characters of names: visible ASCII but for three. -/
def isNameChar (c : Char) : Bool :=
  '!' ≤ c && c ≤ '~' && c != '=' && c != ']' && c != '"'

/-- A name. -/
def name? (cs : List Char) : Option (String × List Char) :=
  let name := cs.takeWhile isNameChar
  if name.isEmpty then none else some (String.ofList name, cs.dropWhile isNameChar)

/-- Is the character written behind a backslash? -/
def isEscaped (c : Char) : Bool := c == '"' || c == '\\' || c == ']'

/-- A value after its opening quote, up to the closing one. A backslash that escapes nothing stands
for itself. -/
def value? : List Char → Option (List Char × List Char)
  | [] => none
  | '"' :: rest => some ([], rest)
  | '\\' :: c :: rest =>
    if isEscaped c then (value? rest).map fun (v, r) => (c :: v, r)
    else (value? (c :: rest)).map fun (v, r) => ('\\' :: v, r)
  | c :: rest => (value? rest).map fun (v, r) => (c :: v, r)

/-- One parameter: a name, an equals sign and a value in quotes. -/
def param? (cs : List Char) : Option ((String × String) × List Char) := do
  let (name, rest) ← name? cs
  match rest with
  | '=' :: '"' :: rest =>
    let (value, rest) ← value? rest
    some ((name, String.ofList value), rest)
  | _ => none

theorem length_of_value? {cs v r : List Char} (h : value? cs = some (v, r)) :
    r.length < cs.length := by
  fun_induction value? cs generalizing v r with
  | case1 => simp at h
  | case2 rest => simp_all
  | case3 c rest _ ih =>
    obtain ⟨⟨v', r'⟩, h', e⟩ := Option.map_eq_some_iff.1 h
    cases e
    have := ih h'
    simp only [List.length_cons]
    omega
  | case4 c rest _ ih =>
    obtain ⟨⟨v', r'⟩, h', e⟩ := Option.map_eq_some_iff.1 h
    cases e
    have := ih h'
    simp only [List.length_cons] at this ⊢
    omega
  | case5 c rest _ _ ih =>
    obtain ⟨⟨v', r'⟩, h', e⟩ := Option.map_eq_some_iff.1 h
    cases e
    have := ih h'
    simp only [List.length_cons]
    omega

theorem length_dropWhile_le (p : Char → Bool) (cs : List Char) :
    (cs.dropWhile p).length ≤ cs.length :=
  (List.dropWhile_sublist p).length_le

theorem length_of_name? {cs r : List Char} {n : String} (h : name? cs = some (n, r)) :
    r.length ≤ cs.length := by
  simp only [name?] at h
  split at h
  · simp at h
  · cases h
    exact length_dropWhile_le _ _

theorem length_of_param? {cs r : List Char} {p : String × String} (h : param? cs = some (p, r)) :
    r.length < cs.length := by
  simp only [param?, Option.bind_eq_bind, Option.bind_eq_some_iff] at h
  obtain ⟨⟨n, r₁⟩, hn, h⟩ := h
  have hn := length_of_name? hn
  split at h
  next r₂ =>
    obtain ⟨⟨v, r₃⟩, hv, h⟩ := Option.bind_eq_some_iff.1 h
    have hv := length_of_value? hv
    cases h
    simp_all only [List.length_cons]
    omega
  · simp at h

/-- The parameters of an element, up to its closing bracket. Spaces stand before each parameter and
may stand before the bracket. -/
def params? (cs : List Char) : Option (List (String × String) × List Char) :=
  match cs with
  | ']' :: rest => some ([], rest)
  | ' ' :: rest =>
    let after := skipSpaces rest
    if after.head? == some ']' then some ([], after.tail)
    else
      match _hp : param? after with
      | some (p, rest') => (params? rest').map fun (ps, r) => (p :: ps, r)
      | none => none
  | _ => none
termination_by cs.length
decreasing_by
  have h₁ := length_of_param? _hp
  have h₂ := length_dropWhile_le (· == ' ') rest
  simp only [after, skipSpaces, List.length_cons] at h₁ h₂ ⊢
  omega

theorem length_of_params? {cs r : List Char} {ps : List (String × String)}
    (h : params? cs = some (ps, r)) : r.length < cs.length := by
  induction hn : cs.length using Nat.strongRecOn generalizing cs ps r with
  | ind n ih =>
    subst hn
    rw [params?.eq_def] at h
    split at h
    next rest => cases h; simp
    next rest =>
      have hs := length_dropWhile_le (· == ' ') rest
      simp only at h
      split at h
      · cases h
        simp only [skipSpaces, List.length_cons, List.length_tail]
        omega
      · split at h
        next p rest' hp =>
          obtain ⟨⟨qs, r'⟩, h', e⟩ := Option.map_eq_some_iff.1 h
          cases e
          have h₂ := length_of_param? hp
          simp only [skipSpaces] at h₂
          have h₁ := ih rest'.length (by simp only [List.length_cons]; omega) h' rfl
          simp only [List.length_cons]
          omega
        · simp at h
    · simp at h

/-- An element after its opening bracket. -/
def element? (cs : List Char) : Option ((String × List (String × String)) × List Char) := do
  let (id, rest) ← name? cs
  let (params, rest) ← params? rest
  some ((id, params), rest)

theorem length_of_element? {cs r : List Char} {e : String × List (String × String)}
    (h : element? cs = some (e, r)) : r.length < cs.length := by
  simp only [element?, Option.bind_eq_bind, Option.bind_eq_some_iff] at h
  obtain ⟨⟨n, r₁⟩, hn, ⟨ps, r₂⟩, hp, h⟩ := h
  cases h
  have h₁ := length_of_name? hn
  exact Nat.lt_of_lt_of_le (length_of_params? hp) h₁

/-- Elements, as long as an opening bracket follows. -/
def elements? (cs : List Char) : Option (List (String × List (String × String)) × List Char) :=
  match cs with
  | '[' :: rest =>
    match _he : element? rest with
    | some (e, rest') => (elements? rest').map fun (es, r) => (e :: es, r)
    | none => none
  | cs => some ([], cs)
termination_by cs.length
decreasing_by
  have := length_of_element? _he
  simp only [List.length_cons]
  omega

/-- The dictionary of elements and their parameters. -/
def dataOf (elements : List (String × List (String × String))) : StructuredData :=
  Dict.ofList (elements.map fun (id, params) => (id, Dict.ofList params))

/-- Structured data and the space after it: a hyphen that ends the field, or elements. -/
def structuredData? : List Char → Option (StructuredData × List Char)
  | ['-'] => some (.empty, [])
  | '-' :: ' ' :: rest => some (.empty, rest)
  | cs => (elements? cs).map fun (es, rest) => (dataOf es, skipSpace rest)

/-! ## 3. The event -/

/-- The text without a byte order mark in front. -/
def dropMark : List Char → List Char
  | '\ufeff' :: rest => rest
  | cs => cs

/-- The structured event that the characters after the priority write. -/
def structured? (cs : List Char) : Option Event := do
  let (version, cs) := match version? cs with
    | some (v, rest) => (some v, rest)
    | none => (none, cs)
  let (timestamp, cs) ← time? (skipSpaces cs)
  let (host, cs) ← field? cs
  let (appName, cs) ← field? cs
  let (procId, cs) ← field? cs
  let (msgId, cs) ← field? cs
  let (structuredData, cs) ← structuredData? cs
  some
    { version, timestamp, host, appName, procId, msgId, structuredData,
      message := String.ofList (dropMark cs), structured := true }

end Reader

/-- The event that a text writes. -/
def ofText (text : String) : Event :=
  let cs := text.toList
  let (priority, rest) := match Reader.priority? cs with
    | some (p, rest) => (some p, rest)
    | none => (none, cs)
  ((Reader.structured? rest).getD (raw text)).withPriority priority

/-- The event that bytes write in a charset. -/
def ofBytes (charset : Charset) (bytes : Bytes) : Event := ofText (charset.decode bytes)

end Syslog.Event

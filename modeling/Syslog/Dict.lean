/-!
# Dictionaries

A dictionary binds texts to values. Its entries stand in rising order of their keys, each key once,
so two dictionaries with the same bindings are equal.

* `insert` binds a key, in place of an earlier binding;
* `get?` is the value of a key, `erase` the dictionary without it;
* `ofList` inserts from left to right, so the last of several bindings stands.
-/

namespace Syslog

/-- Bindings in rising order of keys. -/
structure Dict (α : Type) where
  entries : List (String × α)
  sorted : entries.Pairwise fun a b => a.1 < b.1

namespace Dict

variable {α β : Type}

/-- No bindings. -/
def empty : Dict α := ⟨[], .nil⟩

instance : Inhabited (Dict α) := ⟨empty⟩

instance [DecidableEq α] : DecidableEq (Dict α) := fun a b =>
  if h : a.entries = b.entries then
    isTrue (by cases a; cases b; simp_all)
  else isFalse (by intro e; exact h (by rw [e]))

/-! ## 1. Binding a key -/

/-- Puts an entry in its place. -/
def insertEntry (key : String) (value : α) : List (String × α) → List (String × α)
  | [] => [(key, value)]
  | e :: rest =>
    if key < e.1 then (key, value) :: e :: rest
    else if e.1 < key then e :: insertEntry key value rest
    else (key, value) :: rest

theorem eq_or_mem_of_mem_insertEntry {key : String} {value : α} {entries : List (String × α)}
    {e : String × α} (h : e ∈ insertEntry key value entries) : e = (key, value) ∨ e ∈ entries := by
  induction entries with
  | nil => simpa [insertEntry] using h
  | cons d rest ih =>
    simp only [insertEntry] at h
    split at h
    · simpa using h
    · split at h
      · rcases List.mem_cons.1 h with h | h
        · exact .inr (by simp [h])
        · rcases ih h with h | h
          · exact .inl h
          · exact .inr (by simp [h])
      · rcases List.mem_cons.1 h with h | h
        · exact .inl h
        · exact .inr (by simp [h])

theorem pairwise_insertEntry (key : String) (value : α) {entries : List (String × α)}
    (h : entries.Pairwise fun a b => a.1 < b.1) :
    (insertEntry key value entries).Pairwise fun a b => a.1 < b.1 := by
  induction entries with
  | nil => simp [insertEntry]
  | cons d rest ih =>
    have ⟨hd, hr⟩ := List.pairwise_cons.1 h
    simp only [insertEntry]
    split
    next lt =>
      refine List.pairwise_cons.2 ⟨fun e he => ?_, h⟩
      rcases List.mem_cons.1 he with rfl | he
      · exact lt
      · exact String.lt_trans lt (hd e he)
    next nlt =>
      split
      next lt =>
        refine List.pairwise_cons.2 ⟨fun e he => ?_, ih hr⟩
        rcases eq_or_mem_of_mem_insertEntry he with rfl | he
        · exact lt
        · exact hd e he
      next nlt' =>
        have eq : key = d.1 :=
          Std.le_antisymm (Std.not_lt.1 nlt') (Std.not_lt.1 nlt)
        exact List.pairwise_cons.2 ⟨fun e he => eq ▸ hd e he, hr⟩

/-- The dictionary with the key bound to the value. -/
def insert (d : Dict α) (key : String) (value : α) : Dict α :=
  ⟨insertEntry key value d.entries, pairwise_insertEntry key value d.sorted⟩

/-- The dictionary of the bindings of a list; of several bindings of a key the last one stands. -/
def ofList (entries : List (String × α)) : Dict α :=
  entries.foldl (fun d e => d.insert e.1 e.2) empty

/-! ## 2. Looking up and leaving out -/

/-- The value of a key. -/
def get? (d : Dict α) (key : String) : Option α := d.entries.lookup key

/-- Is the key bound? -/
def contains (d : Dict α) (key : String) : Bool := (d.get? key).isSome

/-- The dictionary without a key. -/
def erase (d : Dict α) (key : String) : Dict α :=
  ⟨d.entries.filter (·.1 != key), d.sorted.filter _⟩

/-- The keys, in rising order. -/
def keys (d : Dict α) : List String := d.entries.map (·.1)

/-- The values, in the order of their keys. -/
def values (d : Dict α) : List α := d.entries.map (·.2)

/-- The number of bindings. -/
def size (d : Dict α) : Nat := d.entries.length

/-- Is there no binding? -/
def isEmpty (d : Dict α) : Bool := d.entries.isEmpty

/-- The dictionary with every value changed by `f`. -/
def map (f : α → β) (d : Dict α) : Dict β where
  entries := d.entries.map fun e => (e.1, f e.2)
  sorted := by simpa [List.pairwise_map] using d.sorted

end Dict

end Syslog

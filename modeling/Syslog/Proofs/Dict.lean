import Syslog.Dict

/-!
# What a dictionary of a list holds

* `get?_insert`, `get?_erase`: binding a key, or leaving it out, changes the value of that key and
  of no other;
* `get?_ofList`: of several bindings of a key the last one stands;
* `ofList_entries`: a dictionary is that of its own entries;
* `get?_of_mem`: every entry is found;
* `entries_insert`, `entries_foldl_insert`: entries whose keys are bound are replaced in their
  places.
-/

namespace Syslog.Dict

variable {α : Type}

theorem eq_of_entries {a b : Dict α} (h : a.entries = b.entries) : a = b := by
  cases a
  cases b
  cases h
  rfl

/-- The value of the last of the bindings of a key. -/
def lastOf (entries : List (String × α)) (key : String) : Option α := entries.reverse.lookup key

theorem lookup_cons_eq_if (e : String × α) (rest : List (String × α)) (key : String) :
    (e :: rest).lookup key = if key = e.1 then some e.2 else rest.lookup key := by
  by_cases h : key = e.1
  · rw [if_pos h, List.lookup_cons, h, beq_self_eq_true]
  · rw [if_neg h, List.lookup_cons, beq_false_of_ne h]

theorem lookup_map {β : Type} (f : α → β) (entries : List (String × α)) (key : String) :
    (entries.map fun e => (e.1, f e.2)).lookup key = (entries.lookup key).map f := by
  induction entries with
  | nil => rfl
  | cons e rest ih =>
    rw [List.map_cons, lookup_cons_eq_if, lookup_cons_eq_if, ih]
    split <;> rfl

theorem lastOf_map {β : Type} (f : α → β) (entries : List (String × α)) (key : String) :
    lastOf (entries.map fun e => (e.1, f e.2)) key = (lastOf entries key).map f := by
  rw [lastOf, ← List.map_reverse, lookup_map, lastOf]

theorem lookup_insertEntry (key other : String) (value : α) (entries : List (String × α)) :
    (insertEntry key value entries).lookup other =
      if other = key then some value else entries.lookup other := by
  induction entries with
  | nil => exact lookup_cons_eq_if _ _ _
  | cons e rest ih =>
    simp only [insertEntry]
    split
    · exact lookup_cons_eq_if _ _ _
    · rename_i not_below
      split
      · rename_i below
        rw [lookup_cons_eq_if, ih, lookup_cons_eq_if]
        by_cases h : other = e.1
        · have : other ≠ key := by
            intro same
            rw [← same, h] at below
            exact String.lt_irrefl _ below
          rw [if_pos h, if_neg this, if_pos h]
        · rw [if_neg h, if_neg h]
      · rename_i not_above
        have same : key = e.1 := Std.le_antisymm (Std.not_lt.1 not_above) (Std.not_lt.1 not_below)
        rw [lookup_cons_eq_if, lookup_cons_eq_if, ← same]
        split <;> rfl

@[simp] theorem get?_insert (d : Dict α) (key other : String) (value : α) :
    (d.insert key value).get? other = if other = key then some value else d.get? other :=
  lookup_insertEntry key other value d.entries

@[simp] theorem get?_erase (d : Dict α) (key other : String) :
    (d.erase key).get? other = if other = key then none else d.get? other := by
  show (d.entries.filter (·.1 != key)).lookup other = _
  rw [get?]
  induction d.entries with
  | nil => exact (ite_self none).symm
  | cons e rest ih =>
    by_cases gone : e.1 = key
    · rw [List.filter_cons_of_neg (by simp [gone]), ih, lookup_cons_eq_if, gone]
      split <;> rfl
    · rw [List.filter_cons_of_pos (by simp [gone]), lookup_cons_eq_if, lookup_cons_eq_if, ih]
      by_cases here : other = e.1
      · rw [if_pos here, if_neg (here ▸ gone), if_pos here]
      · rw [if_neg here, if_neg here]

theorem get?_foldl_insert (entries : List (String × α)) (d : Dict α) (key : String) :
    (entries.foldl (fun d e => d.insert e.1 e.2) d).get? key =
      (lastOf entries key).or (d.get? key) := by
  induction entries generalizing d with
  | nil => rfl
  | cons e rest ih =>
    simp only [List.foldl_cons, ih, get?_insert, lastOf, List.reverse_cons, List.lookup_append,
      Option.or_assoc, lookup_cons_eq_if, List.lookup_nil]
    by_cases h : key = e.1
    · rw [if_pos h, if_pos h, Option.some_or]
    · rw [if_neg h, if_neg h, Option.none_or]

/-- **Of several bindings of a key the last one stands.** -/
theorem get?_ofList (entries : List (String × α)) (key : String) :
    (ofList entries).get? key = lastOf entries key := by
  rw [ofList, get?_foldl_insert]
  exact Option.or_none

/-- A key above all others is bound at the end. -/
theorem insertEntry_of_above {key : String} {value : α} {entries : List (String × α)}
    (above : ∀ e ∈ entries, e.1 < key) :
    insertEntry key value entries = entries ++ [(key, value)] := by
  induction entries with
  | nil => rfl
  | cons e rest ih =>
    have here : e.1 < key := above e (by simp)
    have not_below : ¬ key < e.1 := fun below => String.lt_irrefl _ (String.lt_trans below here)
    simp only [insertEntry, if_neg not_below, if_pos here,
      ih fun d hd => above d (List.mem_cons_of_mem _ hd), List.cons_append]

/-- **A dictionary is that of its own entries.** -/
theorem ofList_entries (d : Dict α) : ofList d.entries = d := by
  have all : ∀ (post : List (String × α)) (pre : Dict α),
      (pre.entries ++ post).Pairwise (fun a b => a.1 < b.1) →
      (post.foldl (fun d e => d.insert e.1 e.2) pre).entries = pre.entries ++ post := by
    intro post
    induction post with
    | nil =>
      intro pre _
      simp
    | cons e rest ih =>
      intro pre sorted
      have above : ∀ a ∈ pre.entries, a.1 < e.1 := fun a ha =>
        (List.pairwise_append.1 sorted).2.2 a ha e (by simp)
      have bound : (pre.insert e.1 e.2).entries = pre.entries ++ [e] := insertEntry_of_above above
      rw [List.foldl_cons, ih _ (by rw [bound]; simpa using sorted), bound]
      simp
  exact eq_of_entries (all d.entries empty (by simpa [empty] using d.sorted))

/-- The keys before and behind an entry are others. -/
theorem key_ne_of_sorted {before after : List (String × α)} {key : String} {value : α}
    (sorted : (before ++ (key, value) :: after).Pairwise fun a b => a.1 < b.1) :
    ∀ e ∈ before, e.1 < key :=
  fun e member => (List.pairwise_append.1 sorted).2.2 e member (key, value) List.mem_cons_self

/-- **Every entry is found under its key.** -/
theorem get?_of_mem {d : Dict α} {key : String} {value : α} (member : (key, value) ∈ d.entries) :
    d.get? key = some value := by
  obtain ⟨before, after, entries⟩ := List.append_of_mem member
  have others := key_ne_of_sorted (entries ▸ d.sorted)
  have absent : before.lookup key = none := List.lookup_eq_none_iff.2 fun e inside =>
    bne_iff_ne.2 fun same => String.lt_irrefl key (same ▸ others e inside)
  rw [get?, entries, List.lookup_append, absent, List.lookup_cons, beq_self_eq_true]
  rfl

theorem mem_of_get? {d : Dict α} {key : String} {value : α} (bound : d.get? key = some value) :
    (key, value) ∈ d.entries := by
  obtain ⟨before, after, entries, -⟩ := List.lookup_eq_some_iff.1 bound
  rw [entries]
  exact List.mem_append_right before List.mem_cons_self

/-- A key that is bound is bound anew in its place. -/
theorem entries_insert {d : Dict α} {before after : List (String × α)} {key : String} {old : α}
    (entries : d.entries = before ++ (key, old) :: after) (value : α) :
    (d.insert key value).entries = before ++ (key, value) :: after := by
  have others := key_ne_of_sorted (entries ▸ d.sorted)
  show insertEntry key value d.entries = _
  rw [entries]
  clear entries
  induction before with
  | nil => simp [insertEntry]
  | cons e rest ih =>
    have below : e.1 < key := others e List.mem_cons_self
    have not_above : ¬ key < e.1 := fun above => String.lt_irrefl _ (String.lt_trans above below)
    rw [List.cons_append, insertEntry, if_neg not_above, if_pos below,
      ih fun d inside => others d (List.mem_cons_of_mem e inside)]
    rfl

/-- Keys that are bound, in their order, are bound anew in their places. -/
theorem entries_foldl_insert {old new : List (String × α)} {before after : List (String × α)}
    {d : Dict α} (entries : d.entries = before ++ old ++ after)
    (same : new.map (·.1) = old.map (·.1)) :
    (new.foldl (fun d e => d.insert e.1 e.2) d).entries = before ++ new ++ after := by
  induction new generalizing old before d with
  | nil =>
    obtain rfl := List.map_eq_nil_iff.1 same.symm
    exact entries
  | cons e rest ih =>
    cases old with
    | nil => cases same
    | cons o others =>
      obtain ⟨key, tail⟩ := List.cons.inj same
      have here : d.entries = before ++ (e.1, o.2) :: (others ++ after) := by
        rw [entries, show e.1 = o.1 from key]
        simp
      have replaced := entries_insert here e.2
      have split : (d.insert e.1 e.2).entries = before ++ [e] ++ others ++ after := by
        rw [replaced]
        simp
      rw [List.foldl_cons, ih split tail]
      simp

end Syslog.Dict

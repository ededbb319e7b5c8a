import Mathlib.Data.Finmap
import Mathlib.Data.Finset.Sort
import Mathlib.Data.String.Basic
import Syslog.Proofs.Registry

/-!
# A registry is a map that binds a name once

Whatever is done with a registry, its users see a finite map from the forms of names to instances,
in which no binding is ever replaced.

* `Dict.toFinmap`: the finite map of a dictionary; `sort_keys_toFinmap`, `entries_eq_filterMap`: its
  keys and entries in their order;
* `Operation`, `performAll`: what is done with a registry, and a run of it;
* `Bindings`, `Bindings.perform`: the finite map, and what an operation is for it;
* `Proper`, `Proper.performAll`: the keys of a registry are names in the form that counts, and none
  is blank;
* `Proper.perform_bindings`: one operation answers what the map says, and leaves what the map
  becomes;
* `performAll_refines`: so does a run.
-/

namespace Syslog

/-! ## 1. The finite map of a dictionary -/

namespace Dict

variable {α : Type} (d : Dict α)

/-- The bindings without their order. -/
def toFinmap : Finmap fun _ : String => α :=
  (d.entries.map fun e => (⟨e.1, e.2⟩ : Sigma fun _ : String => α)).toFinmap

@[simp] theorem lookup_toFinmap (key : String) : d.toFinmap.lookup key = d.get? key := by
  rw [toFinmap, Finmap.dlookup_list_toFinmap, get?]
  induction d.entries with
  | nil => rfl
  | cons e rest ih =>
    rw [List.map_cons, lookup_cons_eq_if]
    by_cases here : key = e.1
    · subst here
      rw [List.dlookup_cons_eq, if_pos rfl]
    · rw [List.dlookup_cons_ne _ _ here, if_neg here, ih]

theorem mem_toFinmap {key : String} : key ∈ d.toFinmap ↔ d.contains key = true := by
  rw [← Finmap.lookup_isSome, lookup_toFinmap, contains]

theorem toFinmap_insert (key : String) (value : α) :
    (d.insert key value).toFinmap = d.toFinmap.insert key value := by
  refine Finmap.ext_lookup fun other => ?_
  rw [lookup_toFinmap, get?_insert]
  by_cases here : other = key
  · rw [if_pos here, here, Finmap.lookup_insert]
  · rw [if_neg here, Finmap.lookup_insert_of_ne _ here, lookup_toFinmap]

theorem toFinmap_erase (key : String) : (d.erase key).toFinmap = d.toFinmap.erase key := by
  refine Finmap.ext_lookup fun other => ?_
  rw [lookup_toFinmap, get?_erase]
  by_cases here : other = key
  · rw [if_pos here, here, Finmap.lookup_erase]
  · rw [if_neg here, Finmap.lookup_erase_ne here, lookup_toFinmap]

theorem pairwise_keys : d.keys.Pairwise (· < ·) := List.pairwise_map.2 d.sorted

theorem contains_iff_mem_keys {key : String} : d.contains key = true ↔ key ∈ d.keys := by
  rw [contains, Option.isSome_iff_exists, keys, List.mem_map]
  constructor
  · rintro ⟨value, bound⟩
    exact ⟨(key, value), mem_of_get? bound, rfl⟩
  · rintro ⟨⟨key, value⟩, member, rfl⟩
    exact ⟨value, get?_of_mem member⟩

/-- The keys are those of the map, in rising order. -/
theorem sort_keys_toFinmap : d.toFinmap.keys.sort (· ≤ ·) = d.keys := by
  have rising := d.pairwise_keys
  have same : d.toFinmap.keys = d.keys.toFinset := by
    ext key
    rw [Finmap.mem_keys, mem_toFinmap, contains_iff_mem_keys, List.mem_toFinset]
  rw [same]
  exact (List.toFinset_sort (· ≤ ·) (rising.imp ne_of_lt)).2 (rising.imp le_of_lt)

/-- An entry is a key with its value. -/
theorem entries_eq_filterMap :
    d.entries = d.keys.filterMap fun key => (d.get? key).map (key, ·) := by
  have each : ∀ e ∈ d.entries, (d.get? e.1).map (e.1, ·) = some e := fun e member => by
    have found : d.get? e.1 = some e.2 := get?_of_mem member
    rw [found, Option.map_some]
  rw [keys, List.filterMap_map, Function.comp_def, List.filterMap_congr each, List.filterMap_some]

end Dict

namespace Registry

variable {α : Type}

/-! ## 2. What is done with a registry -/

/-- What is done with a registry. -/
inductive Operation (α : Type) where
  | register (name : String) (inst : α)
  | get (name : String)
  | lookup (name : String)
  | contains (name : String)
  | remove (name : String)
  | names
  | size
  | drain

/-- What it answers. -/
inductive Answer (α : Type) where
  | registered (result : Except RegistryError Unit)
  | found (inst : Option α)
  | lookedUp (result : Except RegistryError α)
  | known (bound : Bool)
  | listed (names : List String)
  | counted (size : Nat)
  | drained (bindings : List (String × α))
  deriving DecidableEq

/-- The operation with its name in the form that counts. -/
def Operation.normalized : Operation α → Operation α
  | register name inst => register (normalize name) inst
  | get name => get (normalize name)
  | lookup name => lookup (normalize name)
  | contains name => contains (normalize name)
  | remove name => remove (normalize name)
  | op => op

/-- One operation. A registry that refuses a name is as it was; one that gives a name up gives its
instance back. -/
def perform (r : Registry α) : Operation α → Answer α × Registry α
  | .register name inst =>
    match r.register name inst with
    | .ok bound => (.registered (.ok ()), bound)
    | .error e => (.registered (.error e), r)
  | .get name => (.found (r.get? name), r)
  | .lookup name => (.lookedUp (r.lookup name), r)
  | .contains name => (.known (r.contains name), r)
  | .remove name => (.found (r.get? name), r.remove name)
  | .names => (.listed r.names, r)
  | .size => (.counted r.size, r)
  | .drain => (.drained r.drain.1, r.drain.2)

/-- Operations, one after the other, and all their answers. -/
def performAll (r : Registry α) : List (Operation α) → List (Answer α) × Registry α
  | [] => ([], r)
  | op :: rest =>
    let (answer, r) := r.perform op
    let (answers, r) := r.performAll rest
    (answer :: answers, r)

/-- **Only the form of a name counts.** -/
theorem perform_normalized (r : Registry α) (op : Operation α) :
    r.perform op.normalized = r.perform op := by
  cases op <;>
    simp only [Operation.normalized, perform, register, get?, lookup, contains, remove,
      normalize_normalize]

theorem performAll_normalized (r : Registry α) (ops : List (Operation α)) :
    r.performAll (ops.map Operation.normalized) = r.performAll ops := by
  induction ops generalizing r with
  | nil => rfl
  | cons op rest ih => simp only [List.map_cons, performAll, perform_normalized, ih]

/-! ## 3. The map that its users see -/

/-- The form under which a name is bound; a blank name has none. -/
def form? (name : String) : Option String :=
  if Text.trim name = "" then none else some (normalize name)

/-- Instances by the forms of their names. -/
abbrev Bindings (α : Type) := Finmap fun _ : String => α

namespace Bindings

/-- The instance of a name. -/
def instance? (b : Bindings α) (name : String) : Option α := (form? name).bind b.lookup

/-- All bindings in the order of their names. -/
def sorted (b : Bindings α) : List (String × α) :=
  (b.keys.sort (· ≤ ·)).filterMap fun key => (b.lookup key).map (key, ·)

/-- What an operation is for the map. A name is bound if it is not blank and not bound yet; nothing
else binds one. -/
def perform (b : Bindings α) : Operation α → Answer α × Bindings α
  | .register name inst =>
    match form? name with
    | none => (.registered (.error .emptyName), b)
    | some key =>
      if key ∈ b then (.registered (.error (.duplicate key)), b)
      else (.registered (.ok ()), b.insert key inst)
  | .get name => (.found (b.instance? name), b)
  | .lookup name =>
    (.lookedUp ((b.instance? name).elim (.error (.unknown (normalize name))) .ok), b)
  | .contains name => (.known (b.instance? name).isSome, b)
  | .remove name => (.found (b.instance? name), (form? name).elim b b.erase)
  | .names => (.listed (b.keys.sort (· ≤ ·)), b)
  | .size => (.counted b.keys.card, b)
  | .drain => (.drained b.sorted, ∅)

/-- Operations, one after the other, and all their answers. -/
def performAll (b : Bindings α) : List (Operation α) → List (Answer α) × Bindings α
  | [] => ([], b)
  | op :: rest =>
    let (answer, b) := b.perform op
    let (answers, b) := b.performAll rest
    (answer :: answers, b)

end Bindings

/-- The map that a registry holds. -/
def bindings (r : Registry α) : Bindings α := r.instances.toFinmap

/-! ## 4. Keys -/

/-- The keys of a registry are names in the form that counts, and none is blank. -/
structure Proper (r : Registry α) : Prop where
  normal : r.Normal
  named : "" ∉ r.names

theorem proper_empty : Proper ({} : Registry α) := ⟨normal_empty, List.not_mem_nil⟩

namespace Proper

variable {r r' : Registry α}

/-- Fewer names are in order too. -/
theorem mono (proper : r.Proper) (fewer : r'.names ⊆ r.names) : r'.Proper :=
  ⟨fun key member => proper.normal key (fewer member), fun blank => proper.named (fewer blank)⟩

theorem register (proper : r.Proper) {name : String} {inst : α}
    (bound : r.register name inst = .ok r') : r'.Proper := by
  refine ⟨proper.normal.register bound, fun blank => ?_⟩
  obtain ⟨e, inside, empty⟩ := List.mem_map.1 blank
  have eq := register_eq_ok bound
  subst eq
  rcases Dict.eq_or_mem_of_mem_insertEntry inside with rfl | inside
  · rw [Registry.register, if_pos (String.isEmpty_iff.2 empty)] at bound
    cases bound
  · exact proper.named (empty ▸ List.mem_map_of_mem inside)

/-- **No operation binds a name in another form, or a blank one.** -/
theorem perform (proper : r.Proper) (op : Operation α) : (r.perform op).2.Proper := by
  cases op with
  | register name inst =>
    simp only [Registry.perform]
    split
    · rename_i bound
      exact proper.register bound
    · exact proper
  | remove name =>
    exact proper.mono ((List.filter_sublist.map _).subset)
  | drain => exact proper.mono (List.nil_subset _)
  | get | lookup | contains | names | size => exact proper

theorem performAll (proper : r.Proper) (ops : List (Operation α)) :
    (r.performAll ops).2.Proper := by
  induction ops generalizing r with
  | nil => exact proper
  | cons op rest ih => exact ih (proper.perform op)

/-- A blank name is not bound. -/
theorem get?_blank (proper : r.Proper) : r.instances.get? "" = none := by
  cases bound : r.instances.get? "" with
  | none => rfl
  | some inst => exact absurd (List.mem_map_of_mem (Dict.mem_of_get? bound)) proper.named

theorem get?_eq (proper : r.Proper) (name : String) : r.get? name = r.bindings.instance? name := by
  rw [get?, Bindings.instance?, form?]
  split
  · rename_i blank
    rw [normalize_eq_empty_iff.2 blank, proper.get?_blank, Option.bind_none]
  · rw [Option.bind_some, bindings, Dict.lookup_toFinmap]

end Proper

/-! ## 5. Operations on both sides -/

section Sides

variable (r : Registry α)

theorem register_eq (name : String) (inst : α) :
    r.register name inst =
      if Text.trim name = "" then .error .emptyName
      else if r.contains name then .error (.duplicate (normalize name))
      else .ok { r with instances := r.instances.insert (normalize name) inst } := by
  have empty_iff : (normalize name).isEmpty = true ↔ Text.trim name = "" :=
    String.isEmpty_iff.trans normalize_eq_empty_iff
  unfold register contains
  dsimp only
  by_cases blank : Text.trim name = ""
  · rw [if_pos blank, if_pos (empty_iff.2 blank)]
  · rw [if_neg blank, if_neg (mt empty_iff.1 blank)]

/-- A name is bound unless it is blank or bound already; a name that is refused changes nothing. -/
theorem perform_register (name : String) (inst : α) :
    if Text.trim name = "" then
      r.perform (.register name inst) = (.registered (.error .emptyName), r)
    else if r.contains name then
      r.perform (.register name inst) = (.registered (.error (.duplicate (normalize name))), r)
    else ∃ after, r.perform (.register name inst) = (.registered (.ok ()), after) ∧
      after.bindings = r.bindings.insert (normalize name) inst := by
  simp only [perform, register_eq]
  by_cases blank : Text.trim name = ""
  · simp only [if_pos blank]
  · by_cases bound : r.contains name = true
    · simp only [if_neg blank, if_pos bound]
    · simp only [if_neg blank, if_neg bound]
      exact ⟨_, rfl, Dict.toFinmap_insert _ _ _⟩

theorem register_bindings (name : String) (inst : α) :
    ((r.perform (.register name inst)).1, (r.perform (.register name inst)).2.bindings) =
      r.bindings.perform (.register name inst) := by
  have outcome := r.perform_register name inst
  rw [Bindings.perform, form?]
  split at outcome
  · rename_i blank
    rw [outcome, if_pos blank]
  · rename_i named
    rw [if_neg named]
    split at outcome
    · rename_i bound
      rw [outcome]
      exact (if_pos ((Dict.mem_toFinmap _).2 bound)).symm
    · rename_i free
      obtain ⟨after, bound, left⟩ := outcome
      rw [bound, left]
      exact (if_neg (mt (Dict.mem_toFinmap _).1 free)).symm

theorem lookup_eq (name : String) :
    r.lookup name = (r.get? name).elim (.error (.unknown (normalize name))) .ok := by
  rw [lookup]
  cases r.get? name <;> rfl

theorem names_eq_sort : r.names = r.bindings.keys.sort (· ≤ ·) :=
  (Dict.sort_keys_toFinmap _).symm

theorem size_eq_card : r.size = r.bindings.keys.card := by
  rw [← Finset.length_sort (· ≤ ·), ← names_eq_sort]
  exact (List.length_map _).symm

theorem drain_eq_sorted : r.drain.1 = r.bindings.sorted := by
  rw [Bindings.sorted, ← names_eq_sort]
  simp only [bindings, Dict.lookup_toFinmap]
  exact Dict.entries_eq_filterMap _

end Sides

namespace Proper

variable {r : Registry α}

/-- A name that is given up is given up in the map; a blank one was not bound. -/
theorem remove_bindings (proper : r.Proper) (name : String) :
    (r.remove name).bindings = (form? name).elim r.bindings r.bindings.erase := by
  rw [bindings, remove, Dict.toFinmap_erase, form?]
  split
  · rename_i blank
    refine Finmap.ext_lookup fun key => ?_
    rw [normalize_eq_empty_iff.2 blank]
    by_cases here : key = ""
    · rw [here, Finmap.lookup_erase, Option.elim_none, bindings, Dict.lookup_toFinmap,
        proper.get?_blank]
    · rw [Finmap.lookup_erase_ne here]
      rfl
  · rfl

/-- **An operation answers what the map says, and leaves what the map becomes.** -/
theorem perform_bindings (proper : r.Proper) (op : Operation α) :
    ((r.perform op).1, (r.perform op).2.bindings) = r.bindings.perform op := by
  cases op with
  | register name inst => exact r.register_bindings name inst
  | get name => simp only [Registry.perform, Bindings.perform, proper.get?_eq]
  | lookup name => simp only [Registry.perform, Bindings.perform, lookup_eq, proper.get?_eq]
  | contains name =>
    have known : r.contains name = (r.get? name).isSome := rfl
    simp only [Registry.perform, Bindings.perform, known, proper.get?_eq]
  | remove name =>
    simp only [Registry.perform, Bindings.perform, proper.get?_eq, proper.remove_bindings]
  | names => simp only [Registry.perform, Bindings.perform, names_eq_sort]
  | size => simp only [Registry.perform, Bindings.perform, size_eq_card]
  | drain =>
    simp only [Registry.perform, Bindings.perform, drain_eq_sorted]
    rfl

theorem performAll_bindings (proper : r.Proper) (ops : List (Operation α)) :
    ((r.performAll ops).1, (r.performAll ops).2.bindings) = r.bindings.performAll ops := by
  induction ops generalizing r with
  | nil => rfl
  | cons op rest ih =>
    obtain ⟨answer, left⟩ := Prod.ext_iff.1 (proper.perform_bindings op)
    obtain ⟨answers, finally_left⟩ := Prod.ext_iff.1 (ih (proper.perform op))
    simp only [Registry.performAll, Bindings.performAll, ← answer, ← left, ← answers,
      ← finally_left]

/-- **A name that is listed is found** under the instance that is bound to it, and can be given
up. -/
theorem found_of_mem_names (proper : r.Proper) {name : String} (listed : name ∈ r.names) :
    ∃ inst, r.bindings.lookup name = some inst ∧ r.get? name = some inst ∧
      r.contains name = true ∧ r.lookup name = .ok inst ∧
      (r.perform (.remove name)).1 = .found (some inst) ∧
      (r.perform (.remove name)).2.bindings = r.bindings.erase name := by
  obtain ⟨⟨key, inst⟩, member, rfl⟩ := List.mem_map.1 listed
  have found : r.get? key = some inst := proper.normal.get?_of_mem member
  have bound : r.bindings.lookup key = some inst := by
    rw [bindings, Dict.lookup_toFinmap, Dict.get?_of_mem member]
  refine ⟨inst, bound, found, Option.isSome_iff_exists.2 ⟨inst, found⟩, ?_,
    congrArg Answer.found found, ?_⟩
  · rw [lookup_eq, found, Option.elim_some]
  · show (r.instances.erase (normalize key)).toFinmap = _
    rw [proper.normal key listed, Dict.toFinmap_erase]
    rfl

end Proper

/-! ## 6. Runs -/

/-- **A registry is a finite map from the forms of names, and binds a name once.** In every run the
answers are those of the map, and so is what is left. Names of one form cannot be told apart. A name
that is blank or bound is refused, and then nothing changes. The three ways to ask for a name agree.
The names are listed once each in rising order, and every one of them is found again and can be
given up. What is taken out in the end is every binding, once, in the order of the names. -/
theorem performAll_refines (ops : List (Operation α)) :
    let run := ({} : Registry α).performAll ops
    let r := run.2
    (run.1, r.bindings) = (∅ : Bindings α).performAll ops ∧
    (∀ others : List (Operation α), others.map Operation.normalized = ops.map Operation.normalized →
      ({} : Registry α).performAll others = run) ∧
    (∀ name inst,
      if Text.trim name = "" then
        r.perform (.register name inst) = (.registered (.error .emptyName), r)
      else if r.contains name then
        r.perform (.register name inst) = (.registered (.error (.duplicate (normalize name))), r)
      else ∃ after, r.perform (.register name inst) = (.registered (.ok ()), after) ∧
        after.bindings = r.bindings.insert (normalize name) inst) ∧
    (∀ name, r.contains name = (r.get? name).isSome ∧
      r.lookup name = (r.get? name).elim (.error (.unknown (normalize name))) .ok) ∧
    r.names.Pairwise (· < ·) ∧ r.names.length = r.size ∧
    (∀ name ∈ r.names, ∃ inst, r.bindings.lookup name = some inst ∧ r.get? name = some inst ∧
      r.contains name = true ∧ r.lookup name = .ok inst ∧
      (r.perform (.remove name)).1 = .found (some inst) ∧
      (r.perform (.remove name)).2.bindings = r.bindings.erase name) ∧
    r.drain.1.map (·.1) = r.names ∧
    (∀ name inst, (name, inst) ∈ r.drain.1 ↔ r.bindings.lookup name = some inst) ∧
    r.drain.2.bindings = ∅ := by
  intro run r
  have proper : r.Proper := proper_empty.performAll ops
  refine ⟨proper_empty.performAll_bindings ops, fun others same => ?_, r.perform_register,
    fun name => ⟨rfl, r.lookup_eq name⟩, Dict.pairwise_keys _, List.length_map _,
    fun name => proper.found_of_mem_names, rfl, fun name inst => ?_, rfl⟩
  · rw [← performAll_normalized, same, performAll_normalized]
  · rw [bindings, Dict.lookup_toFinmap]
    exact ⟨Dict.get?_of_mem, Dict.mem_of_get?⟩

/-- A name with an accent is bound once, in whatever letters, and free again when it was given up;
letters of two forms stand for two names. -/
example :
    (({} : Registry Nat).performAll
      [.register " É " 1, .register "é" 2, .register "\t" 3, .register "a" 4, .remove "A ",
        .register "A" 5, .names, .lookup "b", .drain, .size]).1 =
      [.registered (.ok ()), .registered (.error (.duplicate "é")), .registered (.error .emptyName),
        .registered (.ok ()), .found (some 4), .registered (.ok ()), .listed ["a", "é"],
        .lookedUp (.error (.unknown "b")), .drained [("a", 5), ("é", 1)], .counted 0] := by
  decide +kernel

end Registry

end Syslog

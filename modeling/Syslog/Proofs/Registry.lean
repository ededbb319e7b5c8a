import Syslog.Proofs.Dict
import Syslog.Proofs.Text.Lower

/-!
# Names that are bound one after the other

A registry refuses a blank name, and a name whose form is bound already. So when several names are
bound, it is known beforehand whether one is refused, and which.

* `fault?`, `firstFault?`: why a name is refused where some forms are taken, and the first such fault
  of several names;
* `Apart`, `firstFault?_eq_none_iff`: names of which none is refused;
* `Holds`, `outcome_register`: a registry in which some forms are taken, and how it binds a name;
* `Outcome.foldlM`: how it goes when whoever has a registry binds names in it;
* `Normal`: the keys of a registry are names in the form that counts, so they are found again.
-/

namespace Syslog

/-- What two steps give together, the second gives of what the first gives. -/
theorem exists_of_bind_eq_ok {ε α β : Type} {result : Except ε α} {next : α → Except ε β} {b : β}
    (both : result >>= next = .ok b) : ∃ a, result = .ok a ∧ next a = .ok b := by
  cases result with
  | error e => cases both
  | ok a => exact ⟨a, rfl, both⟩

theorem eq_ok_of_mapError {ε ε' α : Type} {wrap : ε → ε'} {result : Except ε α} {a : α}
    (ok : result.mapError wrap = .ok a) : result = .ok a := by
  cases result with
  | error e => cases ok
  | ok a' => exact congrArg _ (Except.ok.inj ok)

namespace Registry

variable {α : Type}

/-! ## 1. Faults of names -/

/-- Why a name cannot be bound where some forms are taken. -/
def fault? (taken : List String) (name : String) : Option RegistryError :=
  if normalize name = "" then some .emptyName
  else if normalize name ∈ taken then some (.duplicate (normalize name))
  else none

/-- The first fault of names that are bound one after the other. -/
def firstFault? (taken : List String) : List String → Option RegistryError
  | [] => none
  | name :: rest => (fault? taken name).or (firstFault? (normalize name :: taken) rest)

/-- The forms that are taken after names were bound. -/
def takenAfter (taken names : List String) : List String := (names.map normalize).reverse ++ taken

theorem takenAfter_cons (taken : List String) (name : String) (rest : List String) :
    takenAfter taken (name :: rest) = takenAfter (normalize name :: taken) rest := by
  simp [takenAfter]

theorem takenAfter_append (taken names more : List String) :
    takenAfter taken (names ++ more) = takenAfter (takenAfter taken names) more := by
  simp [takenAfter]

/-- Bound in two turns, names have the same first fault. -/
theorem firstFault?_append (taken names more : List String) :
    firstFault? taken (names ++ more) =
      (firstFault? taken names).or (firstFault? (takenAfter taken names) more) := by
  induction names generalizing taken with
  | nil => rfl
  | cons name rest ih =>
    simp only [List.cons_append, firstFault?, ih, takenAfter_cons, Option.or_assoc]

/-- No name is blank, and no two have one form. -/
structure Apart (names : List String) : Prop where
  named : ∀ name ∈ names, normalize name ≠ ""
  distinct : (names.map normalize).Nodup

theorem fault?_eq_none_iff {taken : List String} {name : String} :
    fault? taken name = none ↔ normalize name ≠ "" ∧ normalize name ∉ taken := by
  unfold fault?
  split
  · simp [*]
  · split <;> simp [*]

theorem firstFault?_eq_none_iff_of_taken {taken names : List String} :
    firstFault? taken names = none ↔
      Apart names ∧ ∀ name ∈ names, normalize name ∉ taken := by
  induction names generalizing taken with
  | nil => exact ⟨fun _ => ⟨⟨by simp, by simp⟩, by simp⟩, fun _ => rfl⟩
  | cons name rest ih =>
    rw [firstFault?, Option.or_eq_none_iff, fault?_eq_none_iff, ih]
    constructor
    · rintro ⟨⟨named, free⟩, ⟨others, distinct⟩, apart⟩
      refine ⟨⟨List.forall_mem_cons.2 ⟨named, others⟩, ?_⟩, List.forall_mem_cons.2 ⟨free, ?_⟩⟩
      · refine List.nodup_cons.2 ⟨fun again => ?_, distinct⟩
        obtain ⟨other, member, same⟩ := List.mem_map.1 again
        refine apart other member ?_
        rw [same]
        exact List.mem_cons_self
      · exact fun other member taken => apart other member (List.mem_cons_of_mem _ taken)
    · rintro ⟨⟨named, distinct⟩, apart⟩
      obtain ⟨new, distinct⟩ := List.nodup_cons.1 distinct
      obtain ⟨named, others⟩ := List.forall_mem_cons.1 named
      obtain ⟨free, apart⟩ := List.forall_mem_cons.1 apart
      refine ⟨⟨named, free⟩, ⟨others, distinct⟩, fun other member taken => ?_⟩
      rcases List.mem_cons.1 taken with same | taken
      · exact new (List.mem_map.2 ⟨other, member, same⟩)
      · exact apart other member taken

/-- **No name is refused exactly if no name is blank and no two have one form.** -/
theorem firstFault?_eq_none_iff {names : List String} :
    firstFault? [] names = none ↔ Apart names := by
  rw [firstFault?_eq_none_iff_of_taken]
  exact and_iff_left fun _ _ => List.not_mem_nil

/-- Names in the form that counts are apart if none of them is empty or comes twice. -/
theorem apart_of_normal {names : List String} (normal : ∀ name ∈ names, normalize name = name)
    (named : "" ∉ names) (distinct : names.Nodup) : Apart names := by
  refine ⟨fun name member empty => ?_, ?_⟩
  · rw [normal name member] at empty
    exact named (empty ▸ member)
  · rwa [List.map_congr_left normal, List.map_id']

/-! ## 2. How names are bound -/

/-- The forms that are taken in a registry. -/
structure Holds (r : Registry α) (taken : List String) : Prop where
  bound : ∀ key, r.instances.contains key = true ↔ key ∈ taken
  named : "" ∉ taken

theorem holds_empty (suppressErrors : Bool) :
    Holds { instances := (.empty : Dict α), suppressErrors } [] :=
  ⟨fun _ => ⟨fun bound => (nomatch bound), fun member => (nomatch member)⟩, List.not_mem_nil⟩

/-- How it goes when somebody binds names: the first fault is told, or all the forms are taken. -/
inductive Outcome {σ ε : Type} (holds : σ → List String → Prop) (wrap : RegistryError → ε)
    (taken : List String) : Option RegistryError → Except ε σ → Prop
  | refused (fault : RegistryError) : Outcome holds wrap taken (some fault) (.error (wrap fault))
  | bound {s : σ} (held : holds s taken) : Outcome holds wrap taken none (.ok s)

/-- A registry binds a name, or tells why not. -/
theorem outcome_register {r : Registry α} {taken : List String} (h : Holds r taken) (name : String)
    (inst : α) :
    Outcome Holds id (normalize name :: taken) (fault? taken name) (r.register name inst) := by
  unfold fault? register
  generalize normalize name = key
  by_cases blank : key = ""
  · rw [if_pos blank, if_pos (String.isEmpty_iff.2 blank)]
    exact .refused _
  · rw [if_neg blank, if_neg (mt String.isEmpty_iff.1 blank)]
    by_cases bound : key ∈ taken
    · rw [if_pos bound, if_pos ((h.bound key).2 bound)]
      exact .refused _
    · rw [if_neg bound, if_neg (mt (h.bound key).1 bound)]
      refine .bound ⟨fun other => ?_, List.not_mem_cons_of_ne_of_not_mem (Ne.symm blank) h.named⟩
      rw [Dict.contains, Dict.get?_insert, List.mem_cons, ← h.bound other, Dict.contains]
      split <;> simp [*]

namespace Outcome

variable {σ ε : Type} {holds : σ → List String → Prop} {wrap : RegistryError → ε}

/-- An outcome, and what is done with what came out. -/
theorem bind {taken taken' : List String} {fault fault' : Option RegistryError}
    {result : Except ε σ} {next : σ → Except ε σ} (first : Outcome holds wrap taken fault result)
    (second : ∀ s, holds s taken → Outcome holds wrap taken' fault' (next s)) :
    Outcome holds wrap taken' (fault.or fault') (result >>= next) := by
  cases first with
  | refused fault => exact .refused fault
  | bound held => exact second _ held

theorem exists_ok_iff {taken : List String} {fault : Option RegistryError} {result : Except ε σ}
    (h : Outcome holds wrap taken fault result) : (∃ s, result = .ok s) ↔ fault = none := by
  cases h with
  | refused fault => exact ⟨fun ⟨_, ok⟩ => (nomatch ok), fun none => (nomatch none)⟩
  | bound held => exact ⟨fun _ => rfl, fun _ => ⟨_, rfl⟩⟩

theorem eq_error_iff {taken : List String} {fault : Option RegistryError} {result : Except ε σ}
    (h : Outcome holds wrap taken fault result) (injective : Function.Injective wrap)
    (e : RegistryError) : result = .error (wrap e) ↔ fault = some e := by
  cases h with
  | refused fault =>
    exact ⟨fun same => congrArg some (injective (Except.error.inj same)), fun same =>
      congrArg (Except.error ∘ wrap) (Option.some.inj same)⟩
  | bound held => exact ⟨fun same => (nomatch same), fun same => (nomatch same)⟩

/-- **Names are bound one after the other**, if each step binds one. -/
theorem foldlM {β : Type} {step : σ → String × β → Except ε σ} {entries : List (String × β)}
    (binds : ∀ entry ∈ entries, ∀ s taken, holds s taken →
      Outcome holds wrap (normalize entry.1 :: taken) (fault? taken entry.1) (step s entry))
    {s : σ} {taken : List String} (start : holds s taken) :
    Outcome holds wrap (takenAfter taken (entries.map (·.1)))
      (firstFault? taken (entries.map (·.1))) (entries.foldlM step s) := by
  induction entries generalizing s taken with
  | nil => exact .bound start
  | cons entry rest ih =>
    rw [List.map_cons, List.foldlM_cons, takenAfter_cons, firstFault?]
    exact (binds entry List.mem_cons_self s taken start).bind fun s' held =>
      ih (fun other member => binds other (List.mem_cons_of_mem entry member)) held

/-- What is bound in a registry is bound by whoever has it. -/
theorem lift {taken : List String} {fault : Option RegistryError}
    {result : Except RegistryError (Registry α)} {make : Registry α → σ}
    (h : Outcome Holds id taken fault result) (keeps : ∀ r, Holds r taken → holds (make r) taken) :
    Outcome holds wrap taken fault ((result.mapError wrap).map make) := by
  cases h with
  | refused fault => exact .refused fault
  | bound held => exact .bound (keeps _ held)

end Outcome

/-! ## 3. Keys -/

/-- Every key is a name in the form that counts. -/
def Normal (r : Registry α) : Prop := ∀ key ∈ r.names, normalize key = key

/-- A key is found as a name. -/
theorem Normal.get?_of_mem {r : Registry α} (normal : r.Normal) {key : String} {inst : α}
    (member : (key, inst) ∈ r.instances.entries) : r.get? key = some inst := by
  rw [get?, normal key (List.mem_map_of_mem member)]
  exact Dict.get?_of_mem member

theorem normal_empty : Normal ({} : Registry α) := fun _ member => (nomatch member)

/-- A name that is bound is bound in the form that counts. -/
theorem register_eq_ok {r r' : Registry α} {name : String} {inst : α}
    (bound : r.register name inst = .ok r') :
    r' = { r with instances := r.instances.insert (normalize name) inst } := by
  unfold register at bound
  dsimp only at bound
  split at bound
  · cases bound
  · split at bound
    · cases bound
    · exact (Except.ok.inj bound).symm

theorem Normal.register {r r' : Registry α} (normal : r.Normal) {name : String} {inst : α}
    (bound : r.register name inst = .ok r') : r'.Normal := by
  obtain rfl := register_eq_ok bound
  intro key member
  obtain ⟨e, inside, rfl⟩ := List.mem_map.1 member
  rcases Dict.eq_or_mem_of_mem_insertEntry inside with rfl | inside
  · exact normalize_normalize name
  · exact normal _ (List.mem_map_of_mem inside)

end Registry

end Syslog

import Syslog.Modifier.Chain
import Syslog.Proofs.Modifier.Counter
import Syslog.Proofs.Modifier.Signer

/-!
# Chains verify what they gave, and signatures nothing else

A chain takes back its modifiers from the last to the first. A number and a signature come off again
whatever stands before them, so each modifier finds the message that it gave; only a change of
letters cannot be taken back, and must come before all that are.

* `Modifier.strip?_apply`, `Modifier.apply_of_strip?`: one modifier, one way and the other;
* `Chain.strip?_applyAll`: modifiers that change no letters get back the message itself;
* `Chain.verify_apply`: a chain that changes letters first verifies its messages, and gets back what
  each of the other modifiers was given;
* `Chain.accepts_signed_only`: what a chain of signatures verifies has been signed by it.
-/

namespace Syslog

/-! ## 1. One modifier -/

namespace ModifierSettings

/-- Do the settings change letters, which nobody can take back? -/
def changesLetters : ModifierSettings → Bool
  | textCase _ => true
  | sequential _ | hash _ | mac _ => false

/-- Signatures begin with a mark that has a character which does not stand in Base64. -/
def Marked : ModifierSettings → Prop
  | hash settings => settings.signer.Marked
  | mac settings => settings.signer.Marked
  | sequential _ | textCase _ => True

instance : DecidablePred Marked
  | hash settings => inferInstanceAs (Decidable settings.signer.Marked)
  | mac settings => inferInstanceAs (Decidable settings.signer.Marked)
  | sequential _ | textCase _ => inferInstanceAs (Decidable True)

/-- The message before the change, by the settings alone. -/
def strip? : ModifierSettings → Message → Option Message
  | sequential numbering, m => (numbering.strip? m.body).map fun body => { m with body }
  | hash settings, m => settings.signer.strip? m
  | mac settings, m => settings.signer.strip? m
  | textCase _, m => some m

/-- Letters are changed before anything else is. -/
def LettersFirst (settings : List ModifierSettings) : Prop :=
  settings.Pairwise fun before after =>
    after.changesLetters = true → before.changesLetters = true

instance : DecidablePred LettersFirst := fun settings =>
  inferInstanceAs (Decidable (settings.Pairwise _))

/-- From the first on that changes no letters, none does. -/
theorem LettersFirst.keeps {s : ModifierSettings} {rest : List ModifierSettings}
    (order : LettersFirst (s :: rest)) (keeps : s.changesLetters = false) :
    ∀ other ∈ s :: rest, other.changesLetters = false := by
  refine List.forall_mem_cons.2 ⟨keeps, fun other member => ?_⟩
  rw [← Bool.not_eq_true] at keeps ⊢
  exact mt ((List.pairwise_cons.1 order).1 other member) keeps

end ModifierSettings

namespace Modifier

/-- The settings of a modifier at work. -/
def settings : Modifier → ModifierSettings
  | sequential counter => .sequential counter.numbering
  | hash settings => .hash settings
  | mac settings => .mac settings
  | textCase letters => .textCase letters

variable {modifier modifier' : Modifier} {m m' : Message}

theorem settings_of_ofSettings {settings : ModifierSettings}
    (built : ofSettings settings = .ok modifier) : modifier.settings = settings := by
  cases settings with
  | mac s =>
    rw [ofSettings] at built
    split at built
    · cases built
    · cases built
      rfl
  | sequential numbering | hash s | textCase letters =>
    cases built
    rfl

/-- Only the counter goes on. -/
@[simp] theorem settings_apply (modifier : Modifier) (m : Message) :
    (modifier.apply m).2.settings = modifier.settings := by
  cases modifier <;> rfl

/-- What is taken back does not depend on how far the counter is. -/
theorem strip?_eq (modifier : Modifier) : modifier.strip? = modifier.settings.strip? := by
  cases modifier <;> rfl

theorem strip?_of_changesLetters (letters : modifier.settings.changesLetters = true) (m : Message) :
    modifier.strip? m = some m := by
  cases modifier with
  | textCase letters => rfl
  | sequential counter => cases letters
  | hash settings => cases letters
  | mac settings => cases letters

/-- **What a modifier gave is taken back**, also by one whose counter stands elsewhere. -/
theorem strip?_apply (same : modifier'.settings = modifier.settings)
    (keeps : modifier.settings.changesLetters = false) (marked : modifier.settings.Marked)
    (m : Message) : modifier'.strip? (modifier.apply m).1 = some m := by
  rw [strip?_eq, same, ← strip?_eq]
  cases modifier with
  | sequential counter =>
    exact Option.map_eq_some_iff.2 ⟨m.body, counter.strip?_number m.body, rfl⟩
  | hash settings => exact Signer.strip?_sign marked m
  | mac settings => exact Signer.strip?_sign marked m
  | textCase letters => cases keeps

/-- **A modifier that signs takes back only what it gave.** -/
theorem apply_of_strip? (signs : modifier.signer?.isSome = true)
    (stripped : modifier.strip? m = some m') : modifier.apply m' = (m, modifier) := by
  obtain ⟨s, signs⟩ := Option.isSome_iff_exists.1 signs
  obtain ⟨applied, works, -⟩ := of_signer? signs
  rw [works] at stripped
  rw [applied, (Signer.strip?_eq_some_iff.1 stripped).1]

end Modifier

/-! ## 2. Taking back -/

namespace Chain

open ModifierSettings (LettersFirst)

/-- The settings of the modifiers. -/
def settings (c : Chain) : List ModifierSettings := c.modifiers.map Modifier.settings

theorem applyAll_append (m : Message) (front back : List Modifier) :
    applyAll m (front ++ back) =
      ((applyAll (applyAll m front).1 back).1,
        (applyAll m front).2 ++ (applyAll (applyAll m front).1 back).2) := by
  induction front generalizing m with
  | nil => rfl
  | cons modifier front ih => simp only [List.cons_append, applyAll, ih]

theorem settings_applyAll (m : Message) (modifiers : List Modifier) :
    (applyAll m modifiers).2.map Modifier.settings = modifiers.map Modifier.settings := by
  induction modifiers generalizing m with
  | nil => rfl
  | cons modifier rest ih => simp only [applyAll, List.map_cons, Modifier.settings_apply, ih]

theorem strip?_cons (modifier : Modifier) (rest : List Modifier) (m : Message) :
    strip? ⟨modifier :: rest⟩ m = (strip? ⟨rest⟩ m).bind modifier.strip? := rfl

/-- **Modifiers that change no letters give back the message that was given to them.** -/
theorem strip?_applyAll {modifiers modifiers' : List Modifier}
    (same : modifiers'.map Modifier.settings = modifiers.map Modifier.settings)
    (keeps : ∀ s ∈ modifiers.map Modifier.settings, s.changesLetters = false)
    (marked : ∀ s ∈ modifiers.map Modifier.settings, s.Marked) (m : Message) :
    strip? ⟨modifiers'⟩ (applyAll m modifiers).1 = some m := by
  induction modifiers generalizing m modifiers' with
  | nil =>
    obtain rfl := List.map_eq_nil_iff.1 same
    rfl
  | cons modifier rest ih =>
    obtain ⟨modifier', rest', rfl, first, later⟩ := List.map_eq_cons_iff.1 same
    rw [List.map_cons, List.forall_mem_cons] at keeps marked
    have inner : strip? ⟨rest'⟩ (applyAll m (modifier :: rest)).1 = some (modifier.apply m).1 :=
      ih later keeps.2 marked.2 (modifier.apply m).1
    rw [strip?_cons, inner, Option.bind_some, Modifier.strip?_apply first keeps.1 marked.1]

/-- Before them, letters may be changed. -/
theorem verify_applyAll {modifiers modifiers' : List Modifier}
    (same : modifiers'.map Modifier.settings = modifiers.map Modifier.settings)
    (order : LettersFirst (modifiers.map Modifier.settings))
    (marked : ∀ s ∈ modifiers.map Modifier.settings, s.Marked) (m : Message) :
    verify ⟨modifiers'⟩ (applyAll m modifiers).1 = true := by
  induction modifiers generalizing m modifiers' with
  | nil =>
    obtain rfl := List.map_eq_nil_iff.1 same
    rfl
  | cons modifier rest ih =>
    cases letters : modifier.settings.changesLetters with
    | true =>
      obtain ⟨modifier', rest', rfl, first, later⟩ := List.map_eq_cons_iff.1 same
      rw [List.map_cons, List.forall_mem_cons] at marked
      have inner : verify ⟨rest'⟩ (applyAll m (modifier :: rest)).1 = true :=
        ih later (List.pairwise_cons.1 order).2 marked.2 (modifier.apply m).1
      obtain ⟨text, stripped⟩ := Option.isSome_iff_exists.1 inner
      rw [verify, strip?_cons, stripped, Option.bind_some,
        Modifier.strip?_of_changesLetters (first ▸ letters), Option.isSome_some]
    | false =>
      rw [verify, strip?_applyAll same (order.keeps letters) marked, Option.isSome_some]

theorem settings_of_mapM {settings : List ModifierSettings} {modifiers : List Modifier}
    (built : settings.mapM Modifier.ofSettings = .ok modifiers) :
    modifiers.map Modifier.settings = settings := by
  induction settings generalizing modifiers with
  | nil =>
    cases built
    rfl
  | cons s rest ih =>
    rw [List.mapM_cons] at built
    cases first : Modifier.ofSettings s with
    | error e =>
      rw [first] at built
      cases built
    | ok modifier =>
      cases later : rest.mapM Modifier.ofSettings with
      | error e =>
        rw [first, later] at built
        cases built
      | ok modifiers' =>
        rw [first, later] at built
        cases built
        rw [List.map_cons, Modifier.settings_of_ofSettings first, ih later]

theorem settings_of_ofSettings {settings : List ModifierSettings} {c : Chain}
    (built : ofSettings settings = .ok c) : c.settings = settings := by
  cases modifiers : settings.mapM Modifier.ofSettings with
  | error e =>
    rw [ofSettings, modifiers] at built
    cases built
  | ok modifiers' =>
    rw [ofSettings, modifiers] at built
    cases built
    exact settings_of_mapM modifiers

/-- **A chain verifies what it gave.** Where letters are changed first and signatures are marked,
every message that a chain of the settings gives is verified by every other one, whatever the body
is and wherever the counters are; and each modifier behind the letters gets back the message it was
given. -/
theorem verify_apply {settings : List ModifierSettings} (order : LettersFirst settings)
    (marked : ∀ s ∈ settings, s.Marked) :
    (∀ c, ofSettings settings = .ok c → c.settings = settings) ∧
      ∀ c d : Chain, c.settings = settings → d.settings = settings → ∀ m : Message,
        (c.apply m).2.settings = settings ∧ d.verify (c.apply m).1 = true ∧
          ∀ i modifier, c.modifiers[i]? = some modifier →
            modifier.settings.changesLetters = false →
            strip? ⟨d.modifiers.drop i⟩ (c.apply m).1 = some (apply ⟨c.modifiers.take i⟩ m).1 := by
  refine ⟨fun c => settings_of_ofSettings, fun c d mine theirs m => ?_⟩
  subst mine
  refine ⟨settings_applyAll m c.modifiers, verify_applyAll theirs order marked m, ?_⟩
  intro i modifier place keeps
  have back : c.modifiers.drop i = modifier :: c.modifiers.drop (i + 1) :=
    (List.drop_eq_getElem?_toList_append).trans (by rw [place]; rfl)
  have settings_back : (c.modifiers.drop i).map Modifier.settings = c.settings.drop i :=
    List.map_drop
  have order_back : LettersFirst ((c.modifiers.drop i).map Modifier.settings) := by
    rw [settings_back]
    exact List.Pairwise.sublist (List.drop_sublist _ _) order
  have keeps_back : ∀ s ∈ (c.modifiers.drop i).map Modifier.settings, s.changesLetters = false := by
    rw [back] at order_back ⊢
    exact order_back.keeps keeps
  have given : (c.apply m).1 =
      (applyAll (applyAll m (c.modifiers.take i)).1 (c.modifiers.drop i)).1 := by
    show (applyAll m c.modifiers).1 = _
    conv_lhs => rw [← List.take_append_drop i c.modifiers, applyAll_append]
  rw [given]
  refine strip?_applyAll ?_ keeps_back ?_ _
  · rw [settings_back, ← theirs]
    exact List.map_drop
  · rw [settings_back]
    exact fun s member => marked s (List.mem_of_mem_drop member)

/-- A chain changes letters, numbers and signs, and the body has numbers and signatures already. -/
theorem verify_apply_stacked :
    LettersFirst [.textCase .upper, .sequential ⟨1, 99, true, '#'⟩, .hash {}] ∧
      ModifierSettings.Marked (.hash {}) ∧
      verify ⟨[.textCase .upper, .sequential ⟨⟨1, 99, true, '#'⟩, 1⟩, .hash {}]⟩
        (apply ⟨[.textCase .upper, .sequential ⟨⟨1, 99, true, '#'⟩, 7⟩, .hash {}]⟩
          { body := "job #07 \x7bqZk+NkcGgWq6PiVxeFDCbJzQ2J0=\x7d #" }).1 = true := by
  have order : LettersFirst [.textCase .upper, .sequential ⟨1, 99, true, '#'⟩, .hash {}] := by
    decide +kernel
  have marked : ∀ s ∈ [.textCase .upper, .sequential ⟨1, 99, true, '#'⟩, .hash {}],
      ModifierSettings.Marked s := by
    decide +kernel
  exact ⟨order, marked (.hash {}) (by simp), ((verify_apply order marked).2 _ _ rfl rfl _).2.1⟩

/-! ## 3. Accepting -/

/-- **A chain of signatures takes back only what it gave.** -/
theorem applyAll_of_strip? {modifiers : List Modifier}
    (signs : ∀ modifier ∈ modifiers, modifier.signer?.isSome = true) {m m' : Message}
    (stripped : strip? ⟨modifiers⟩ m = some m') : applyAll m' modifiers = (m, modifiers) := by
  induction modifiers generalizing m' with
  | nil =>
    cases stripped
    rfl
  | cons modifier rest ih =>
    rw [List.forall_mem_cons] at signs
    obtain ⟨given, inner, outer⟩ := Option.bind_eq_some_iff.1 stripped
    rw [applyAll, Modifier.apply_of_strip? signs.1 outer]
    dsimp only
    rw [ih signs.2 inner]

/-- **Nothing is accepted but what was signed.** A modifier that signs strips a message just if
signing what is left gives the message back, byte for byte, and the opening mark that signing has
set is the last one; it changes the body only. What a chain of such modifiers verifies, the chain
has made of some message. -/
theorem accepts_signed_only :
    (∀ (modifier : Modifier) (s : Signer) (m m' : Message), modifier.signer? = some s →
      (modifier.strip? m = some m' ↔
        (modifier.apply m').1 = m ∧ s.Rightmost m'.body (s.digest m' m'.body)) ∧
      (modifier.strip? m = some m' → m' = { m with body := m'.body })) ∧
    ∀ (c : Chain) (m : Message), (∀ modifier ∈ c.modifiers, modifier.signer?.isSome = true) →
      c.verify m = true → ∃ m', (c.apply m').1 = m := by
  refine ⟨fun modifier s m m' signs => ?_, fun c m signs verified => ?_⟩
  · obtain ⟨applied, works, -⟩ := Modifier.of_signer? signs
    rw [works, applied]
    exact ⟨Signer.strip?_eq_some_iff, Signer.eq_of_strip?⟩
  · obtain ⟨m', stripped⟩ := Option.isSome_iff_exists.1 verified
    exact ⟨m', congrArg Prod.fst (applyAll_of_strip? signs stripped)⟩

/-- A text with two signatures, the second over the text and the first one. -/
theorem accepts_signed_twice :
    verify ⟨[.hash {}, .hash {}]⟩ { body :=
        "abc \x7bqZk+NkcGgWq6PiVxeFDCbJzQ2J0=\x7d \x7bR9Y8anSZINuIHcmqYai9VgYgJow=\x7d" } = true ∧
      ∃ m, (apply ⟨[.hash {}, .hash {}]⟩ m).1 = { body :=
        "abc \x7bqZk+NkcGgWq6PiVxeFDCbJzQ2J0=\x7d \x7bR9Y8anSZINuIHcmqYai9VgYgJow=\x7d" } := by
  have verified : verify ⟨[.hash {}, .hash {}]⟩ { body :=
      "abc \x7bqZk+NkcGgWq6PiVxeFDCbJzQ2J0=\x7d \x7bR9Y8anSZINuIHcmqYai9VgYgJow=\x7d" } = true := by
    decide +kernel
  exact ⟨verified, accepts_signed_only.2 _ _ (by decide) verified⟩

end Chain

end Syslog

import Syslog.Modifier
import Syslog.Proofs.Digest
import Syslog.Proofs.Search
import Syslog.Proofs.Text.Base64
import Syslog.Proofs.Text.Charset

/-!
# What signatures accept and cover

A signature is found by its last opening mark. Whatever is taken off a text was put there by
signing, byte for byte; and what was signed is found again where the opening mark is the last one,
which it is for every text as soon as the mark has a character that does not stand in Base64.

* `Signer.split?_eq_some_iff`, `Signer.strip?_eq_some_iff`: what is cut off, and what is accepted;
* `Signer.strip?_sign`: what is signed is accepted;
* `Signer.input_eq_iff`: with the ident a signature is over the ident and the text as one text,
  which does not tell where the one ends and the other begins;
* `Modifier.verify_resigned`: no other text is accepted with the signature, short of a collision.
-/

namespace Syslog

open Text

namespace Signer

variable {s : Signer} {m m' : Message} {body text : String} {tag : Bytes}

/-! ## 1. Splitting -/

/-- Behind the text and the opening mark no other opening mark stands, also none that begins in the
first one. -/
def Rightmost (s : Signer) (text : String) (tag : Bytes) : Prop :=
  ∀ front back, text.toList ++ s.opening.toList ++ Base64.encode tag =
    front ++ s.opening.toList ++ back → front.length ≤ text.toList.length

theorem toList_append_tag (s : Signer) (text : String) (tag : Bytes) :
    (s.append text tag).toList =
      text.toList ++ s.opening.toList ++ Base64.encode tag ++ s.closing.toList := by
  simp only [Signer.append, String.toList_append, String.toList_ofList]

/-- **A body is split where its last opening mark stands**, and into parts that make up the body. -/
theorem split?_eq_some_iff :
    s.split? body = some (text, tag) ↔ body = s.append text tag ∧ s.Rightmost text tag := by
  have cut : ∀ signed, (s.closing.toList.reverse.isPrefixOf? body.toList.reverse).map List.reverse =
      some signed ↔ signed ++ s.closing.toList = body.toList := fun signed =>
    List.isSuffixOf?_eq_some_iff_append_eq
  constructor
  · intro split
    obtain ⟨signed, closed, split⟩ := Option.bind_eq_some_iff.1 split
    obtain ⟨⟨before, encoded⟩, place, split⟩ := Option.bind_eq_some_iff.1 split
    obtain ⟨tag', decoded, same⟩ := Option.bind_eq_some_iff.1 split
    obtain ⟨rfl, rfl⟩ := Prod.mk.inj (Option.some.inj same)
    obtain rfl := Base64.decode_eq_some_iff.1 decoded
    obtain ⟨rfl, right⟩ := Search.splitLast?_eq_some_iff.1 place
    refine ⟨String.toList_inj.1 ?_, ?_⟩
    · rw [toList_append_tag, String.toList_ofList, ← (cut _).1 closed]
    · rwa [Rightmost, String.toList_ofList]
  · rintro ⟨rfl, right⟩
    refine Option.bind_eq_some_iff.2 ⟨_, (cut _).2 (toList_append_tag s text tag).symm, ?_⟩
    refine Option.bind_eq_some_iff.2
      ⟨(text.toList, Base64.encode tag), Search.splitLast?_eq_some_iff.2 ⟨rfl, right⟩, ?_⟩
    refine Option.bind_eq_some_iff.2 ⟨tag, Base64.decode_encode tag, ?_⟩
    rw [String.ofList_toList]

/-! ## 2. Signing and stripping -/

/-- **Only what signing gives is stripped**, and only where its opening mark is the last one. -/
theorem strip?_eq_some_iff :
    s.strip? m = some m' ↔ s.sign m' = m ∧ s.Rightmost m'.body (s.digest m' m'.body) := by
  constructor
  · intro stripped
    obtain ⟨⟨text, tag⟩, split, checked⟩ := Option.bind_eq_some_iff.1 stripped
    dsimp only at checked
    split at checked
    · rename_i same
      obtain rfl := Option.some.inj checked
      obtain rfl := beq_iff_eq.1 same
      obtain ⟨whole, right⟩ := split?_eq_some_iff.1 split
      refine ⟨?_, right⟩
      show { m with body := s.append text (s.digest m text) } = m
      rw [← whole]
    · cases checked
  · rintro ⟨rfl, right⟩
    have split : s.split? (s.sign m').body = some (m'.body, s.digest m' m'.body) :=
      split?_eq_some_iff.2 ⟨rfl, right⟩
    refine Option.bind_eq_some_iff.2 ⟨_, split, ?_⟩
    have same : s.digest (s.sign m') m'.body = s.digest m' m'.body := rfl
    dsimp only
    rw [same, beq_self_eq_true, if_pos rfl]
    rfl

/-- Stripping changes the body only. -/
theorem eq_of_strip? (stripped : s.strip? m = some m') : m' = { m with body := m'.body } := by
  obtain ⟨rfl, -⟩ := strip?_eq_some_iff.1 stripped
  rfl

/-- The opening mark has a character that does not stand in Base64. -/
def Marked (s : Signer) : Prop := ∃ c ∈ s.opening.toList, Base64.isWritten c = false

instance : Decidable s.Marked :=
  decidable_of_iff (s.opening.toList.any fun c => !Base64.isWritten c) (by simp [Marked])

/-- Behind such a mark Base64 has no room for another one. -/
theorem Marked.rightmost (marked : s.Marked) (text : String) (tag : Bytes) :
    s.Rightmost text tag := fun _ _ place =>
  Search.length_le_of_foreign marked (fun _ => Base64.isWritten_of_mem_encode) place

/-- **What is signed behind such a mark is stripped to what it was.** -/
theorem strip?_sign (marked : s.Marked) (m : Message) : s.strip? (s.sign m) = some m :=
  strip?_eq_some_iff.2 ⟨rfl, marked.rightmost _ _⟩

/-! ## 3. What is signed -/

/-- With the ident a signature is over the ident and the text as one text. -/
theorem input_of_ident (covers : s.includeIdent = true) (ident : Option String) (text : String) :
    s.input ident text = Utf8.encode (ident.getD "" ++ text) := by
  rw [input, if_pos covers, Utf8.encode_append]

theorem input_eq_iff (covers : s.includeIdent = true) {ident ident' : Option String}
    {text text' : String} :
    s.input ident text = s.input ident' text' ↔
      ident.getD "" ++ text = ident'.getD "" ++ text' := by
  rw [input_of_ident covers, input_of_ident covers]
  exact Utf8.encode_inj

/-- Signatures of one size behind texts: the same body has the same text and the same signature. -/
theorem append_inj {text' : String} {tag' : Bytes} (size : tag.length = tag'.length)
    (same : s.append text tag = s.append text' tag') : text = text' ∧ tag = tag' := by
  have whole := congrArg String.toList same
  rw [toList_append_tag, toList_append_tag] at whole
  have digits : (Base64.encode tag).length = (Base64.encode tag').length := by
    rw [Base64.length_encode, Base64.length_encode, size]
  obtain ⟨texts, tags⟩ := List.append_inj' (List.append_cancel_right whole) digits
  exact ⟨String.toList_inj.1 (List.append_cancel_right texts), Base64.encode_inj.1 tags⟩

/-- A signature that is put behind another text, or is sent under another ident, is taken only if
it is the signature of these. -/
theorem digest_of_strip?_append {size : Nat} (sizes : ∀ input, (s.tag input).length = size)
    (length : tag.length = size)
    (stripped : s.strip? { m with body := s.append m.body tag } = some m') :
    s.digest m m.body = tag := by
  obtain ⟨signed, -⟩ := strip?_eq_some_iff.1 stripped
  have bodies : s.append m'.body (s.digest m' m'.body) = s.append m.body tag :=
    congrArg Message.body signed
  obtain ⟨texts, tags⟩ := append_inj ((sizes _).trans length.symm) bodies
  have idents := congrArg Message.ident signed
  dsimp only [sign] at idents
  rw [← tags, digest, idents, texts]

/-- What signing puts behind the text. -/
def signature (s : Signer) (m : Message) : String :=
  s.opening ++ String.ofList (Base64.encode (s.digest m m.body)) ++ s.closing

theorem append_digest (s : Signer) (m : Message) (text : String) :
    s.append text (s.digest m m.body) = text ++ s.signature m := by
  simp only [append, signature, String.append_assoc]

/-- Two inputs that have the same signature. -/
def Collide (s : Signer) (input input' : Bytes) : Prop :=
  input ≠ input' ∧ s.tag input = s.tag input'

end Signer

/-- The ident, if there is one, and the body as one text. -/
def Message.identAndBody (m : Message) : String := m.ident.getD "" ++ m.body

/-! ## 4. Modifiers that sign -/

namespace Modifier

/-- The signer of a modifier that signs. -/
def signer? : Modifier → Option Signer
  | hash settings => some settings.signer
  | mac settings => some settings.signer
  | sequential _ | textCase _ => none

variable {modifier : Modifier} {s : Signer}

/-- What there is to know of a modifier that signs: it works as its signer, and all its signatures
are of one size. -/
theorem of_signer? (signs : modifier.signer? = some s) :
    (∀ m, modifier.apply m = (s.sign m, modifier)) ∧ modifier.strip? = s.strip? ∧
      ∃ size, ∀ input, (s.tag input).length = size := by
  cases modifier with
  | hash settings =>
    cases signs
    exact ⟨fun _ => rfl, rfl, settings.algorithm.size, settings.algorithm.length_digest⟩
  | mac settings =>
    cases signs
    exact ⟨fun _ => rfl, rfl, settings.algorithm.size,
      settings.algorithm.length_tag settings.key.bytes⟩
  | sequential counter => cases signs
  | textCase letters => cases signs

/-- **With the ident, a signature is over the ident and the body as one text, and pins that down.**
Behind another body, or under another ident, it is refused if the two together are another text,
unless the digest of both is the same. If they are the same text it is accepted. -/
theorem verify_resigned (signs : modifier.signer? = some s) (covers : s.includeIdent = true)
    (m m' : Message) :
    (s.input m.ident m.body = s.input m'.ident m'.body ↔ m.identAndBody = m'.identAndBody) ∧
      modifier.apply m = ({ m with body := m.body ++ s.signature m }, modifier) ∧
      (m.identAndBody ≠ m'.identAndBody →
        ¬ s.Collide (s.input m.ident m.body) (s.input m'.ident m'.body) →
        modifier.verify { m' with body := m'.body ++ s.signature m } = false) ∧
      (m.identAndBody = m'.identAndBody → s.Marked →
        modifier.verify { m' with body := m'.body ++ s.signature m } = true) := by
  obtain ⟨applied, stripped, size, sizes⟩ := of_signer? signs
  have inputs : s.input m.ident m.body = s.input m'.ident m'.body ↔
      m.identAndBody = m'.identAndBody := Signer.input_eq_iff covers
  rw [verify, stripped, ← Signer.append_digest s m m'.body]
  refine ⟨inputs, ?_, fun other apart => ?_, fun same marked => ?_⟩
  · rw [applied, Signer.sign, Signer.append_digest]
  · rw [Option.isSome_eq_false_iff, Option.isNone_iff_eq_none, Option.eq_none_iff_forall_ne_some]
    intro text accepted
    have same : s.digest m' m'.body = s.digest m m.body :=
      Signer.digest_of_strip?_append sizes (sizes _) accepted
    exact apart ⟨mt inputs.1 other, same.symm⟩
  · have digests : s.digest m m.body = s.digest m' m'.body := congrArg s.tag (inputs.2 same)
    have signed := Signer.strip?_sign marked m'
    rw [Signer.sign, ← digests] at signed
    rw [signed, Option.isSome_some]

/-- A changed text is refused. -/
theorem verify_changed_text :
    (hash {}).signer? = some ({} : HashSettings).signer ∧
      ({} : HashSettings).signer.includeIdent = true ∧
      (hash {}).verify
        { ident := some "app", body := "login no" ++
            ({} : HashSettings).signer.signature { ident := some "app", body := "login ok" } } =
          false := by
  have signs : (hash {}).signer? = some ({} : HashSettings).signer := rfl
  refine ⟨signs, rfl, (verify_resigned signs rfl { ident := some "app", body := "login ok" }
    { ident := some "app", body := "login no" }).2.2.1 (by decide) ?_⟩
  rintro ⟨-, same⟩
  revert same
  decide +kernel

/-- A letter that moves from the text to the ident is not noticed. -/
theorem verify_moved_letter :
    ({} : HashSettings).signer.includeIdent = true ∧
      ((some "a", "bc") : Option String × String) ≠ (some "ab", "c") ∧
      ({} : HashSettings).signer.input (some "a") "bc" =
        ({} : HashSettings).signer.input (some "ab") "c" ∧
      (hash {}).apply { ident := some "a", body := "bc" } =
        ({ ident := some "a", body := "bc \x7bqZk+NkcGgWq6PiVxeFDCbJzQ2J0=\x7d" }, hash {}) ∧
      (hash {}).verify { ident := some "ab", body := "c \x7bqZk+NkcGgWq6PiVxeFDCbJzQ2J0=\x7d" } =
        true := by
  decide +kernel

end Modifier

end Syslog

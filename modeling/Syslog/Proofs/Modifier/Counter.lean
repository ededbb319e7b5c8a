import Syslog.Modifier.Counter
import Syslog.Proofs.Search
import Syslog.Proofs.Text.Decimal

/-!
# Numbers behind texts

A number that is appended to a text is taken off again, whatever the text is: the mark of the number
is the last one, because a number has no room for another mark.

* `Numbering.isWritten_render`: what is written as a number passes for one;
* `Numbering.mark_foreign`: a mark does not consist of what numbers consist of, whatever the
  padding;
* `Numbering.strip?_append`, `Counter.strip?_number`: the number comes off again.
-/

namespace Syslog

open Text

namespace Numbering

variable (n : Numbering) (value : Nat)

/-- Can the character stand in a number? It is a digit, or the padding. -/
def isFigure (c : Char) : Bool := Decimal.isDigit c || c == n.padChar

theorem digits_suffix_render : Decimal.digits value <:+ (n.render value).toList := by
  unfold render
  split
  · rw [String.toList_ofList]
    exact List.suffix_append _ _
  · rw [String.toList_ofList]

theorem isFigure_of_mem_render {c : Char} (h : c ∈ (n.render value).toList) :
    n.isFigure c = true := by
  have digit : c ∈ Decimal.digits value → n.isFigure c = true := fun h => by
    rw [isFigure, Decimal.isDigit_of_mem_digits h, Bool.true_or]
  unfold render at h
  split at h
  · rw [String.toList_ofList, Decimal.padLeft] at h
    rcases List.mem_append.1 h with padding | inside
    · rw [isFigure, List.eq_of_mem_replicate padding, beq_self_eq_true, Bool.or_true]
    · exact digit inside
  · rw [String.toList_ofList] at h
    exact digit h

/-- What is written as a number passes for one. -/
theorem isWritten_render : n.isWritten (n.render value).toList = true := by
  obtain ⟨c, inside⟩ := List.exists_mem_of_ne_nil _ (Decimal.digits_ne_nil value)
  have digit : (n.render value).toList.any Decimal.isDigit = true :=
    List.any_eq_true.2 ⟨c, (n.digits_suffix_render value).subset inside,
      Decimal.isDigit_of_mem_digits inside⟩
  have figures : (n.render value).toList.all
      (fun c => Decimal.isDigit c || c == n.padChar) = true :=
    List.all_eq_true.2 fun c h => n.isFigure_of_mem_render value h
  rw [isWritten, digit, figures, Bool.and_self]

/-- The mark has a character that no number has: the padding is at most one of the two. -/
theorem mark_foreign : ∃ c ∈ mark, n.isFigure c = false := by
  by_cases space : n.padChar = ' '
  · refine ⟨'#', by decide, ?_⟩
    rw [isFigure, space]
    decide
  · refine ⟨' ', by decide, ?_⟩
    have other : (' ' == n.padChar) = false := beq_false_of_ne (Ne.symm space)
    rw [isFigure, other]
    decide

/-- **A number is taken off again**, whatever the text before it is. -/
theorem strip?_append (text : String) :
    n.strip? (text ++ String.ofList mark ++ n.render value) = some text := by
  have place : Search.splitLast? mark
      (text ++ String.ofList mark ++ n.render value).toList =
        some (text.toList, (n.render value).toList) := by
    rw [String.toList_append, String.toList_append, String.toList_ofList]
    refine Search.splitLast?_eq_some_iff.2 ⟨rfl, fun front back other => ?_⟩
    exact Search.length_le_of_foreign n.mark_foreign (fun c => n.isFigure_of_mem_render value) other
  rw [strip?, place]
  simp only [Option.bind_eq_bind, Option.bind_some, n.isWritten_render value, if_true,
    String.ofList_toList]

end Numbering

/-- The number that a counter appends is one of its numbering. -/
theorem Counter.strip?_number (c : Counter) (text : String) :
    c.numbering.strip? (c.number text).1 = some text :=
  c.numbering.strip?_append c.next text

end Syslog

import Mathlib.Data.List.Infix
import Ratchet.Text.Substitute

/-!
# Occurrences of a text

A text occurs in another where it stands in one piece. Behind a character that it
does not hold it starts anew, so an occurrence lies on one side of such a character.
Where a text does not occur, nothing is put in its place.

* `infix_append_cons`: an occurrence lies on one side of a foreign character.
* `substitute_of_not_infix`, `substitute_self`: nothing is replaced, or everything.
-/

namespace Ratchet.Text

variable {goal put cs : List Char}

/-- A goal occurs in a text when the text has it as an infix. -/
theorem occursIn_iff : occursIn goal cs = true ↔ goal <:+: cs := by
  induction cs with
  | nil => rw [occursIn, List.isEmpty_iff, List.infix_nil]
  | cons c cs ih =>
    rw [occursIn, Bool.or_eq_true, ih, List.isPrefixOf_iff_prefix, List.infix_cons_iff]

/-- **An occurrence lies on one side of a character that the text does not hold.** -/
theorem infix_append_cons {c : Char} (hc : c ∉ goal) (before after : List Char) :
    goal <:+: before ++ c :: after ↔ goal <:+: before ∨ goal <:+: after := by
  -- what of the text begins at the character is nothing
  have hnil : ∀ piece, (∀ d ∈ piece, d ∈ goal) → piece <+: c :: after → piece = [] := by
    intro piece hpiece hprefix
    obtain h | ⟨more, rfl, -⟩ := List.prefix_cons_iff.mp hprefix
    · exact h
    · exact absurd (hpiece c (.head _)) hc
  rw [List.infix_append_iff, List.infix_cons_iff]
  constructor
  · rintro (h | (h | h) | ⟨piece, more, rfl, hpiece, hmore⟩)
    · exact .inl h
    · rw [hnil goal (fun _ hd => hd) h]
      exact .inl List.nil_infix
    · exact .inr h
    · rw [hnil more (fun _ hd => List.mem_append_right _ hd) hmore, List.append_nil]
      exact .inl hpiece.isInfix
  · rintro (h | h)
    · exact .inl h
    · exact .inr (.inl (.inr h))

theorem infix_cons_of_notMem {c : Char} (hc : c ∉ goal) (hne : goal ≠ []) (after : List Char) :
    goal <:+: c :: after ↔ goal <:+: after := by
  rw [← List.nil_append (c :: after), infix_append_cons hc, List.infix_nil, or_iff_right hne]

/-- Nothing is put in the place of a text that does not occur. -/
theorem substitute_of_not_infix (h : ¬goal <:+: cs) : substitute goal put cs = cs := by
  induction cs with
  | nil => rw [substitute]
  | cons c cs ih =>
    obtain ⟨hhead, htail⟩ := not_or.mp (List.infix_cons_iff.not.mp h)
    rw [substitute, if_neg fun hprefix => hhead (List.isPrefixOf_iff_prefix.mp hprefix.2),
      ih htail]

/-- The goal itself is substituted. -/
theorem substitute_self (h : goal ≠ []) : substitute goal put goal = put := by
  cases goal with
  | nil => exact absurd rfl h
  | cons c cs =>
    rw [substitute, if_pos ⟨h, List.isPrefixOf_iff_prefix.mpr (List.prefix_refl _)⟩]
    simp [substitute]

end Ratchet.Text

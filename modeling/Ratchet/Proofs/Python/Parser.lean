import Ratchet.Python.Parser

/-!
# What parsers yield

`Yields source p P`: what a parser reads from any end of the tokens `source`
has the property `P`. A parser leaves an end of what it is given, so a parser
made of others yields what follows from what its parts yield.

* `Yields.bind`, `Yields.orElse`: one parser after another, and one in the
  place of another.
* `Yields.many`, `Yields.whileNext`, `Yields.commaList`: a parser repeated.
-/

namespace Ratchet.Python.Parser

variable {source : List Token} {α β : Type} {p : Parser α} {P : α → Prop} {Q : β → Prop}

/-- What a parser reads from any end of some tokens has a property. -/
def Yields (source : List Token) (p : Parser α) (P : α → Prop) : Prop :=
  ∀ tokens, tokens <:+ source → ∀ r, p.run tokens = some r → P r.1.1

namespace Yields

theorem pure {a : α} (h : P a) : Yields source (Pure.pure a) P := by
  intro tokens _ r hr
  cases hr
  exact h

theorem failure : Yields source (Alternative.failure : Parser α) P := by
  intro tokens _ r hr
  cases hr

/-- One parser, and another one that depends on what the first has read. -/
theorem bind {f : α → Parser β} (h : p.Yields source P) (hf : ∀ a, P a → (f a).Yields source Q) :
    (p >>= f).Yields source Q := by
  intro tokens htokens r hr
  obtain ⟨⟨⟨a, rest⟩, hrest⟩, hp, hr⟩ := Option.bind_eq_some_iff.mp hr
  obtain ⟨⟨result, hresult⟩, hq, hr⟩ := Option.bind_eq_some_iff.mp hr
  cases hr
  exact hf a (h tokens htokens _ hp) rest (hrest.trans htokens) _ hq

/-- One parser after another, whatever the first one reads. -/
theorem after {f : α → Parser β} (hf : ∀ a, (f a).Yields source Q) :
    (p >>= f).Yields source Q :=
  bind (P := fun _ => True) (fun _ _ _ _ => trivial) fun a _ => hf a

theorem map {f : α → β} (h : p.Yields source P) (hf : ∀ a, P a → Q (f a)) :
    (f <$> p).Yields source Q :=
  bind h fun a ha => pure (hf a ha)

/-- One parser in the place of another that fails. -/
theorem orElse {q : Parser α} (h : p.Yields source P) (hq : q.Yields source P) :
    (p <|> q).Yields source P := by
  intro tokens htokens r hr
  obtain hr | ⟨-, hr⟩ := Option.or_eq_some_iff.mp hr
  · exact h tokens htokens r hr
  · exact hq tokens htokens r hr

theorem ite {c : Prop} [Decidable c] {q : Parser α} (h : p.Yields source P)
    (hq : q.Yields source P) : (if c then p else q).Yields source P := by
  split
  · exact h
  · exact hq

/-- What is read where it is there. -/
theorem optional? (h : p.Yields source P) :
    (optional? p).Yields source fun found => ∀ a, found = some a → P a := by
  refine orElse (map h fun a ha b hb => ?_) (pure (by simp))
  cases hb
  exact ha

/-! ## Repeating -/

/-- What is repeated yields what is yielded once, some times. -/
theorem repeatUpTo (h : p.Yields source P) (n : Nat) :
    (repeatUpTo p n).Yields source fun found => ∀ a ∈ found, P a := by
  induction n with
  | zero => exact pure (by simp)
  | succ n ih =>
    refine bind (optional? h) fun found hfound => ?_
    cases found with
    | none => exact pure (by simp)
    | some a =>
      exact bind ih fun rest hrest => pure (List.forall_mem_cons.mpr ⟨hfound a rfl, hrest⟩)

theorem many (h : p.Yields source P) :
    (many p).Yields source fun found => ∀ a ∈ found, P a :=
  after fun tokens => repeatUpTo h tokens.length

theorem whileNext {test : Option Lexeme → Bool} (h : p.Yields source P) :
    (whileNext test p).Yields source fun found => ∀ a ∈ found, P a := by
  have hloop : ∀ n, (whileNext.loop test p n).Yields source fun found => ∀ a ∈ found, P a := by
    intro n
    induction n with
    | zero => exact pure (by simp)
    | succ n ih =>
      refine after fun next => ite ?_ (pure (by simp))
      exact bind h fun a ha => bind ih fun rest hrest =>
        pure (List.forall_mem_cons.mpr ⟨ha, hrest⟩)
  exact after fun tokens => hloop tokens.length

/-- A list with commas yields at least one item. -/
theorem commaList (h : p.Yields source P) :
    (commaList p).Yields source fun found => found.1 ≠ [] ∧ ∀ a ∈ found.1, P a := by
  refine bind h fun first hfirst => bind (many (after fun _ => h)) fun more hmore => ?_
  exact after fun _ => pure ⟨by simp, List.forall_mem_cons.mpr ⟨hfirst, hmore⟩⟩

end Yields

end Ratchet.Python.Parser

import Ratchet.Python.Token

/-!
# Words of a source text

Every word among the tokens of a source text is an identifier.

* `Scanner.GoesOn`: what the steps of a scan add.
* `Scanner.step_goesOn`, `Scanner.run_goesOn`: each step, and a whole run.
* `isProper_of_scan`: the words of a text.
-/

namespace Ratchet.Python.Token

/-- A token that is an identifier if it is a word. -/
def IsProper (t : Token) : Prop :=
  ∀ w, t.lexeme = .word w → Text.isIdentifier w.toList = true

variable {now : Indentation} {blocks blocks' : List Indentation} {lexemes : List Lexeme}

/-- A change of indentation makes indents or dedents. -/
theorem compareIndent_lexemes (h : compareIndent now blocks = some (lexemes, blocks')) :
    ∀ l ∈ lexemes, l = .indent ∨ l = .dedent := by
  induction blocks generalizing lexemes blocks' with
  | nil =>
    rw [compareIndent] at h
    split at h
    · split at h <;> cases h
      simp
    · split at h <;> cases h
      simp
  | cons top outer ih =>
    rw [compareIndent] at h
    split at h
    · split at h <;> cases h
      simp
    split at h
    · split at h <;> cases h
      simp
    · split at h
      · cases h
      · rename_i tokens rest _ hrest
        cases h
        intro l hl
        obtain rfl | hl := List.mem_cons.mp hl
        · exact .inr rfl
        · exact ih hrest l hl
      · cases h

namespace Scanner

variable {s s' s'' : Scanner} {letters cs rest : List Char}

/-- **A scan goes on** from one state to another: it has added tokens of which the
words are identifiers. -/
def GoesOn (s s' : Scanner) : Prop :=
  ∃ added, s'.tokens = added ++ s.tokens ∧ ∀ t ∈ added, t.IsProper

namespace GoesOn

theorem of_tokens_eq (h : s'.tokens = s.tokens) : GoesOn s s' :=
  ⟨[], h, by simp⟩

theorem refl (s : Scanner) : GoesOn s s :=
  of_tokens_eq rfl

theorem trans (h : GoesOn s s') (h' : GoesOn s' s'') : GoesOn s s'' := by
  obtain ⟨first, hfirst, hproper⟩ := h
  obtain ⟨more, hmore, hproper'⟩ := h'
  refine ⟨more ++ first, by rw [hmore, hfirst, List.append_assoc], ?_⟩
  exact List.forall_mem_append.mpr ⟨hproper', hproper⟩

theorem one {t : Token} (ht : t.IsProper) (h : s'.tokens = t :: s.tokens) : GoesOn s s' :=
  ⟨[t], h, List.forall_mem_singleton.mpr ht⟩

end GoesOn

/-- A line starts with marks of its indentation at most. -/
theorem startLine_goesOn (h : s.startLine = some s') : s.GoesOn s' := by
  obtain ⟨⟨now, line, rest⟩, -, h⟩ := Option.bind_eq_some_iff.mp h
  dsimp only at h
  split at h
  · cases h
    exact .of_tokens_eq rfl
  · cases h
    exact .of_tokens_eq rfl
  · obtain ⟨⟨lexemes, indents⟩, hindents, h⟩ := Option.bind_eq_some_iff.mp h
    cases h
    refine ⟨_, rfl, fun t ht w hw => ?_⟩
    obtain ⟨l, hl, rfl⟩ := List.mem_map.mp (List.mem_reverse.mp ht)
    obtain rfl | rfl := compareIndent_lexemes hindents l hl <;> cases hw

/-! ## Steps within a line -/

/-- A string goes on with a proper token. -/
theorem pushString_goesOn {quote : Char} (h : s.pushString letters quote cs = some s') :
    s.GoesOn s' := by
  obtain ⟨⟨body, rest⟩, -, h⟩ := Option.bind_eq_some_iff.mp h
  obtain ⟨literal, -, h⟩ := Option.bind_eq_some_iff.mp h
  cases h
  exact .one (t := ⟨.string literal, s.line⟩) nofun rfl

/-- A word is added only if it is an identifier. -/
theorem pushWord_goesOn (h : (if Text.isIdentifier letters then
    some (s.push (.word (.ofList letters)) rest) else none) = some s') : s.GoesOn s' := by
  obtain ⟨hletters, h⟩ := Option.ite_none_right_eq_some.mp h
  cases h
  refine .one (t := ⟨.word (.ofList letters), s.line⟩) (fun w hw => ?_) rfl
  cases hw
  rwa [String.toList_ofList]

/-- A number goes on with a proper token. -/
theorem pushNumber_goesOn {read : Option (Bool × List Char)}
    (h : (read.map fun (imaginary, rest) => s.push (.number imaginary) rest) = some s') :
    s.GoesOn s' := by
  obtain ⟨⟨imaginary, rest⟩, -, rfl⟩ := Option.map_eq_some_iff.mp h
  exact .one (t := ⟨.number imaginary, s.line⟩) nofun rfl

/-- A sign goes on with a proper token. -/
theorem pushSign_goesOn (h : (do
    let (text, rest) ← sign? cs
    let brackets ← nest s.brackets text
    return { s.push (.sign text) rest with brackets }) = some s') : s.GoesOn s' := by
  obtain ⟨⟨text, rest⟩, -, h⟩ := Option.bind_eq_some_iff.mp h
  obtain ⟨brackets, -, h⟩ := Option.bind_eq_some_iff.mp h
  cases h
  exact .one (t := ⟨.sign text, s.line⟩) nofun rfl

/-- A step within a line adds one token at most. -/
theorem step_goesOn (h : s.step = some s') : s.GoesOn s' := by
  unfold step at h
  split at h
  · cases h
  rename_i c cs _
  split at h
  · cases h
    exact .of_tokens_eq rfl
  split at h
  · cases h
    exact .of_tokens_eq rfl
  split at h
  · -- only outside brackets does a line end here
    dsimp only at h
    split at h <;> cases h
    · exact .one (t := ⟨.newline, s.line⟩) nofun rfl
    · exact .of_tokens_eq rfl
  split at h
  · split at h <;> cases h
    exact .of_tokens_eq rfl
  split at h
  · -- what starts like a name may be the letters before a quote
    dsimp only at h
    split at h
    · split at h
      · exact pushString_goesOn h
      · exact pushWord_goesOn h
    · exact pushWord_goesOn h
  split at h
  · exact pushNumber_goesOn h
  split at h
  · exact pushNumber_goesOn h
  split at h
  · exact pushString_goesOn h
  · exact pushSign_goesOn h

/-- **A whole run goes on** from its first state. -/
theorem run_goesOn {budget : Nat} (h : run budget s = some s') : s.GoesOn s' := by
  induction budget generalizing s with
  | zero => cases h
  | succ budget ih =>
    rw [run] at h
    split at h
    · split at h <;> cases h
      exact .refl _
    split at h
    · obtain ⟨next, hnext, hrun⟩ := Option.bind_eq_some_iff.mp h
      exact (startLine_goesOn hnext).trans (ih hrun)
    · obtain ⟨next, hnext, hrun⟩ := Option.bind_eq_some_iff.mp h
      exact (step_goesOn hnext).trans (ih hrun)

end Scanner

/-- **The words of a source text are identifiers.** -/
theorem isProper_of_scan {source : List Char} {tokens : List Token}
    (h : scan source = some tokens) : ∀ t ∈ tokens, t.IsProper := by
  obtain ⟨s, hrun, h⟩ := Option.bind_eq_some_iff.mp h
  cases h
  obtain ⟨added, hadded, hproper⟩ := Scanner.run_goesOn hrun
  intro t ht
  obtain ht | ht := List.mem_append.mp ht
  · rw [List.mem_reverse, hadded, List.append_nil] at ht
    exact hproper t ht
  · obtain ⟨-, -, rfl⟩ := List.mem_map.mp ht
    intro w hw
    cases hw

end Ratchet.Python.Token

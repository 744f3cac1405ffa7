import Ratchet.Proofs.Text.Substitute
import Ratchet.Shell.Words

/-!
# Quoted words are read back

A word as it is quoted in a command is read back as that word, whatever it holds, and
the words of a command that was put together from quoted ones are those words. Quoting
adds nothing but quotes, so a text without quotes occurs in a quoted word exactly if it
occurs in the word.

* `wordsFrom_quote`: one quoted word, with what follows it.
* `words_line`, `words_line_space`: a command of quoted words, with what follows it.
* `infix_quote`, `infix_line`: where a text without quotes occurs in it.
-/

namespace Ratchet.Shell

variable {c : Char} {word goal rest : List Char} {ws : List (List Char)}

attribute [local simp] wordsFrom

/-! ## One word -/

theorem ne_of_isPlain {d : Char} (h : isPlain c = true) (hd : isPlain d = false) : c ≠ d := by
  rintro rfl
  exact nomatch h.symm.trans hd

theorem isSeparator_of_isPlain (h : isPlain c = true) : isSeparator c = false := by
  have hblank : c ≠ ' ' := ne_of_isPlain h (by decide)
  have htab : c ≠ '\t' := ne_of_isPlain h (by decide)
  have hreturn : c ≠ '\r' := ne_of_isPlain h (by decide)
  have hfeed : c ≠ '\n' := ne_of_isPlain h (by decide)
  simp [isSeparator, hblank, htab, hreturn, hfeed]

theorem enter_of_isPlain (h : isPlain c = true) : enter c = (.word, [c]) := by
  rw [enter, if_neg (ne_of_isPlain h (by decide)), if_neg (ne_of_isPlain h (by decide)),
    if_neg (ne_of_isPlain h (by decide))]

/-- Plain characters go on with a word. -/
theorem wordsFrom_plain (h : word.all isPlain = true) (current : List Char) :
    wordsFrom .word current (word ++ rest) = wordsFrom .word (current ++ word) rest := by
  induction word generalizing current with
  | nil => simp
  | cons c word ih =>
    obtain ⟨hc, hword⟩ := Bool.and_eq_true_iff.mp (List.all_cons ▸ h)
    rw [List.cons_append, wordsFrom, isSeparator_of_isPlain hc, enter_of_isPlain hc]
    simpa using ih hword (current ++ [c])

/-- How a character is written in single quotes. -/
def guarded (c : Char) : List Char :=
  if c = '\'' then "'\"'\"'".toList else [c]

theorem enquote_eq (word : List Char) :
    enquote word = '\'' :: (word.flatMap guarded ++ ['\'']) := rfl

/-- In single quotes a word goes on to the quote that closes it. -/
theorem wordsFrom_single (word current : List Char) :
    wordsFrom .single current (word.flatMap guarded ++ '\'' :: rest) =
      wordsFrom .word (current ++ word) rest := by
  induction word generalizing current with
  | nil => simp
  | cons c word ih =>
    have hstep : wordsFrom .single current (guarded c ++ (word.flatMap guarded ++ '\'' :: rest)) =
        wordsFrom .single (current ++ [c]) (word.flatMap guarded ++ '\'' :: rest) := by
      by_cases hc : c = '\''
      · subst hc
        simp [guarded, isSeparator, enter]
      · simp [guarded, hc]
    rw [List.flatMap_cons, List.append_assoc, hstep, ih, List.append_assoc]
    rfl

/-- **A quoted word is read back.** -/
theorem wordsFrom_quote (word current rest : List Char) :
    wordsFrom .between current (quote word ++ rest) = wordsFrom .word word rest := by
  unfold quote
  split
  · rename_i hnil
    subst hnil
    simp [isSeparator, enter]
  split
  · rename_i hne hplain
    obtain ⟨c, word, rfl⟩ := List.exists_cons_of_ne_nil hne
    obtain ⟨hc, hword⟩ := Bool.and_eq_true_iff.mp (List.all_cons ▸ hplain)
    rw [List.cons_append, wordsFrom, isSeparator_of_isPlain hc, enter_of_isPlain hc]
    exact wordsFrom_plain hword [c]
  · rw [enquote_eq, List.cons_append, List.append_assoc, wordsFrom]
    exact wordsFrom_single word []

/-! ## All words of a command -/

/-- A command that is put together from words. -/
def line (ws : List (List Char)) : List Char :=
  List.intercalate [' '] (ws.map quote)

theorem line_cons_cons (word next : List Char) (ws : List (List Char)) :
    line (word :: next :: ws) = quote word ++ ' ' :: line (next :: ws) := by
  simp [line, List.intercalate_cons_cons]

theorem wordsFrom_word_space (word : List Char) :
    wordsFrom .word word (' ' :: rest) = (wordsFrom .between [] rest).map (word :: ·) := by
  rw [wordsFrom]
  rfl

/-- A command of some words is read up to the last of them, which is still under way. -/
theorem wordsFrom_line (hne : ws ≠ []) (rest : List Char) :
    wordsFrom .between [] (line ws ++ rest) =
      (wordsFrom .word (ws.getLast hne) rest).map (ws.dropLast ++ ·) := by
  induction ws with
  | nil => exact absurd rfl hne
  | cons word ws ih =>
    cases ws with
    | nil =>
      rw [line, List.map_singleton, List.intercalate_singleton, wordsFrom_quote]
      cases h : wordsFrom .word word rest <;> rw [List.getLast_singleton, h] <;> rfl
    | cons next ws =>
      have hnext : next :: ws ≠ [] := List.cons_ne_nil next ws
      rw [line_cons_cons, List.append_assoc, List.cons_append, wordsFrom_quote,
        wordsFrom_word_space, ih hnext, List.getLast_cons hnext, List.dropLast_cons_of_ne_nil hnext]
      cases wordsFrom .word ((next :: ws).getLast hnext) rest <;> rfl

/-- **The words of a command** that is put together from some are these. -/
theorem words_line (hne : ws ≠ []) : words (line ws) = .ok ws := by
  have h := wordsFrom_line hne []
  rw [List.append_nil, wordsFrom] at h
  rw [words, h, Except.map, List.dropLast_append_getLast]

/-- What stands behind such a command is read by itself. -/
theorem words_line_space (hne : ws ≠ []) (rest : List Char) :
    words (line ws ++ ' ' :: rest) = (words rest).map (ws ++ ·) := by
  have hlast : ∀ more, ws.dropLast ++ ws.getLast hne :: more = ws ++ more := by
    intro more
    rw [← List.singleton_append, ← List.append_assoc, List.dropLast_append_getLast]
  rw [words, wordsFrom_line hne, wordsFrom_word_space, words]
  cases wordsFrom .between [] rest with
  | error fault => rfl
  | ok more => exact congrArg Except.ok (hlast more)

/-! ## Texts without quotes -/

section

variable (hsingle : '\'' ∉ goal) (hdouble : '"' ∉ goal) (hne : goal ≠ [])

include hsingle hdouble hne

/-- A goal without quotes is in a guarded word when it is in the word. -/
theorem infix_guarded (before word : List Char) :
    goal <:+: before ++ word.flatMap guarded ↔ goal <:+: before ++ word := by
  induction word generalizing before with
  | nil => rfl
  | cons c word ih =>
    rw [List.flatMap_cons, guarded]
    split
    · rename_i hc
      subst hc
      have hword : goal <:+: word.flatMap guarded ↔ goal <:+: word := ih []
      change goal <:+: before ++ '\'' :: '"' :: '\'' :: '"' :: '\'' :: word.flatMap guarded ↔ _
      simp only [Text.infix_append_cons hsingle, Text.infix_cons_of_notMem hsingle hne,
        Text.infix_cons_of_notMem hdouble hne, hword]
    · have h := ih (before ++ [c])
      rwa [List.append_assoc, List.append_assoc] at h

/-- A text without quotes occurs in a quoted word exactly if it occurs in the word. -/
theorem infix_quote : goal <:+: quote word ↔ goal <:+: word := by
  unfold quote
  split
  · rename_i hnil
    rw [hnil, Text.infix_cons_of_notMem hsingle hne, Text.infix_cons_of_notMem hsingle hne]
  split
  · rfl
  · have hguarded := infix_guarded hsingle hdouble hne [] word
    rw [enquote_eq, Text.infix_cons_of_notMem hsingle hne, Text.infix_append_cons hsingle,
      List.infix_nil, or_iff_left hne]
    exact hguarded

/-- **Where a text without quotes and blanks occurs** in a command: in one of its words. -/
theorem infix_line (hblank : ' ' ∉ goal) : goal <:+: line ws ↔ ∃ word ∈ ws, goal <:+: word := by
  induction ws with
  | nil => simp [line, hne]
  | cons word ws ih =>
    cases ws with
    | nil =>
      rw [line, List.map_singleton, List.intercalate_singleton, infix_quote hsingle hdouble hne]
      simp
    | cons next ws =>
      rw [line_cons_cons, Text.infix_append_cons hblank, infix_quote hsingle hdouble hne, ih]
      simp

end

end Ratchet.Shell

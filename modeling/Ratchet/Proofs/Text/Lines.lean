import Mathlib.Data.List.Basic
import Ratchet.Text.Digit
import Ratchet.Text.Lines
import Ratchet.Text.Word

/-!
# Texts and their lines

A text begins with the first of its lines, and what follows that line begins
with a line end. No line end belongs to a word, so a place inside a line has
the same neighbours in the line as in the text. Two texts with a line feed between
them have the lines of the first and then those of the second.

* `prefix_of_linePieces`: what starts a text starts its first line.
* `linePieces_append`, `countP_lines_append`: the lines of two texts.
-/

namespace Ratchet.Text

variable {t p m a b : List Char} {ps : List (List Char)} {c : Char} {q : List Char → Bool}

attribute [local simp] linePieces

/-- The rest of a text behind its first line. -/
def StartsNextLine (rest : List Char) : Prop :=
  ∀ e ∈ rest.head?, isLineEnd e = true

theorem linePieces_ne_nil (t : List Char) : linePieces t ≠ [] := by
  fun_cases linePieces t <;> simp

/-- How the lines of a longer text come about when its first character ends no line. -/
theorem linePieces_cons (hc : isLineEnd c = false) (h : linePieces t = p :: ps) :
    linePieces (c :: t) = (c :: p) :: ps := by
  have hne : c ≠ '\r' := by
    rintro rfl
    cases hc
  rw [linePieces, if_neg (by simp [hc]), h]
  exact fun cs hr => absurd hr hne

theorem exists_linePieces (t : List Char) : ∃ p ps, linePieces t = p :: ps :=
  List.exists_cons_of_ne_nil (linePieces_ne_nil t)

/-- After a line comes its end. -/
theorem exists_rest (h : linePieces t = p :: ps) : ∃ rest, t = p ++ rest ∧ StartsNextLine rest := by
  induction t generalizing p ps with
  | nil =>
    cases h
    exact ⟨[], rfl, by simp [StartsNextLine]⟩
  | cons c t ih =>
    cases hc : isLineEnd c with
    | true =>
      have hp : p = [] := by
        unfold linePieces at h
        split at h <;> simp_all
      subst hp
      exact ⟨c :: t, rfl, by simp [StartsNextLine, hc]⟩
    | false =>
      obtain ⟨q, qs, hq⟩ := exists_linePieces t
      rw [linePieces_cons hc hq] at h
      cases h
      obtain ⟨rest, rfl, hrest⟩ := ih hq
      exact ⟨rest, rfl, hrest⟩

/-- **A text without line ends that starts the text starts its first line.** -/
theorem prefix_of_linePieces (h : linePieces t = p :: ps) (hm : ∀ c ∈ m, isLineEnd c = false) :
    m <+: t ↔ m <+: p := by
  obtain ⟨rest, rfl, hrest⟩ := exists_rest h
  refine ⟨fun hpre => ?_, fun hpre => hpre.trans (List.prefix_append p rest)⟩
  rcases List.prefix_or_prefix_of_prefix hpre (List.prefix_append p rest) with hmp | ⟨r, rfl⟩
  · exact hmp
  · cases r with
    | nil => simp
    | cons e r =>
      have he : isLineEnd e = true := by
        obtain ⟨post, hpost⟩ := hpre
        refine hrest e ?_
        simp only [List.append_assoc, List.append_cancel_left_eq, List.cons_append] at hpost
        rw [← hpost]
        rfl
      have := hm e (by simp)
      simp [he] at this

/-! ## Two texts -/

/-- How the lines of a longer text come about when its first character ends a line by
itself. -/
theorem linePieces_of_isLineEnd (hc : isLineEnd c = true)
    (hpair : c = '\r' → t.head? ≠ some '\n') : linePieces (c :: t) = [] :: linePieces t := by
  rw [linePieces, if_pos hc]
  rintro cs rfl rfl
  exact hpair rfl rfl

/-- **The lines of two texts**, when the second one starts with a line end, which is
not half of one that the first has begun. -/
theorem linePieces_append (hb : linePieces b = [] :: ps)
    (hpair : a.getLast? = some '\r' → b.head? ≠ some '\n') :
    linePieces (a ++ b) = linePieces a ++ ps := by
  -- the condition on the last character passes on to the rest of the first text
  have hrest : ∀ {c : Char} {cs : List Char},
      ((c :: cs).getLast? = some '\r' → b.head? ≠ some '\n') →
      cs.getLast? = some '\r' → b.head? ≠ some '\n' := by
    intro c cs hpair hlast
    exact hpair (by rw [List.getLast?_cons, hlast]; rfl)
  fun_induction linePieces a with
  | case1 => exact hb
  | case2 cs ih =>
    rw [List.cons_append, List.cons_append, linePieces, ih (hrest (hrest hpair))]
    rfl
  | case3 c cs hsingle hc ih =>
    rw [List.cons_append, linePieces_of_isLineEnd hc, ih (hrest hpair)]
    · rfl
    · rintro rfl
      cases cs with
      | nil => exact hpair rfl
      | cons d cs => exact fun hd => hsingle cs rfl (by cases hd; rfl)
  | case4 c cs _ hc hnil => exact absurd hnil (linePieces_ne_nil cs)
  | case5 c cs _ hc p qs hcs ih =>
    have hlonger : linePieces (cs ++ b) = p :: (qs ++ ps) := by
      rw [ih (hrest hpair), hcs]
      rfl
    rw [List.cons_append, linePieces_cons (by simpa using hc) hlonger]
    rfl

/-- The lines of a text are its pieces, but for an empty one at the end. -/
theorem linePieces_eq_or (t : List Char) :
    linePieces t = lines t ∨ linePieces t = lines t ++ [[]] := by
  rw [lines]
  split
  · rename_i hlast
    obtain ⟨init, hinit⟩ := List.getLast?_eq_some_iff.mp hlast
    exact .inr (by rw [hinit, List.dropLast_concat])
  · exact .inl rfl

theorem countP_lines (hq : q [] = false) : (lines t).countP q = (linePieces t).countP q := by
  obtain h | h := linePieces_eq_or t
  · rw [h]
  · simp [h, hq]

/-- **A line feed between two texts leaves their lines as they are.** Where the first
one ends in a carriage return, the two are one line end, and an empty line less. -/
theorem countP_lines_append (hq : q [] = false) :
    (lines (a ++ '\n' :: b)).countP q = (lines a).countP q + (lines b).countP q := by
  rw [countP_lines hq, countP_lines hq, countP_lines hq]
  by_cases hlast : a.getLast? = some '\r'
  · obtain ⟨init, rfl⟩ := List.getLast?_eq_some_iff.mp hlast
    have hreturn : linePieces ['\r'] = [] :: [[]] := rfl
    have hboth : linePieces ('\r' :: '\n' :: b) = [] :: linePieces b := by simp
    rw [List.append_assoc, List.singleton_append, linePieces_append hboth (by simp),
      linePieces_append hreturn (by simp)]
    simp [hq]
  · have hfeed : linePieces ('\n' :: b) = [] :: linePieces b :=
      linePieces_of_isLineEnd (by decide) (fun h => absurd h (by decide))
    rw [linePieces_append hfeed (fun h => absurd h hlast), List.countP_append]

/-! ## Line ends -/

theorem eq_false_of_isLineEnd {q : Char → Bool}
    (hall : (['\n', '\x0b', '\x0c', '\r', '\x1c', '\x1d', '\x1e', '\u0085', '\u2028',
      '\u2029'].all fun c => !q c) = true) (h : isLineEnd c = true) : q c = false := by
  have := List.all_eq_true.mp hall c (List.contains_iff_mem.mp h)
  simpa using this

theorem isWord_of_isLineEnd (h : isLineEnd c = true) : isWord c = false :=
  eq_false_of_isLineEnd (by decide +kernel) h

theorem isDigit_of_isLineEnd (h : isLineEnd c = true) : isDigit c = false :=
  eq_false_of_isLineEnd (by decide) h

end Ratchet.Text

import Mathlib.Data.List.Chain
import Mathlib.Tactic.IntervalCases
import Mathlib.Tactic.Ring
import Mathlib.Tactic.GCongr
import Mathlib.Algebra.Order.Monoid.Unbundled.Pow
import Ratchet.Json.Reader
import Ratchet.Json.Writer
import Ratchet.Proofs.Text.Plain

/-!
# Texts read back

A text between quotes is read back as it was written, lone halves of surrogate
pairs included. Only a first half that stands right before a second one would
not come back: the reader takes the two escape sequences for one character. No
text that was read holds such a pair.
-/

namespace Ratchet.Json

/-- Whether a code point is the first half of a surrogate pair. -/
def IsFirstHalf (n : Nat) : Prop := 0xD800 ≤ n ∧ n < 0xDC00

/-- Whether a code point is the second half of a surrogate pair. -/
def IsSecondHalf (n : Nat) : Prop := 0xDC00 ≤ n ∧ n < 0xE000

/-- A text that reads back: of code points, and without a surrogate pair in two
halves. -/
structure Legible (t : Text) : Prop where
  /-- Every code point is one. -/
  bounded : ∀ c ∈ t, c < 0x110000
  /-- No first half stands before a second one. -/
  apart : t.IsChain fun c d => ¬ (IsFirstHalf c ∧ IsSecondHalf d)

variable {t : Text} {c n : Nat} {rest : List Char}

theorem toNat_ofNat (h : n.isValidChar) : (Char.ofNat n).toNat = n := by
  rw [Char.ofNat, dif_pos h]
  rfl

theorem legible_nil : Legible [] :=
  ⟨by simp, .nil⟩

theorem Legible.tail (h : Legible (c :: t)) : Legible t :=
  ⟨fun d hd => h.bounded d (.tail _ hd), h.apart.tail⟩

/-- A character is a code point outside the surrogates. -/
theorem toNat_lt (ch : Char) :
    ch.toNat < 0x110000 ∧ ¬ IsFirstHalf ch.toNat ∧ ¬ IsSecondHalf ch.toNat := by
  have hvalid : ch.toNat.isValidChar := ch.valid
  unfold IsFirstHalf IsSecondHalf
  unfold Nat.isValidChar at hvalid
  omega

/-- The code point of a character is no first half of a surrogate pair. -/
theorem codeOf_lt (ch : Char) : codeOf ch < 0x110000 ∧ ¬ IsFirstHalf (codeOf ch) := by
  obtain ⟨hlt, hfirst, -⟩ := toNat_lt ch
  unfold codeOf
  split
  · rename_i hbyte
    simp only [isByte, Bool.and_eq_true, decide_eq_true_eq] at hbyte
    unfold IsFirstHalf
    omega
  · exact ⟨hlt, hfirst⟩

/-- The code points of a string read back: none of them is half of a pair. -/
theorem legible_textOf (s : String) : Legible (textOf s) := by
  have hchar : ∀ c ∈ textOf s, c < 0x110000 ∧ ¬ IsFirstHalf c := by
    intro c hc
    obtain ⟨ch, -, rfl⟩ := List.mem_map.mp hc
    exact codeOf_lt ch
  have hpair : (textOf s).Pairwise fun c d => ¬ (IsFirstHalf c ∧ IsSecondHalf d) :=
    List.pairwise_of_forall_mem_list fun c hc _ _ hcd => (hchar c hc).2 hcd.1
  exact ⟨fun c hc => (hchar c hc).1, hpair.isChain⟩

/-- No character is half of a surrogate pair. -/
theorem isSurrogate_toNat (ch : Char) : isSurrogate ch.toNat = false := by
  obtain ⟨-, hfirst, hsecond⟩ := toNat_lt ch
  simp only [IsFirstHalf, IsSecondHalf] at hfirst hsecond
  simp only [isSurrogate, Bool.and_eq_false_iff, decide_eq_false_iff_not]
  omega

/-- The code point of a character is half of a surrogate pair if it stands for a byte. -/
theorem isSurrogate_codeOf (ch : Char) : isSurrogate (codeOf ch) = isByte ch := by
  unfold codeOf
  split
  · rename_i hbyte
    rw [hbyte]
    simp only [isByte, Bool.and_eq_true, decide_eq_true_eq] at hbyte
    simp only [isSurrogate, Bool.and_eq_true, decide_eq_true_eq]
    omega
  · rename_i hbyte
    rw [isSurrogate_toNat, eq_false_of_ne_true hbyte]

/-- A character is told by its code point. -/
theorem charOf?_codeOf (ch : Char) : charOf? (codeOf ch) = some ch := by
  unfold codeOf
  split
  · rename_i hbyte
    simp only [isByte, Bool.and_eq_true, decide_eq_true_eq] at hbyte
    have hback : ch.toNat - 0x380 + 0x380 = ch.toNat := by omega
    rw [charOf?, if_pos (by simp; omega), hback, Char.ofNat_toNat]
  · have hsurrogate := isSurrogate_toNat ch
    have hbyte : ¬ (0xDC80 ≤ ch.toNat && ch.toNat < 0xDD00) = true := by
      simp only [isSurrogate, Bool.and_eq_false_iff, decide_eq_false_iff_not] at hsurrogate
      simp only [Bool.and_eq_true, decide_eq_true_eq]
      omega
    rw [charOf?, if_neg hbyte, hsurrogate, if_neg Bool.false_ne_true, Char.ofNat_toNat]

/-- A string is told by its code points. -/
theorem stringOf?_textOf (s : String) : stringOf? (textOf s) = some s := by
  have hchars : charOf? ∘ codeOf = some := funext charOf?_codeOf
  have hsame : s.toList.mapM (some : Char → Option Char) = some s.toList :=
    List.mapM_pure.trans (congrArg some (List.map_id _))
  rw [stringOf?, textOf, List.mapM_map, hchars, hsame, Option.map_some, String.ofList_toList]

theorem textOf_injective : Function.Injective textOf := fun s s' h =>
  Option.some.inj <| (stringOf?_textOf s).symm.trans <|
    (congrArg stringOf? h).trans (stringOf?_textOf s')

theorem hexDigit?_digitChar (h : n < 16) : hexDigit? (Nat.digitChar n) = some n := by
  interval_cases n <;> rfl

/-- Four digits are read as the number that they write. -/
theorem hexFour?_hexFour (h : n < 0x10000) : hexFour? (hexFour n ++ rest) = some n := by
  have htake : (hexFour n ++ rest).take 4 = hexFour n := by
    rw [List.take_append_of_le_length (by simp [hexFour])]
    rfl
  rw [hexFour?, htake]
  have h₁ := hexDigit?_digitChar (n := n / 4096 % 16) (by omega)
  have h₂ := hexDigit?_digitChar (n := n / 256 % 16) (by omega)
  have h₃ := hexDigit?_digitChar (n := n / 16 % 16) (by omega)
  have h₄ := hexDigit?_digitChar (n := n % 16) (by omega)
  simp only [hexFour, List.map_cons, List.map_nil, List.foldlM_cons, List.foldlM_nil, h₁, h₂, h₃,
    h₄, Option.map_some, bind, Option.bind, pure]
  congr 1
  omega

/-- The ways in which a code point is written. -/
inductive Spelling (c : Nat) : List Char → Prop where
  /-- A backslash and a letter. -/
  | letter (l : Char) (hplain : Text.IsPlain l) (hu : l ≠ 'u') (hl : escaped? l = some c) :
      Spelling c ['\\', l]
  /-- The character itself. -/
  | plain (ch : Char) (hplain : Text.IsPlain ch) (hquote : ch ≠ '"') (hslash : ch ≠ '\\')
      (hprint : 0x1F < ch.toNat) (hch : ch.toNat = c) : Spelling c [ch]
  /-- One escape sequence. -/
  | escape (hc : c < 0x10000) : Spelling c (escapeFour c)
  /-- An escape sequence for each half of a pair. -/
  | pair (hc : 0x10000 ≤ c) : Spelling c
      (escapeFour (0xD800 + (c - 0x10000) / 0x400) ++ escapeFour (0xDC00 + (c - 0x10000) % 0x400))

/-- A code point is written in one of its spellings. -/
theorem spelling_writeCodePoint (c : Nat) : Spelling c (writeCodePoint c) := by
  unfold writeCodePoint
  iterate 7
    split
    · rename_i hc
      subst hc
      exact .letter _ (by decide) (by decide) rfl
  split
  · rename_i hquote hslash _ _ _ _ _ hc
    have hch : (Char.ofNat c).toNat = c := toNat_ofNat (.inl (by omega))
    refine .plain _ ⟨by omega, ?_⟩ ?_ ?_ (by omega) hch
    · intro h
      rw [h] at hch
      exact absurd hch (by simp; omega)
    · intro h
      exact hquote (by rw [← hch, h]; rfl)
    · intro h
      exact hslash (by rw [← hch, h]; rfl)
  split
  · exact .escape ‹_›
  · exact .pair (by omega)

/-! ## Reading -/

@[simp] theorem length_hexFour (n : Nat) : (hexFour n).length = 4 := rfl

theorem secondHalf_escapeFour (hn : n < 0x10000) (hrest : rest ≠ []) :
    secondHalf (escapeFour n ++ rest) = some (some n) := by
  have hlen := List.length_pos_iff.mpr hrest
  simp only [escapeFour, List.cons_append, secondHalf]
  rw [if_neg (by simp; omega), hexFour?_hexFour hn]

/-- If a code point is a first half, what follows is not taken for a second one. -/
def StandsApart (c : Nat) (rest : List Char) : Prop :=
  IsFirstHalf c → secondHalf rest = none ∨
    ∃ d, secondHalf rest = some (some d) ∧ ¬ IsSecondHalf d

/-- The code points of a text that reads back stand apart. -/
theorem standsApart_write (h : Legible (c :: t)) (rest : List Char) :
    StandsApart c (t.flatMap writeCodePoint ++ '"' :: rest) := by
  intro hhigh
  cases t with
  | nil => exact .inl rfl
  | cons d t =>
    have hlow : ¬ IsSecondHalf d := fun hlow =>
      (List.isChain_cons_cons.mp h.apart).1 ⟨hhigh, hlow⟩
    rw [List.flatMap_cons, List.append_assoc]
    generalize hmore : t.flatMap writeCodePoint ++ '"' :: rest = more
    have hne : more ≠ [] := by simp [← hmore]
    have hspelling := spelling_writeCodePoint d
    generalize writeCodePoint d = w at hspelling
    cases hspelling with
    | letter l hplain hu hl =>
      left
      simp only [List.cons_append, List.nil_append]
      unfold secondHalf
      split
      · rename_i heq
        simp only [List.cons.injEq] at heq
        exact absurd heq.2.1 hu
      · rfl
    | plain ch hplain hquote hslash hprint hch =>
      left
      simp only [List.cons_append, List.nil_append]
      unfold secondHalf
      split
      · rename_i heq
        simp only [List.cons.injEq] at heq
        exact absurd heq.1 hslash
      · rfl
    | escape hd => exact .inr ⟨d, secondHalf_escapeFour hd hne, hlow⟩
    | pair hd' =>
      have hd := h.bounded d (.tail _ (.head _))
      refine .inr ⟨0xD800 + (d - 0x10000) / 0x400, ?_, ?_⟩
      · rw [List.append_assoc]
        exact secondHalf_escapeFour (by omega) (by simp [escapeFour])
      · unfold IsSecondHalf
        omega

/-- An escape of four digits is read as its code point. -/
theorem unicodeEscape_escape (place : Nat) (hn : n < 0x10000) (hrest : rest ≠ [])
    (hapart : StandsApart n rest) :
    unicodeEscape place (hexFour n ++ rest) = .ok (n, 4) := by
  have hlen := List.length_pos_iff.mpr hrest
  have hdrop : (hexFour n ++ rest).drop 4 = rest := List.drop_left' rfl
  rw [unicodeEscape, if_neg (by simp; omega), hexFour?_hexFour hn]
  dsimp only
  split
  · rename_i hhigh
    rw [hdrop]
    obtain hnone | ⟨d, hd, hlow⟩ := hapart hhigh
    · rw [hnone]
    · rw [hd]
      exact if_neg hlow
  · rfl

/-- A pair of escapes is read as one code point. -/
theorem unicodeEscape_pair (place : Nat) (hc : 0x10000 ≤ c) (hc' : c < 0x110000)
    (hrest : rest ≠ []) :
    unicodeEscape place (hexFour (0xD800 + (c - 0x10000) / 0x400) ++
      (escapeFour (0xDC00 + (c - 0x10000) % 0x400) ++ rest)) = .ok (c, 10) := by
  have hdrop : ∀ more, (hexFour (0xD800 + (c - 0x10000) / 0x400) ++ more).drop 4 = more :=
    fun more => List.drop_left' rfl
  rw [unicodeEscape, if_neg (by simp [escapeFour]; omega),
    hexFour?_hexFour (by omega)]
  dsimp only
  rw [if_pos (by omega), hdrop, secondHalf_escapeFour (by omega) hrest]
  dsimp only
  rw [if_pos (by omega)]
  refine congrArg (fun n => Except.ok (n, 10)) ?_
  omega

/-- However a code point is written, it is read. -/
theorem readString_spelling {w : List Char} (h : Spelling c w) (hc : c < 0x110000)
    (hne : rest ≠ []) (hapart : StandsApart c rest) (start : Nat) (read : Text) (place : Nat) :
    ∃ place', readString start read place (w ++ rest) =
      readString start (c :: read) place' rest := by
  cases h with
  | letter l hplain hu hl =>
    refine ⟨place + 2, ?_⟩
    rw [List.cons_append, List.cons_append, List.nil_append, readString, hl]
    simp [hu]
  | plain ch hplain hquote hslash hprint hch =>
    refine ⟨place + 1, ?_⟩
    rw [List.cons_append, List.nil_append, readString, if_neg (by omega), hch]
    all_goals simp [hquote, hslash]
  | escape hshort =>
    refine ⟨place + 2 + 4, ?_⟩
    rw [escapeFour, List.cons_append, List.cons_append, readString,
      unicodeEscape_escape _ hshort hne hapart]
    dsimp only
    rw [List.drop_left' (by rfl)]
  | pair hlong =>
    refine ⟨place + 2 + 10, ?_⟩
    rw [List.append_assoc, escapeFour, List.cons_append, List.cons_append, readString,
      unicodeEscape_pair _ hlong hc hne]
    dsimp only
    rw [← List.append_assoc, List.drop_left' (by rfl)]

/-- **A text reads back.** -/
theorem readString_write (h : Legible t) (start : Nat) (read : Text) (place : Nat)
    (rest : List Char) :
    ∃ place', readString start read place (t.flatMap writeCodePoint ++ '"' :: rest) =
      .ok (read.reverse ++ t, place', rest) := by
  induction t generalizing read place with
  | nil => exact ⟨place + 1, by simp [readString]⟩
  | cons c t ih =>
    obtain ⟨next, hnext⟩ := readString_spelling (spelling_writeCodePoint c)
      (h.bounded c (.head _)) (by simp) (standsApart_write h rest) start read place
    obtain ⟨place', hplace⟩ := ih h.tail (c :: read) next
    refine ⟨place', ?_⟩
    rw [List.flatMap_cons, List.append_assoc, hnext, hplace]
    simp

/-! ## What is read and written -/

theorem isPlain_digitChar (h : n < 16) : Text.IsPlain (Nat.digitChar n) := by
  unfold Text.IsPlain
  interval_cases n <;> decide

theorem isPlain_escapeFour {ch : Char} (h : ch ∈ escapeFour n) : Text.IsPlain ch := by
  simp only [escapeFour, hexFour, List.map_cons, List.map_nil, List.mem_cons, List.not_mem_nil,
    or_false] at h
  obtain rfl | rfl | rfl | rfl | rfl | rfl := h
  · decide
  · decide
  all_goals exact isPlain_digitChar (by omega)

/-- Code points are written with plain characters. -/
theorem isPlain_writeCodePoint {ch : Char} (h : ch ∈ writeCodePoint c) : Text.IsPlain ch := by
  have hspelling := spelling_writeCodePoint c
  generalize writeCodePoint c = w at h hspelling
  cases hspelling with
  | letter l hplain hu hl =>
    obtain rfl | hmem := List.mem_cons.mp h
    · decide
    · exact List.mem_singleton.mp hmem ▸ hplain
  | plain l hplain => exact List.mem_singleton.mp h ▸ hplain
  | escape hc => exact isPlain_escapeFour h
  | pair hc => exact (List.mem_append.mp h).elim isPlain_escapeFour isPlain_escapeFour

/-- What is written of a text is plain. -/
theorem isPlain_writeText {ch : Char} (h : ch ∈ writeText t) : Text.IsPlain ch := by
  simp only [writeText, List.cons_append, List.mem_cons, List.mem_append, List.mem_flatMap,
    List.not_mem_nil, or_false] at h
  obtain rfl | ⟨c, -, hc⟩ | rfl := h
  · decide
  · exact isPlain_writeCodePoint hc
  · decide

theorem escaped?_lt {l : Char} (h : escaped? l = some c) : c < 0x80 := by
  unfold escaped? at h
  split at h
  all_goals simp only [Option.some.injEq, reduceCtorEq] at h
  all_goals omega

theorem hexDigit?_lt {ch : Char} (h : hexDigit? ch = some n) : n < 16 := by
  unfold hexDigit? at h
  split at h
  · rename_i hdigit
    have hn := Option.some.inj h
    have hle : ch.toNat ≤ 57 := (Char.isDigit_iff_toNat.mp hdigit).2
    omega
  split at h
  · rename_i hlower
    have hn := Option.some.inj h
    have hle : ch.toNat ≤ 102 := UInt32.le_iff_toNat_le.mp (Char.le_def.mp hlower.2)
    omega
  split at h
  · rename_i hupper
    have hn := Option.some.inj h
    have hle : ch.toNat ≤ 70 := UInt32.le_iff_toNat_le.mp (Char.le_def.mp hupper.2)
    omega
  · cases h

theorem hexFour?_lt {cs : List Char} (h : hexFour? cs = some n) : n < 0x10000 := by
  have hfold : ∀ (cs : List Char) (init n : Nat),
      cs.foldlM (fun n c => (hexDigit? c).map (16 * n + ·)) init = some n →
        n < (init + 1) * 16 ^ cs.length := by
    intro cs
    induction cs with
    | nil =>
      intro init n h
      cases h
      simp
    | cons c cs ih =>
      intro init n h
      rw [List.foldlM_cons] at h
      obtain ⟨next, hnext, h⟩ := Option.bind_eq_some_iff.mp h
      obtain ⟨d, hd, rfl⟩ := Option.map_eq_some_iff.mp hnext
      have hlt := hexDigit?_lt hd
      calc n < (16 * init + d + 1) * 16 ^ cs.length := ih _ _ h
        _ ≤ (16 * (init + 1)) * 16 ^ cs.length := by gcongr; omega
        _ = (init + 1) * 16 ^ (c :: cs).length := by rw [List.length_cons]; ring
  calc n < (0 + 1) * 16 ^ (cs.take 4).length := hfold _ _ _ h
    _ ≤ (0 + 1) * 16 ^ 4 := by gcongr <;> simp
    _ = 0x10000 := by norm_num

/-- What an escape sequence stands for: a code point, and no half of a pair of
which the other half is next to it. -/
theorem unicodeEscape_ok {place used : Nat} {cs : List Char}
    (h : unicodeEscape place cs = .ok (c, used)) :
    c < 0x110000 ∧ (IsSecondHalf c → secondHalf ('\\' :: 'u' :: cs) = some (some c)) ∧
      (IsFirstHalf c → ∀ d, secondHalf (cs.drop used) = some (some d) → ¬ IsSecondHalf d) := by
  unfold unicodeEscape at h
  split at h
  · cases h
  rename_i hlen
  split at h
  · cases h
  rename_i n hn
  have hlt := hexFour?_lt hn
  have hread : secondHalf ('\\' :: 'u' :: cs) = some (some n) := by
    rw [secondHalf, if_neg hlen, hn]
  split at h
  · rename_i hhigh
    split at h
    · rename_i hnone
      cases h
      exact ⟨by omega, fun _ => hread, fun _ d hd => by rw [hnone] at hd; cases hd⟩
    · cases h
    · rename_i e he
      split at h
      · rename_i hlow
        obtain ⟨rfl, rfl⟩ := Prod.mk.inj (Except.ok.inj h)
        refine ⟨by omega, fun hsecond => ?_, fun hfirst => ?_⟩
        · unfold IsSecondHalf at hsecond
          omega
        · unfold IsFirstHalf at hfirst
          omega
      · rename_i hlow
        cases h
        refine ⟨by omega, fun _ => hread, fun _ d hd => ?_⟩
        rw [he] at hd
        cases hd
        exact hlow
  · rename_i hhigh
    cases h
    exact ⟨by omega, fun _ => hread, fun hfirst => absurd hfirst hhigh⟩

/-- Another code point leaves a text legible, unless it completes a pair. -/
theorem Legible.concat {read : Text} (h : Legible read.reverse) (hc : c < 0x110000)
    (hlast : ∀ l ∈ read.head?, ¬ (IsFirstHalf l ∧ IsSecondHalf c)) :
    Legible (c :: read).reverse := by
  rw [List.reverse_cons]
  refine ⟨fun d hd => ?_, List.isChain_append.mpr ⟨h.apart, .singleton c, fun l hl d hd => ?_⟩⟩
  · exact (List.mem_append.mp hd).elim (h.bounded d) fun hd => List.mem_singleton.mp hd ▸ hc
  · rw [List.getLast?_reverse] at hl
    obtain rfl := Option.some.inj hd
    exact hlast l hl

/-- **A text that was read reads back.** -/
theorem legible_of_readString {start : Nat} {read : Text} {place place' : Nat} {cs rest : List Char}
    (h : readString start read place cs = .ok (t, place', rest)) (hread : Legible read.reverse)
    (hlast : ∀ c ∈ read.head?, IsFirstHalf c →
      ∀ d, secondHalf cs = some (some d) → ¬ IsSecondHalf d) : Legible t := by
  -- behind a first half that was read there is no escape sequence for a second one
  fun_induction readString start read place cs with
  | case2 read place rest =>
    cases h
    exact hread
  | case5 read place rest c used hescape ih =>
    obtain ⟨hbound, hsecond, hfirst⟩ := unicodeEscape_ok hescape
    refine ih h (hread.concat hbound fun l hl hpair => ?_) fun d hd => ?_
    · exact hlast l hl hpair.1 c (hsecond hpair.2) hpair.2
    · obtain rfl := Option.some.inj hd
      exact hfirst
  | case6 read place l rest _ code hcode ih =>
    have hsmall := escaped?_lt hcode
    refine ih h (hread.concat (by omega) fun _ _ hpair => ?_) fun d hd hfirst => ?_
    · have := hpair.2.1
      omega
    · obtain rfl := Option.some.inj hd
      have := hfirst.1
      omega
  | case9 read place ch rest _ _ _ _ _ ih =>
    obtain ⟨hbound, hfirst, hsecond⟩ := toNat_lt ch
    refine ih h (hread.concat hbound fun _ _ hpair => hsecond hpair.2) fun d hd => ?_
    obtain rfl := Option.some.inj hd
    exact fun h => absurd h hfirst
  | _ => cases h

end Ratchet.Json

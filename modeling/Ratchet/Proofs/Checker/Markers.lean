import Mathlib.Data.List.TakeWhile
import Ratchet.Checker.ErrorCount
import Ratchet.Proofs.Text.Lines

/-!
# Sums and markers

What the scanners of an output look for, said without them: a sum is a text
such as "Found 3 errors", a marker one such as ": error:" behind the number of
a line. A scanner finds what is there.

* `sum?_eq_some_iff`, `sum?_eq_none_iff`: the first sum of a text.
* `hasMarker_iff`: a text carries a marker.
* `carries_iff_lines`: it does when one of its lines does.
-/

namespace Ratchet.Checker

open Text (isDigit isLineEnd isWord isBoundary linePieces)

variable {t cs rest run m p xs ys : List Char} {ps : List (List Char)} {before b b' : Option Char}
  {c : Char}

/-! ## Numerals -/

/-- A text of one or more digits. -/
def IsNumeral (run : List Char) : Prop :=
  run ≠ [] ∧ ∀ d ∈ run, isDigit d = true

/-- No digit comes first. -/
def NoDigitFirst (rest : List Char) : Prop :=
  ∀ c ∈ rest.head?, isDigit c = false

/-- **The digits at the start of a text** are as many as there are. -/
theorem digits?_eq_some_iff :
    digits? t = some (run, rest) ↔ t = run ++ rest ∧ IsNumeral run ∧ NoDigitFirst rest := by
  constructor
  · intro h
    unfold digits? at h
    simp only at h
    split at h
    · cases h
    · rename_i hne
      cases h
      refine ⟨List.takeWhile_append_dropWhile.symm,
        ⟨hne, fun d hd => List.mem_takeWhile_imp hd⟩, fun c hc => ?_⟩
      have hnot := List.head?_dropWhile_not isDigit t
      rw [Option.mem_def.mp hc] at hnot
      simpa using hnot
  · rintro ⟨rfl, hrun, hrest⟩
    have hstop : rest.takeWhile isDigit = [] ∧ rest.dropWhile isDigit = rest := by
      cases rest with
      | nil => simp
      | cons c rest =>
        have hc : isDigit c = false := hrest c rfl
        simp [List.takeWhile, List.dropWhile, hc]
    simp only [digits?, List.takeWhile_append_of_pos hrun.2, List.dropWhile_append_of_pos hrun.2,
      hstop.1, hstop.2, List.append_nil, if_neg hrun.1]

theorem digits?_append (hrun : IsNumeral run) (hc : isDigit c = false) :
    digits? (run ++ c :: rest) = some (run, c :: rest) :=
  digits?_eq_some_iff.mpr ⟨rfl, hrun, fun d hd => by cases hd; exact hc⟩

/-! ## Sums -/

/-- A text that starts with a sum of these digits. -/
def StartsSum (run t : List Char) : Prop :=
  ∃ found error rest, t = found ++ run ++ error ++ rest ∧ IsNumeral run ∧
    found.map Char.toLower = "found ".toList ∧ error.map Char.toLower = " error".toList

/-- A text starts like a word when it does so in lower case. -/
theorem startsLike_iff {start : List Char} :
    startsLike start t = true ↔ ∃ word rest, t = word ++ rest ∧ word.map Char.toLower = start := by
  rw [startsLike, decide_eq_true_eq]
  constructor
  · intro h
    exact ⟨t.take start.length, t.drop start.length, (List.take_append_drop _ _).symm, h⟩
  · rintro ⟨word, rest, rfl, rfl⟩
    rw [List.length_map, List.take_left]

theorem eq_space_of_toLower (h : c.toLower = ' ') : c = ' ' := by
  unfold Char.toLower at h
  split at h
  · rename_i hupper
    have hval : c.val + 32 = 32 := congrArg Char.val h
    have hle : 65 ≤ c.val ∧ c.val ≤ 90 := hupper
    grind
  · exact h

/-- **A sum is found where it starts**, with all its digits. -/
theorem sumHere?_eq_some_iff : sumHere? t = some run ↔ StartsSum run t := by
  constructor
  · intro h
    unfold sumHere? at h
    split at h
    · rename_i hfound
      obtain ⟨found, more, rfl, hword⟩ := startsLike_iff.mp hfound
      have hlen : found.length = 6 := by
        rw [← List.length_map (f := Char.toLower), hword]
        rfl
      rw [List.drop_left' hlen] at h
      obtain ⟨⟨digits, rest⟩, hdigits, hsome⟩ := Option.bind_eq_some_iff.mp h
      obtain ⟨rfl, hrun, -⟩ := digits?_eq_some_iff.mp hdigits
      dsimp only at hsome
      split at hsome
      · rename_i herror
        cases hsome
        obtain ⟨error, rest, rfl, herr⟩ := startsLike_iff.mp herror
        exact ⟨found, error, rest, by simp, hrun, hword, herr⟩
      · cases hsome
    · cases h
  · rintro ⟨found, error, rest, rfl, hrun, hword, herr⟩
    have hlen : found.length = 6 := by
      rw [← List.length_map (f := Char.toLower), hword]
      rfl
    obtain ⟨c, error, rfl⟩ : ∃ c error', error = c :: error' := by
      cases error with
      | nil => cases herr
      | cons c error => exact ⟨c, error, rfl⟩
    have hc : isDigit c = false := by
      rw [eq_space_of_toLower (List.cons.inj herr).1]
      decide
    have hfound : startsLike "found ".toList (found ++ run ++ (c :: error) ++ rest) = true :=
      startsLike_iff.mpr ⟨found, run ++ (c :: error) ++ rest, by simp, hword⟩
    have herror : startsLike " error".toList (c :: (error ++ rest)) = true :=
      startsLike_iff.mpr ⟨c :: error, rest, rfl, herr⟩
    rw [sumHere?, if_pos hfound, List.append_assoc, List.append_assoc, List.drop_left' hlen,
      List.cons_append, digits?_append hrun hc, Option.bind_some]
    exact if_pos herror

/-- The first sum of a text has these digits. -/
def FirstSum (run t : List Char) : Prop :=
  ∃ pre post, t = pre ++ post ∧ StartsSum run post ∧
    ∀ pre' post' run', t = pre' ++ post' → StartsSum run' post' → pre.length ≤ pre'.length

/-- There is a sum in a text. -/
def HasSum (t : List Char) : Prop :=
  ∃ pre post run, t = pre ++ post ∧ StartsSum run post

theorem not_startsSum_nil : ¬ StartsSum run [] := by
  rintro ⟨found, error, rest, h, hrun, -, -⟩
  have : run = [] := by
    cases run with
    | nil => rfl
    | cons d run => simp at h
  exact hrun.1 this

/-- No sum is found where there is none. -/
theorem sum?_eq_none_iff : sum? t = none ↔ ¬ HasSum t := by
  induction t with
  | nil =>
    refine iff_of_true rfl ?_
    rintro ⟨pre, post, run, h, hsum⟩
    obtain ⟨-, rfl⟩ := List.append_eq_nil_iff.mp h.symm
    exact not_startsSum_nil hsum
  | cons c cs ih =>
    rw [sum?, Option.or_eq_none_iff, ih]
    constructor
    · rintro ⟨hhere, hlater⟩ ⟨pre, post, run, h, hsum⟩
      cases pre with
      | nil =>
        rw [List.nil_append] at h
        rw [h, sumHere?_eq_some_iff.mpr hsum] at hhere
        cases hhere
      | cons d pre =>
        exact hlater ⟨pre, post, run, (List.cons.inj h).2, hsum⟩
    · intro hnone
      refine ⟨Option.eq_none_iff_forall_ne_some.mpr fun run hrun => ?_, ?_⟩
      · exact hnone ⟨[], c :: cs, run, rfl, sumHere?_eq_some_iff.mp hrun⟩
      · rintro ⟨pre, post, run, rfl, hsum⟩
        exact hnone ⟨c :: pre, post, run, rfl, hsum⟩

/-- **The sum that is found is the first one.** -/
theorem firstSum_of_sum? (h : sum? t = some run) : FirstSum run t := by
  induction t with
  | nil => cases h
  | cons c cs ih =>
    rw [sum?] at h
    cases hhere : sumHere? (c :: cs) with
    | some run' =>
      rw [hhere, Option.some_or] at h
      cases h
      exact ⟨[], c :: cs, rfl, sumHere?_eq_some_iff.mp hhere, fun _ _ _ _ _ => Nat.zero_le _⟩
    | none =>
      rw [hhere, Option.none_or] at h
      obtain ⟨pre, post, rfl, hsum, hfirst⟩ := ih h
      refine ⟨c :: pre, post, rfl, hsum, fun pre' post' run' heq hsum' => ?_⟩
      cases pre' with
      | nil =>
        rw [List.nil_append] at heq
        rw [heq, sumHere?_eq_some_iff.mpr hsum'] at hhere
        cases hhere
      | cons d pre' =>
        have := hfirst pre' post' run' (List.cons.inj heq).2 hsum'
        simpa using this

/-- **The first sum of a text is found**: there is only one. -/
theorem sum?_eq_some_iff : sum? t = some run ↔ FirstSum run t := by
  refine ⟨firstSum_of_sum?, ?_⟩
  rintro ⟨pre, post, rfl, hsum, hfirst⟩
  cases h : sum? (pre ++ post) with
  | none => exact absurd ⟨pre, post, run, rfl, hsum⟩ (sum?_eq_none_iff.mp h)
  | some run' =>
    obtain ⟨pre', post', heq, hsum', hfirst'⟩ := firstSum_of_sum? h
    have hlen : pre.length = pre'.length :=
      Nat.le_antisymm (hfirst pre' post' run' heq hsum') (hfirst' pre post run rfl hsum)
    obtain ⟨rfl, rfl⟩ := List.append_inj heq hlen
    rw [← sumHere?_eq_some_iff] at hsum hsum'
    exact hsum'.symm.trans hsum

/-! ## Markers -/

/-- A text that marks an error, if it stands behind this character: the number
of a line, perhaps that of a column, and the word; or a numbered error that
starts a word. -/
inductive Marker (before : Option Char) : List Char → Prop
  | line {ds : List Char} : IsNumeral ds → Marker before (':' :: ds ++ ": error:".toList)
  | column {ds es : List Char} : IsNumeral ds → IsNumeral es →
      Marker before (':' :: ds ++ ':' :: es ++ ": error:".toList)
  | number {ds : List Char} : before.any isWord = false → IsNumeral ds →
      Marker before ("error TS".toList ++ ds ++ [':'])

/-- A marker lies in a text that stands behind this character. -/
def Carries (before : Option Char) (t : List Char) : Prop :=
  ∃ pre m post, t = pre ++ m ++ post ∧ Marker (pre.getLast?.or before) m

theorem isErrorWord_iff : isErrorWord t = true ↔ ∃ post, t = ": error:".toList ++ post := by
  rw [isErrorWord, List.isPrefixOf_iff_prefix]
  exact ⟨fun ⟨post, h⟩ => ⟨post, h.symm⟩, fun ⟨post, h⟩ => ⟨post, h.symm⟩⟩

/-- A place is a line, or a line and a column, before the word for errors. -/
theorem isPlaceMarker_iff : isPlaceMarker t = true ↔
    (∃ ds post, IsNumeral ds ∧ t = ':' :: ds ++ ": error:".toList ++ post) ∨
      ∃ ds es post, IsNumeral ds ∧ IsNumeral es ∧
        t = ':' :: ds ++ ':' :: es ++ ": error:".toList ++ post := by
  have hcolon : isDigit ':' = false := by decide
  have hword : ∀ post, ": error:".toList ++ post = ':' :: (" error:".toList ++ post) :=
    fun _ => rfl
  constructor
  · intro h
    unfold isPlaceMarker at h
    split at h
    · rename_i cs
      split at h
      · cases h
      · rename_i ds rest hds
        obtain ⟨rfl, hnum, -⟩ := digits?_eq_some_iff.mp hds
        rcases Bool.or_eq_true_iff.mp h with herror | hcolumn
        · obtain ⟨post, rfl⟩ := isErrorWord_iff.mp herror
          exact .inl ⟨ds, post, hnum, by simp⟩
        · split at hcolumn
          · rename_i more
            obtain ⟨⟨es, rest⟩, hes, herror⟩ := (Option.any_eq_true _ _).mp hcolumn
            obtain ⟨rfl, hnum', -⟩ := digits?_eq_some_iff.mp hes
            obtain ⟨post, rfl⟩ := isErrorWord_iff.mp herror
            exact .inr ⟨ds, es, post, hnum, hnum', by simp⟩
          · cases hcolumn
    · cases h
  · rintro (⟨ds, post, hnum, rfl⟩ | ⟨ds, es, post, hds, hes, rfl⟩)
    · rw [List.append_assoc, List.cons_append, hword]
      simp only [isPlaceMarker, digits?_append hnum hcolon]
      exact Bool.or_eq_true_iff.mpr (.inl (isErrorWord_iff.mpr ⟨post, rfl⟩))
    · rw [List.append_assoc, List.append_assoc, List.cons_append, List.cons_append, hword]
      simp only [isPlaceMarker, digits?_append hds hcolon, digits?_append hes hcolon,
        Option.any_some]
      exact Bool.or_eq_true_iff.mpr (.inr (isErrorWord_iff.mpr ⟨post, rfl⟩))

/-- A number of an error is between its word and a colon. -/
theorem isNumberMarker_iff : isNumberMarker t = true ↔
    ∃ ds post, IsNumeral ds ∧ t = "error TS".toList ++ ds ++ [':'] ++ post := by
  have hcolon : isDigit ':' = false := by decide
  have hdrop : ∀ cs, ("error TS".toList ++ cs).drop 8 = cs := fun _ => rfl
  rw [isNumberMarker, Bool.and_eq_true, List.isPrefixOf_iff_prefix, Option.any_eq_true]
  constructor
  · rintro ⟨⟨cs, rfl⟩, ⟨ds, rest⟩, hds, hhead⟩
    rw [hdrop] at hds
    dsimp only at hhead
    obtain ⟨rfl, hnum, -⟩ := digits?_eq_some_iff.mp hds
    obtain ⟨post, rfl⟩ := List.head?_eq_some_iff.mp (of_decide_eq_true hhead)
    exact ⟨ds, post, hnum, by simp⟩
  · rintro ⟨ds, post, hnum, rfl⟩
    refine ⟨⟨ds ++ [':'] ++ post, by simp⟩, (ds, ':' :: post), ?_, by simp⟩
    rw [List.append_assoc, List.append_assoc, hdrop]
    exact digits?_append hnum hcolon

/-- **A marker is seen where it starts.** -/
theorem isMarker_iff : isMarker before t = true ↔ ∃ m, m <+: t ∧ Marker before m := by
  have hboundary : ∀ cs, isBoundary before ('e' :: cs).head? = !before.any isWord := by
    have he : isWord 'e' = true := by decide +kernel
    intro cs
    simp [isBoundary, he]
  rw [isMarker, Bool.or_eq_true, Bool.and_eq_true, isPlaceMarker_iff, isNumberMarker_iff]
  constructor
  · rintro ((⟨ds, post, hds, rfl⟩ | ⟨ds, es, post, hds, hes, rfl⟩) | ⟨hb, ds, post, hds, rfl⟩)
    · exact ⟨_, List.prefix_append _ post, .line hds⟩
    · exact ⟨_, List.prefix_append _ post, .column hds hes⟩
    · refine ⟨_, List.prefix_append _ post, .number ?_ hds⟩
      have := (hboundary _).symm.trans hb
      simpa using this
  · rintro ⟨m, ⟨post, rfl⟩, hm⟩
    cases hm with
    | line hds => exact .inl (.inl ⟨_, post, hds, rfl⟩)
    | column hds hes => exact .inl (.inr ⟨_, _, post, hds, hes, rfl⟩)
    | number hb hds =>
      refine .inr ⟨(hboundary _).trans ?_, _, post, hds, rfl⟩
      simpa using hb

theorem Marker.ne_nil (hm : Marker before m) : m ≠ [] := by
  cases hm <;> simp

/-- A marker only asks of the character before it whether it belongs to a word. -/
theorem Marker.congr (hb : b.any isWord = b'.any isWord) (hm : Marker b m) : Marker b' m := by
  cases hm with
  | line hds => exact .line hds
  | column hds hes => exact .column hds hes
  | number hnot hds => exact .number (hb ▸ hnot) hds

theorem isLineEnd_word (word : String) (h : word.toList.all (!isLineEnd ·) = true) :
    ∀ c ∈ word.toList, isLineEnd c = false := fun c hc => by
  simpa using List.all_eq_true.mp h c hc

/-- No marker extends over the end of a line. -/
theorem Marker.isLineEnd_eq_false (hm : Marker before m) : ∀ c ∈ m, isLineEnd c = false := by
  have hnumeral : ∀ {ds}, IsNumeral ds → ∀ d ∈ ds, isLineEnd d = false := by
    intro ds hds d hd
    by_contra hend
    have := Text.isDigit_of_isLineEnd (by simpa using hend)
    simp [hds.2 d hd] at this
  have hword := isLineEnd_word ": error:" (by decide)
  have hname := isLineEnd_word "error TS" (by decide)
  have hcolon : isLineEnd ':' = false := by decide
  intro c hc
  cases hm with
  | line hds =>
    rw [List.cons_append, List.mem_cons, List.mem_append] at hc
    rcases hc with rfl | hc | hc
    · exact hcolon
    · exact hnumeral hds c hc
    · exact hword c hc
  | column hds hes =>
    rw [List.mem_append, List.mem_append, List.mem_cons, List.mem_cons] at hc
    rcases hc with ((rfl | hc) | rfl | hc) | hc
    · exact hcolon
    · exact hnumeral hds c hc
    · exact hcolon
    · exact hnumeral hes c hc
    · exact hword c hc
  | number _ hds =>
    rw [List.mem_append, List.mem_append, List.mem_singleton] at hc
    rcases hc with (hc | hc) | rfl
    · exact hname c hc
    · exact hnumeral hds c hc
    · exact hcolon

/-! ## Carrying a marker -/

theorem not_carries_nil : ¬ Carries before [] := by
  rintro ⟨pre, m, post, h, hm⟩
  have : m = [] := by
    cases m with
    | nil => rfl
    | cons c m => simp at h
  exact hm.ne_nil this

/-- A marker starts with the first character, or lies behind it. -/
theorem carries_cons :
    Carries before (c :: cs) ↔ (∃ m, m <+: c :: cs ∧ Marker before m) ∨ Carries (some c) cs := by
  have hlast : ∀ pre : List Char,
      ((c :: pre).getLast?.or before) = pre.getLast?.or (some c) := fun pre => by
    rw [List.getLast?_cons]
    cases pre.getLast? <;> rfl
  constructor
  · rintro ⟨pre, m, post, h, hm⟩
    cases pre with
    | nil => exact .inl ⟨m, ⟨post, h.symm⟩, hm⟩
    | cons d pre =>
      obtain ⟨rfl, rfl⟩ := List.cons.inj h
      exact .inr ⟨pre, m, post, rfl, hlast pre ▸ hm⟩
  · rintro (⟨m, ⟨post, h⟩, hm⟩ | ⟨pre, m, post, rfl, hm⟩)
    · exact ⟨[], m, post, h.symm, hm⟩
    · exact ⟨c :: pre, m, post, rfl, (hlast pre).symm ▸ hm⟩

/-- **A text with a marker is told from one without.** -/
theorem hasMarker_iff : hasMarker before t = true ↔ Carries before t := by
  induction t generalizing before with
  | nil => exact iff_of_false (by simp [hasMarker]) not_carries_nil
  | cons c cs ih => rw [hasMarker, Bool.or_eq_true, isMarker_iff, ih, carries_cons]

/-- Of what stands before a text, only matters whether a word ends there. -/
theorem Carries.congr (hb : b.any isWord = b'.any isWord) (h : Carries b t) : Carries b' t := by
  obtain ⟨pre, m, post, rfl, hm⟩ := h
  refine ⟨pre, m, post, rfl, hm.congr ?_⟩
  cases pre.getLast? with
  | none => exact hb
  | some c => rfl

theorem Carries.append_right (h : Carries before xs) (ys : List Char) :
    Carries before (xs ++ ys) := by
  obtain ⟨pre, m, post, rfl, hm⟩ := h
  exact ⟨pre, m, post ++ ys, by simp, hm⟩

/-- A marker stays when more text stands before it. -/
theorem Carries.append_left (h : Carries (xs.getLast?.or before) ys) :
    Carries before (xs ++ ys) := by
  obtain ⟨pre, m, post, rfl, hm⟩ := h
  refine ⟨xs ++ pre, m, post, by simp, ?_⟩
  rwa [List.getLast?_append, Option.or_assoc]

/-! ## Lines -/

/-- A new line carries on with nothing before it. -/
theorem carries_cons_of_isLineEnd (hc : isLineEnd c = true) :
    Carries before (c :: cs) ↔ Carries none cs := by
  have hnot : ¬ ∃ m, m <+: c :: cs ∧ Marker before m := by
    rintro ⟨m, hpre, hm⟩
    cases m with
    | nil => exact hm.ne_nil rfl
    | cons d m =>
      obtain ⟨rfl, -⟩ := List.cons_prefix_cons.mp hpre
      simp [hm.isLineEnd_eq_false d (.head _)] at hc
  have hword : (some c).any isWord = (none : Option Char).any isWord := by
    simp [Text.isWord_of_isLineEnd hc]
  rw [carries_cons, or_iff_right hnot]
  exact ⟨Carries.congr hword, Carries.congr hword.symm⟩

/-- The lines of a text carry its markers, each line by itself; only the first
stands behind something. -/
theorem carries_iff_linePieces (h : linePieces t = p :: ps) :
    Carries before t ↔ Carries before p ∨ ∃ q ∈ ps, Carries none q := by
  -- behind a line that has ended come the others
  have hended : ∀ {cs : List Char}, (∀ {before p ps}, linePieces cs = p :: ps →
      (Carries before cs ↔ Carries before p ∨ ∃ q ∈ ps, Carries none q)) →
      (Carries none cs ↔ ∃ q ∈ linePieces cs, Carries none q) := by
    intro cs ih
    obtain ⟨q, qs, hq⟩ := Text.exists_linePieces cs
    rw [ih hq, hq, List.exists_mem_cons_iff]
  fun_induction linePieces t generalizing before p ps with
  | case1 => cases h; simp
  | case2 cs ih =>
    cases h
    rw [carries_cons_of_isLineEnd (by decide), carries_cons_of_isLineEnd (by decide),
      or_iff_right not_carries_nil]
    exact hended ih
  | case3 c cs _ hc ih =>
    cases h
    rw [carries_cons_of_isLineEnd hc, or_iff_right not_carries_nil]
    exact hended ih
  | case4 c cs _ hc hnil => exact absurd hnil (Text.linePieces_ne_nil cs)
  | case5 c cs _ hc q qs hq ih =>
    cases h
    have hcons := Text.linePieces_cons (by simpa using hc) hq
    have hstart : (∃ m, m <+: c :: cs ∧ Marker before m) ↔ ∃ m, m <+: c :: q ∧ Marker before m := by
      refine exists_congr fun m => and_congr_left fun hm => ?_
      exact Text.prefix_of_linePieces hcons hm.isLineEnd_eq_false
    have hrest : Carries (some c) cs ↔ Carries (some c) q ∨ ∃ r ∈ qs, Carries none r := ih hq
    rw [carries_cons, carries_cons, hstart, hrest, or_assoc]

/-- **A text carries a marker when one of its lines does.** -/
theorem carries_iff_lines : Carries none t ↔ ∃ line ∈ Text.lines t, Carries none line := by
  have hpieces : Carries none t ↔ ∃ line ∈ linePieces t, Carries none line := by
    obtain ⟨p, ps, h⟩ := Text.exists_linePieces t
    rw [carries_iff_linePieces h, h, List.exists_mem_cons_iff]
  obtain h | h := Text.linePieces_eq_or t
  · rw [hpieces, h]
  · simp [hpieces, h, or_and_right, exists_or, not_carries_nil]

theorem markedLines_eq_zero_iff : markedLines t = 0 ↔ ¬ Carries none t := by
  rw [markedLines, List.countP_eq_zero, carries_iff_lines]
  simp only [hasMarker_iff, not_exists, not_and]

/-- **When no error is counted**: the first sum says so, or there is neither a
sum nor a marker. -/
theorem countErrors_eq_zero_iff : countErrors t = .ok 0 ↔
    (∃ run, sum? t = some run ∧ run.length ≤ maxDigits ∧ Text.numberOf run = 0) ∨
      (¬ HasSum t ∧ ¬ Carries none t) := by
  rw [← sum?_eq_none_iff, ← markedLines_eq_zero_iff, countErrors]
  cases sum? t with
  | none => simp
  | some run =>
    by_cases hlen : maxDigits < run.length
    · simp [hlen, Nat.not_le_of_lt hlen]
    · simp [hlen, Nat.le_of_not_lt hlen]

end Ratchet.Checker

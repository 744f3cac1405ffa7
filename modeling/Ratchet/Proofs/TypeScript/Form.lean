import Mathlib.Data.Bool.AllAny
import Mathlib.Data.List.TakeWhile
import Ratchet.TypeScript.Specifier

/-!
# Forms of import statements between quotes

A text is read quote by quote. What stands before a quote tells whether the
text behind the quote is a specifier of some form; nothing else of the text
before it is looked at. So a form is told by its lead, which is the text that
leads up to the quote, and by what it reads from the quote on.

* `FromLead`, `BareLead`, `CallLead`: the leads of the three forms.
* `Form.Reads`: a form told by its lead and by what it reads behind it.
* `scan`: the specifiers of a form from some place of a text on.
* `Form.Reads.scan_skip`, `Form.Reads.scan_read`: what is found up to a quote.
-/

namespace Ratchet.TypeScript

open Text (isBlank isWord isBoundary)

variable {before : Option Char} {lead rest text tail found : List Char} {q c : Char}
  {x : List Char × List Char} {word : String}

/-- A text without quotes. -/
def Unquoted (text : List Char) : Prop :=
  ∀ c ∈ text, isQuote c = false

/-- A text that is at an end or at a quote. -/
def AtQuote (text : List Char) : Prop :=
  ∀ c ∈ text.head?, isQuote c = true

/-- The character before what follows a text. -/
def lastOf (before : Option Char) (text : List Char) : Option Char :=
  text.getLast?.or before

@[simp] theorem lastOf_nil (before : Option Char) : lastOf before [] = before := rfl

@[simp] theorem lastOf_cons (before : Option Char) (c : Char) (text : List Char) :
    lastOf before (c :: text) = lastOf (some c) text := by
  simp only [lastOf, List.getLast?_cons]
  cases text.getLast? <;> rfl

@[simp] theorem lastOf_concat (before : Option Char) (text : List Char) (c : Char) :
    lastOf before (text ++ [c]) = some c := by
  simp [lastOf]

theorem Unquoted.of_cons (h : Unquoted (c :: text)) : Unquoted text :=
  fun d hd => h d (.tail _ hd)

theorem atQuote_nil : AtQuote [] :=
  fun _ h => nomatch h

theorem atQuote_cons (hq : isQuote q = true) (rest : List Char) : AtQuote (q :: rest) := by
  intro c hc
  cases hc
  exact hq

theorem eq_of_isQuote (hq : isQuote q = true) : q = '"' ∨ q = '\'' := by
  simpa [isQuote] using hq

theorem isBlank_of_isQuote (hq : isQuote q = true) : isBlank q = false := by
  obtain rfl | rfl := eq_of_isQuote hq <;> decide

theorem isWord_of_isQuote (hq : isQuote q = true) : isWord q = false := by
  obtain rfl | rfl := eq_of_isQuote hq <;> decide +kernel

/-! ## Up to a quote -/

/-- Blanks before a quotation are dropped, and no more. -/
theorem dropWhile_append_atQuote (htail : AtQuote tail) (text : List Char) :
    (text ++ tail).dropWhile isBlank = text.dropWhile isBlank ++ tail := by
  have hstop : tail.dropWhile isBlank = tail := by
    cases tail with
    | nil => rfl
    | cons q rest =>
      exact List.dropWhile_cons_of_neg (by simp [isBlank_of_isQuote (htail q rfl)])
  rw [List.dropWhile_append, hstop]
  cases text.dropWhile isBlank <;> rfl

theorem Unquoted.dropWhile (h : Unquoted text) : Unquoted (text.dropWhile isBlank) :=
  fun c hc => h c ((List.dropWhile_sublist _).subset hc)

/-- A text is blanks and what follows them. -/
theorem dropWhile_eq_iff (hrest : ∀ c ∈ rest.head?, isBlank c = false) :
    text.dropWhile isBlank = rest ↔
      ∃ blanks : List Char, (∀ c ∈ blanks, isBlank c = true) ∧ text = blanks ++ rest := by
  constructor
  · rintro rfl
    exact ⟨text.takeWhile isBlank, fun c hc => List.mem_takeWhile_imp hc,
      List.takeWhile_append_dropWhile.symm⟩
  · rintro ⟨blanks, hblanks, rfl⟩
    rw [List.dropWhile_append_of_pos hblanks]
    cases rest with
    | nil => rfl
    | cons c rest => exact List.dropWhile_cons_of_neg (by simp [hrest c rfl])

/-- Where something stands before a quotation, none is read. -/
theorem quoted_atQuote_of_unquoted (h : Unquoted text) (hne : text ≠ []) (tail : List Char) :
    quoted (text ++ tail) = none := by
  cases text with
  | nil => exact absurd rfl hne
  | cons c text => simp [quoted, h c (.head _)]

/-- A quotation is read up to the next quote. -/
theorem quoted_append (hq : isQuote q = true) (htext : Unquoted text) (hne : text ≠ [])
    {q' : Char} (hq' : isQuote q' = true) (rest : List Char) :
    quoted (q :: (text ++ q' :: rest)) = some (text, rest) := by
  have hspecifier : (text ++ q' :: rest).takeWhile (!isQuote ·) = text := by
    rw [List.takeWhile_append_of_pos fun c hc => by simp [htext c hc],
      List.takeWhile_cons_of_neg (by simp [hq'])]
    simp
  simp [quoted, hspecifier, hq, hne]

/-- There is no specifier without a second quote. -/
theorem quoted_unquoted (htext : Unquoted text) (q : Char) : quoted (q :: text) = none := by
  have hspecifier : text.takeWhile (!isQuote ·) = text :=
    List.takeWhile_eq_self_iff.mpr fun c hc => by simp [htext c hc]
  simp [quoted, hspecifier]

/-- A quotation takes some of the text. -/
theorem length_quoted (h : quoted text = some (found, rest)) : rest.length < text.length := by
  cases text with
  | nil => cases h
  | cons q cs =>
    simp only [quoted] at h
    split at h
    · cases h
    · cases h
      rw [List.length_drop, List.length_cons]
      omega

theorem length_closed {x : List Char × List Char} (h : closed x = some (found, rest)) :
    rest.length < x.2.length := by
  rw [closed] at h
  split at h
  · rename_i heq
    cases h
    have hle := (List.dropWhile_sublist isBlank (l := x.2)).length_le
    rw [heq, List.length_cons] at hle
    omega
  · cases h

/-- A quote behind blanks. -/
theorem quoted_dropWhile (htext : Unquoted text) (htail : AtQuote tail) :
    quoted ((text ++ tail).dropWhile isBlank) = some x ↔
      (∀ c ∈ text, isBlank c = true) ∧ quoted tail = some x := by
  rw [dropWhile_append_atQuote htail]
  by_cases hblank : text.dropWhile isBlank = []
  · rw [hblank, List.nil_append]
    exact (and_iff_right (List.dropWhile_eq_nil_iff.mp hblank)).symm
  · have hnone := quoted_atQuote_of_unquoted htext.dropWhile hblank tail
    have hsome : ¬ ∀ c ∈ text, isBlank c = true := fun hall =>
      hblank (List.dropWhile_eq_nil_iff.mpr hall)
    simp [hnone, hsome]

theorem afterWord_eq_some : afterWord word text = some rest ↔ text = word.toList ++ rest := by
  rw [afterWord]
  constructor
  · intro h
    split at h
    · rename_i hstart
      obtain ⟨more, rfl⟩ := List.isPrefixOf_iff_prefix.mp hstart
      cases h
      rw [← String.length_toList, List.drop_left]
    · cases h
  · rintro rfl
    rw [if_pos (List.isPrefixOf_iff_prefix.mpr (List.prefix_append _ _)), ← String.length_toList,
      List.drop_left]

/-- A word without quotes stands before the quote. -/
theorem afterWord_append (hword : Unquoted word.toList) (htail : AtQuote tail) :
    afterWord word (text ++ tail) = some rest ↔
      ∃ more, text = word.toList ++ more ∧ rest = more ++ tail := by
  rw [afterWord_eq_some]
  constructor
  · intro h
    obtain ⟨more, hmore, rfl⟩ | ⟨more, rfl, rfl⟩ := List.append_eq_append_iff.mp h
    · cases more with
      | nil => exact ⟨[], by simpa using hmore.symm, rfl⟩
      | cons q more =>
        have hq : isQuote q = true := htail q rfl
        have hnot : isQuote q = false := hword q (by rw [hmore]; simp)
        rw [hq] at hnot
        cases hnot
    · exact ⟨more, rfl, rfl⟩
  · rintro ⟨more, rfl, rfl⟩
    rw [List.append_assoc]

/-! ## Leads -/

/-- What leads up to the specifier of a `from` clause. -/
inductive ClauseLead (before : Option Char) : List Char → Prop where
  | intro {names blanks : List Char} (hnames : ';' ∉ names)
      (hword : (lastOf before names).any isWord = false)
      (hblanks : ∀ c ∈ blanks, isBlank c = true) :
      ClauseLead before (names ++ ("from".toList ++ blanks))

/-- What leads up to the specifier of `import … from '…'` or
`export … from '…'`. -/
inductive FromLead (before : Option Char) : List Char → Prop where
  | intro {keyword : String} {clause : List Char} (hkeyword : keyword ∈ ["import", "export"])
      (hbefore : before.any isWord = false) (hafter : clause.head?.any isWord = false)
      (hclause : ClauseLead (some 't') clause) : FromLead before (keyword.toList ++ clause)

/-- What leads up to the specifier of `import '…'`. -/
inductive BareLead (before : Option Char) : List Char → Prop where
  | intro {blanks blanks' : List Char} (hbefore : before = none ∨ before = some '\n')
      (hblanks : ∀ c ∈ blanks, isBlank c = true) (hblanks' : ∀ c ∈ blanks', isBlank c = true) :
      BareLead before (blanks ++ ("import".toList ++ blanks'))

/-- What leads up to the specifier of `import('…')` or `require('…')`. -/
inductive CallLead (before : Option Char) : List Char → Prop where
  | intro {keyword : String} {blanks blanks' : List Char}
      (hkeyword : keyword ∈ ["import", "require"]) (hbefore : before.any isWord = false)
      (hblanks : ∀ c ∈ blanks, isBlank c = true) (hblanks' : ∀ c ∈ blanks', isBlank c = true) :
      CallLead before (keyword.toList ++ (blanks ++ '(' :: blanks'))

theorem isBoundary_word (hc : isWord c = true) :
    isBoundary before (some c) = true ↔ before.any isWord = false := by
  simp [isBoundary, hc]

theorem isBoundary_after_word (hc : isWord c = true) (after : Option Char) :
    isBoundary (some c) after = true ↔ after.any isWord = false := by
  simp [isBoundary, hc]

theorem not_clauseLead_nil : ¬ ClauseLead before [] := by
  intro h
  generalize htext : ([] : List Char) = text at h
  cases h
  simp at htext

/-- The word `from` stands here or further on. -/
theorem clauseLead_cons : ClauseLead before (c :: text) ↔
    (before.any isWord = false ∧ ∃ blanks : List Char, (∀ d ∈ blanks, isBlank d = true) ∧
      c :: text = "from".toList ++ blanks) ∨ c ≠ ';' ∧ ClauseLead (some c) text := by
  constructor
  · intro h
    generalize htext : c :: text = lead at h
    obtain @⟨names, blanks, hnames, hword, hblanks⟩ := h
    · cases names with
      | nil => exact .inl ⟨hword, blanks, hblanks, rfl⟩
      | cons d names =>
        obtain ⟨rfl, rfl⟩ := List.cons.inj htext
        rw [lastOf_cons] at hword
        refine .inr ⟨fun hc => hnames (hc ▸ .head _), ?_⟩
        exact .intro (fun hmem => hnames (.tail _ hmem)) hword hblanks
  · rintro (⟨hword, blanks, hblanks, htext⟩ | ⟨hc, @⟨names, blanks, hnames, hword, hblanks⟩⟩)
    · have hhere : ClauseLead before ([] ++ ("from".toList ++ blanks)) :=
        .intro (by simp) hword hblanks
      rwa [htext]
    · rw [← List.cons_append]
      refine .intro ?_ (by rwa [lastOf_cons]) hblanks
      simp [hnames, Ne.symm hc]

/-- A specifier right behind the word `from`. -/
def fromHere (before : Option Char) (text : List Char) : Option (List Char × List Char) :=
  if isBoundary before text.head? then
    (afterWord "from" text).bind fun rest => quoted (rest.dropWhile isBlank)
  else none

theorem fromClause_cons (before : Option Char) (c : Char) (text : List Char) :
    fromClause before (c :: text) = (fromHere before (c :: text)).or
      (if isQuote c || c = ';' then none else fromClause (some c) text) := rfl

theorem unquoted_from : Unquoted "from".toList :=
  List.all_iff_forall_prop.mp (by decide)

/-- The word before a quotation is read with the quotation. -/
theorem fromHere_append (htext : Unquoted text) (htail : AtQuote tail) :
    fromHere before (text ++ tail) = some x ↔
      (before.any isWord = false ∧ ∃ blanks : List Char, (∀ d ∈ blanks, isBlank d = true) ∧
        text = "from".toList ++ blanks) ∧ quoted tail = some x := by
  have hboundary : ∀ more, isBoundary before ("from".toList ++ more).head? = true ↔
      before.any isWord = false := fun more => isBoundary_word (by decide)
  rw [fromHere]
  constructor
  · intro h
    split at h
    · rename_i hhead
      obtain ⟨rest, hrest, hquoted⟩ := Option.bind_eq_some_iff.mp h
      obtain ⟨blanks, rfl, rfl⟩ := (afterWord_append unquoted_from htail).mp hrest
      have hblanks : Unquoted blanks := fun d hd => htext d (List.mem_append_right _ hd)
      obtain ⟨hall, htailed⟩ := (quoted_dropWhile hblanks htail).mp hquoted
      rw [List.append_assoc] at hhead
      exact ⟨⟨(hboundary _).mp hhead, blanks, hall, rfl⟩, htailed⟩
    · cases h
  · rintro ⟨⟨hword, blanks, hall, rfl⟩, htailed⟩
    have hblanks : Unquoted blanks := fun d hd => htext d (List.mem_append_right _ hd)
    have hrest : afterWord "from" ("from".toList ++ blanks ++ tail) = some (blanks ++ tail) :=
      (afterWord_append unquoted_from htail).mpr ⟨blanks, rfl, rfl⟩
    rw [hrest, if_pos (by rw [List.append_assoc]; exact (hboundary _).mpr hword)]
    exact (quoted_dropWhile hblanks htail).mpr ⟨hall, htailed⟩

/-- Whether a `from` clause leads up to a quote. -/
theorem fromClause_append (htext : Unquoted text) (htail : AtQuote tail) :
    fromClause before (text ++ tail) = some x ↔ ClauseLead before text ∧ quoted tail = some x := by
  induction text generalizing before x with
  | nil =>
    cases tail with
    | nil => simp [fromClause, not_clauseLead_nil]
    | cons q rest =>
      have hq : isQuote q = true := htail q rfl
      have hf : afterWord "from" (q :: rest) = none := by
        rw [Option.eq_none_iff_forall_ne_some]
        intro more hmore
        obtain rfl : q = 'f' := (List.cons.inj (afterWord_eq_some.mp hmore)).1
        exact absurd hq (by decide)
      simp [fromClause, hq, hf, not_clauseLead_nil]
  | cons c text ih =>
    have hc : isQuote c = false := htext c (.head _)
    have hhere := fun y =>
      (fromHere_append htext htail : fromHere before (c :: text ++ tail) = some y ↔ _)
    have hrest := fun y => (ih htext.of_cons : fromClause (some c) (text ++ tail) = some y ↔ _)
    rw [List.cons_append] at hhere ⊢
    rw [fromClause_cons, clauseLead_cons, or_and_right, ← hhere, and_assoc, ← hrest]
    cases hfound : fromHere before (c :: (text ++ tail)) with
    | none => simp [hc]
    | some y =>
      -- a later clause leads up to the same quote
      have hy : quoted tail = some y := ((hhere y).mp hfound).2
      rw [Option.some_or]
      constructor
      · exact .inl
      · rintro (heq | ⟨-, hlater⟩)
        · exact heq
        · exact hy.symm.trans ((hrest x).mp hlater).2

/-- A word that starts a statement: it holds no quote. -/
structure IsKeyword (keyword : String) : Prop where
  unquoted : Unquoted keyword.toList
  head : ∃ c, keyword.toList.head? = some c ∧ isWord c = true

/-- A statement starts at one of two keywords that stand apart from what is
before. -/
theorem keyword_append {first second : String} {f : List Char → Option (List Char × List Char)}
    (hkeywords : ∀ keyword ∈ [first, second], IsKeyword keyword)
    (hapart : ∀ more more' : List Char, first.toList ++ more ≠ second.toList ++ more')
    (htail : AtQuote tail) :
    (if isBoundary before (text ++ tail).head? then (afterEither first second (text ++ tail)).bind f
      else none) = some x ↔
    before.any isWord = false ∧ ∃ keyword ∈ [first, second],
      ∃ more, text = keyword.toList ++ more ∧ f (more ++ tail) = some x := by
  have hfirst := (hkeywords first (.head _)).unquoted
  have hsecond := (hkeywords second (.tail _ (.head _))).unquoted
  have hboundary : ∀ keyword ∈ [first, second], ∀ more : List Char,
      isBoundary before (keyword.toList ++ more).head? = true ↔ before.any isWord = false := by
    intro keyword hkeyword more
    obtain ⟨c, hc, hword⟩ := (hkeywords keyword hkeyword).head
    rw [List.head?_append, hc]
    exact isBoundary_word hword
  have heither : ∀ rest, afterEither first second (text ++ tail) = some rest ↔
      ∃ keyword ∈ [first, second], ∃ more, text = keyword.toList ++ more ∧ rest = more ++ tail := by
    intro rest
    rw [afterEither, Option.or_eq_some_iff, afterWord_append hfirst htail,
      afterWord_append hsecond htail]
    constructor
    · rintro (hmore | ⟨-, hmore⟩)
      · exact ⟨first, .head _, hmore⟩
      · exact ⟨second, .tail _ (.head _), hmore⟩
    · rintro ⟨keyword, hkeyword, more, rfl, rfl⟩
      obtain rfl | hkeyword := List.mem_cons.mp hkeyword
      · exact .inl ⟨more, rfl, rfl⟩
      · obtain rfl := List.mem_singleton.mp hkeyword
        refine .inr ⟨?_, more, rfl, rfl⟩
        rw [Option.eq_none_iff_forall_ne_some]
        intro rest hrest
        rw [List.append_assoc] at hrest
        exact hapart _ _ (afterWord_eq_some.mp hrest).symm
  constructor
  · intro h
    split at h
    · rename_i hhead
      obtain ⟨rest, hrest, hf⟩ := Option.bind_eq_some_iff.mp h
      obtain ⟨keyword, hkeyword, more, rfl, rfl⟩ := (heither rest).mp hrest
      rw [List.append_assoc] at hhead
      exact ⟨(hboundary keyword hkeyword _).mp hhead, keyword, hkeyword, more, rfl, hf⟩
    · cases h
  · rintro ⟨hword, keyword, hkeyword, more, rfl, hf⟩
    rw [(heither _).mpr ⟨keyword, hkeyword, more, rfl, rfl⟩, if_pos]
    · exact hf
    · rw [List.append_assoc]
      exact (hboundary keyword hkeyword _).mpr hword

/-- What keywords are can be computed. -/
theorem isKeyword_of_all {keywords : List String} (h : keywords.all fun keyword =>
      keyword.toList.all (!isQuote ·) && keyword.toList.head?.any isWord) :
    ∀ keyword ∈ keywords, IsKeyword keyword := by
  intro keyword hkeyword
  obtain ⟨hunquoted, hhead⟩ := Bool.and_eq_true_iff.mp (List.all_eq_true.mp h keyword hkeyword)
  exact ⟨fun c hc => by simpa using List.all_eq_true.mp hunquoted c hc,
    by simpa [Option.any_eq_true] using hhead⟩

theorem isKeyword_of_from : ∀ keyword ∈ ["import", "export"], IsKeyword keyword :=
  isKeyword_of_all (by decide)

theorem isKeyword_of_call : ∀ keyword ∈ ["import", "require"], IsKeyword keyword :=
  isKeyword_of_all (by decide)

/-- The form with a clause reads a lead and a quotation. -/
theorem fromForm_append (htext : Unquoted text) (htail : AtQuote tail) :
    fromForm before (text ++ tail) = some x ↔ FromLead before text ∧ quoted tail = some x := by
  have hafter : ∀ more : List Char, isBoundary (some 't') (more ++ tail).head? = true ↔
      more.head?.any isWord = false := by
    intro more
    rw [isBoundary_after_word (by decide)]
    cases more with
    | cons c more => rfl
    | nil =>
      cases tail with
      | nil => simp
      | cons q rest => simp [isWord_of_isQuote (htail q rfl)]
  rw [fromForm, keyword_append isKeyword_of_from (by simp) htail]
  constructor
  · rintro ⟨hbefore, keyword, hkeyword, more, rfl, hmore⟩
    have hunquoted : Unquoted more := fun c hc => htext c (List.mem_append_right _ hc)
    split at hmore
    · obtain ⟨hlead, hquoted⟩ := (fromClause_append hunquoted htail).mp hmore
      exact ⟨.intro hkeyword hbefore ((hafter more).mp ‹_›) hlead, hquoted⟩
    · cases hmore
  · rintro ⟨@⟨keyword, more, hkeyword, hbefore, hhead, hlead⟩, hquoted⟩
    have hunquoted : Unquoted more := fun c hc => htext c (List.mem_append_right _ hc)
    refine ⟨hbefore, keyword, hkeyword, more, rfl, ?_⟩
    rw [if_pos ((hafter more).mpr hhead)]
    exact (fromClause_append hunquoted htail).mpr ⟨hlead, hquoted⟩

/-- The bare form reads a lead and a quotation. -/
theorem bareForm_append (htext : Unquoted text) (htail : AtQuote tail) :
    bareForm before (text ++ tail) = some x ↔ BareLead before text ∧ quoted tail = some x := by
  have himport : Unquoted "import".toList := (isKeyword_of_from _ (.head _)).unquoted
  have hhead : ∀ more : List Char, ∀ c ∈ ("import".toList ++ more).head?, isBlank c = false := by
    intro more c hc
    cases hc
    decide
  rw [bareForm, dropWhile_append_atQuote htail]
  constructor
  · intro h
    split at h
    · rename_i hbefore
      obtain ⟨rest, hrest, hquoted⟩ := Option.bind_eq_some_iff.mp h
      obtain ⟨more, hmore, rfl⟩ := (afterWord_append himport htail).mp hrest
      obtain ⟨blanks, hblanks, rfl⟩ := (dropWhile_eq_iff (hhead more)).mp hmore
      have hunquoted : Unquoted more := fun c hc =>
        htext c (List.mem_append_right _ (List.mem_append_right _ hc))
      obtain ⟨hall, htailed⟩ := (quoted_dropWhile hunquoted htail).mp hquoted
      exact ⟨.intro (by simpa using hbefore) hblanks hall, htailed⟩
    · cases h
  · rintro ⟨@⟨blanks, blanks', hbefore, hblanks, hblanks'⟩, hquoted⟩
    have hunquoted : Unquoted blanks' := fun c hc =>
      htext c (List.mem_append_right _ (List.mem_append_right _ hc))
    have hdrop := (dropWhile_eq_iff (hhead blanks')).mpr ⟨blanks, hblanks, rfl⟩
    have hrest := (afterWord_append himport htail).mpr ⟨blanks', rfl, rfl⟩
    rw [hdrop, hrest, if_pos (by simpa using hbefore)]
    exact (quoted_dropWhile hunquoted htail).mpr ⟨hblanks', hquoted⟩

/-- The form of a call reads a lead and a quotation in parentheses. -/
theorem callForm_append (htext : Unquoted text) (htail : AtQuote tail) :
    callForm before (text ++ tail) = some x ↔
      CallLead before text ∧ (quoted tail).bind closed = some x := by
  have hparen : ∀ more : List Char, ∀ c ∈ ('(' :: more).head?, isBlank c = false := by
    intro more c hc
    cases hc
    decide
  rw [callForm, keyword_append isKeyword_of_call (by simp) htail]
  constructor
  · rintro ⟨hbefore, keyword, hkeyword, more, rfl, hmore⟩
    rw [dropWhile_append_atQuote htail] at hmore
    split at hmore
    · rename_i rest heq
      cases hdrop : more.dropWhile isBlank with
      | nil =>
        rw [hdrop] at heq
        have hquote : isQuote '(' = true := htail '(' (by rw [List.nil_append] at heq; simp [heq])
        cases hquote
      | cons c more' =>
        rw [hdrop] at heq
        obtain ⟨rfl, rfl⟩ := List.cons.inj heq
        obtain ⟨blanks, hblanks, rfl⟩ := (dropWhile_eq_iff (hparen more')).mp hdrop
        have hunquoted : Unquoted more' := fun d hd => htext d (by simp [hd])
        obtain ⟨y, hy, hclosed⟩ := Option.bind_eq_some_iff.mp hmore
        obtain ⟨hall, htailed⟩ := (quoted_dropWhile hunquoted htail).mp hy
        exact ⟨.intro hkeyword hbefore hblanks hall,
          Option.bind_eq_some_iff.mpr ⟨y, htailed, hclosed⟩⟩
    · cases hmore
  · rintro ⟨@⟨keyword, blanks, blanks', hkeyword, hbefore, hblanks, hblanks'⟩, hquoted⟩
    have hunquoted : Unquoted blanks' := fun d hd => htext d (by simp [hd])
    have hdrop := (dropWhile_eq_iff (hparen blanks')).mpr ⟨blanks, hblanks, rfl⟩
    obtain ⟨y, hy, hclosed⟩ := Option.bind_eq_some_iff.mp hquoted
    refine ⟨hbefore, keyword, hkeyword, _, rfl, ?_⟩
    rw [dropWhile_append_atQuote htail, hdrop]
    exact Option.bind_eq_some_iff.mpr ⟨y, (quoted_dropWhile hunquoted htail).mpr ⟨hblanks', hy⟩,
      hclosed⟩

/-! ## A form told by its lead -/

/-- A form finds a specifier where its lead stands before a quote, and reads it
from the quote on. -/
structure Form.Reads (form : Form) (lead : Option Char → List Char → Prop)
    (read : List Char → Option (List Char × List Char)) : Prop where
  /-- The lead and the text from the quote on tell what is found. -/
  append : ∀ {before text tail x}, Unquoted text → AtQuote tail →
    (form before (text ++ tail) = some x ↔ lead before text ∧ read tail = some x)
  /-- There is a lead. -/
  not_nil : ∀ before, ¬ lead before []
  /-- Something is read. -/
  length_read : ∀ {tail found rest}, read tail = some (found, rest) → rest.length < tail.length

theorem fromForm_reads : Form.Reads fromForm FromLead quoted where
  append := fromForm_append
  not_nil := by
    intro before h
    generalize htext : ([] : List Char) = text at h
    obtain @⟨keyword, clause, -, -, -, hclause⟩ := h
    obtain ⟨-, rfl⟩ := List.append_eq_nil_iff.mp htext.symm
    exact not_clauseLead_nil hclause
  length_read := length_quoted

theorem bareForm_reads : Form.Reads bareForm BareLead quoted where
  append := bareForm_append
  not_nil := by
    intro before h
    generalize htext : ([] : List Char) = text at h
    cases h
    simp at htext
  length_read := length_quoted

theorem callForm_reads : Form.Reads callForm CallLead fun text => (quoted text).bind closed where
  append := callForm_append
  not_nil := by
    intro before h
    generalize htext : ([] : List Char) = text at h
    cases h
    simp at htext
  length_read := by
    intro tail found rest h
    obtain ⟨y, hy, hclosed⟩ := Option.bind_eq_some_iff.mp h
    have hquoted : y.2.length < tail.length :=
      length_quoted (hy : quoted tail = some (y.1, y.2))
    have hrest := length_closed hclosed
    omega

/-! ## All specifiers of a form -/

/-- The specifiers of a form from some place of a text on. -/
def scan (form : Form) (before : Option Char) (text : List Char) : List (List Char) :=
  statements form text.length before text

/-- Somewhere in a text starts a lead that goes up to its end. -/
def EndsInLead (lead : Option Char → List Char → Prop) (before : Option Char) (text : List Char) :
    Prop :=
  ∃ first last, text = first ++ last ∧ lead (lastOf before first) last

@[simp] theorem scan_nil (form : Form) (before : Option Char) : scan form before [] = [] := rfl

theorem scan_of_none {form : Form} (hnone : form before (c :: text) = none) :
    scan form before (c :: text) = scan form (some c) text := by
  rw [scan, List.length_cons, statements, hnone]
  rfl

namespace Form.Reads

variable {form : Form} {leads : Option Char → List Char → Prop}
  {read : List Char → Option (List Char × List Char)} (h : form.Reads leads read)

include h

theorem length_lt (hfound : form before text = some (found, rest)) : rest.length < text.length := by
  have hsplit := List.takeWhile_append_dropWhile (p := fun c => !isQuote c) (l := text)
  have hunquoted : Unquoted (text.takeWhile fun c => !isQuote c) := fun c hc => by
    simpa using List.mem_takeWhile_imp hc
  have hquote : AtQuote (text.dropWhile fun c => !isQuote c) := by
    intro c hc
    have := List.head?_dropWhile_not (fun c => !isQuote c) text
    rw [Option.mem_def.mp hc] at this
    simpa using this
  rw [← hsplit, h.append hunquoted hquote] at hfound
  have hread := h.length_read hfound.2
  have hle := (List.dropWhile_sublist (fun c => !isQuote c) (l := text)).length_le
  omega

/-- As many steps as there are characters are enough. -/
theorem statements_eq {budget : Nat} (hbudget : text.length ≤ budget) :
    statements form budget before text = scan form before text := by
  induction hlength : text.length using Nat.strongRecOn generalizing budget before text with
  | ind length ih =>
    cases text with
    | nil =>
      cases budget with
      | zero => rfl
      | succ budget => rfl
    | cons c text =>
      rw [List.length_cons] at hbudget hlength
      obtain ⟨budget, rfl⟩ : ∃ more, budget = more + 1 := ⟨budget - 1, by omega⟩
      rw [scan, List.length_cons, statements, statements]
      cases hfound : form before (c :: text) with
      | none =>
        have hleft : statements form budget (some c) text = scan form (some c) text :=
          ih text.length (by omega) (by omega) rfl
        exact hleft
      | some x =>
        -- what follows the specifier is shorter, and both have steps enough for it
        have hlt := h.length_lt hfound
        rw [List.length_cons] at hlt
        have hleft : statements form budget (some ')') x.2 = scan form (some ')') x.2 :=
          ih x.2.length (by omega) (by omega) rfl
        have hright : statements form text.length (some ')') x.2 = scan form (some ')') x.2 :=
          ih x.2.length (by omega) (by omega) rfl
        exact congrArg (x.1 :: ·) (hleft.trans hright.symm)

/-- Where a form reads, the scan goes on after it. -/
theorem scan_of_some (hfound : form before (c :: text) = some (found, rest)) :
    scan form before (c :: text) = found :: scan form (some ')') rest := by
  have hlt := h.length_lt hfound
  rw [List.length_cons] at hlt
  rw [scan, List.length_cons, statements, hfound]
  exact congrArg (found :: ·) (h.statements_eq (by omega))

/-- **Nothing is found up to a quote** that no lead goes up to, or from which
nothing can be read. -/
theorem scan_skip (htext : Unquoted text) (hquote : AtQuote tail)
    (hnone : EndsInLead leads before text → read tail = none) :
    scan form before (text ++ tail) = scan form (lastOf before text) tail := by
  induction text generalizing before with
  | nil => rfl
  | cons c text ih =>
    have hhere : form before (c :: text ++ tail) = none := by
      rw [Option.eq_none_iff_forall_ne_some]
      intro x hx
      obtain ⟨hlead, hread⟩ := (h.append htext hquote).mp hx
      rw [hnone ⟨[], _, rfl, hlead⟩] at hread
      cases hread
    rw [List.cons_append] at hhere ⊢
    rw [scan_of_none hhere, lastOf_cons]
    refine ih htext.of_cons fun hlead => hnone ?_
    obtain ⟨first, last, rfl, hlead⟩ := hlead
    exact ⟨c :: first, last, rfl, by rwa [lastOf_cons]⟩

/-- A text without quotes has no specifiers. -/
theorem scan_unquoted (htext : Unquoted text) : scan form before text = [] := by
  have hnil : read [] = none := by
    rw [Option.eq_none_iff_forall_ne_some]
    intro x hx
    have hlt := h.length_read (hx : read [] = some (x.1, x.2))
    exact absurd hlt (Nat.not_lt_zero _)
  have hskip : scan form before (text ++ []) = _ :=
    h.scan_skip htext atQuote_nil fun _ => hnil
  rwa [List.append_nil] at hskip

/-- At a quote starts no statement. -/
theorem scan_quote (hq : isQuote q = true) (rest : List Char) :
    scan form before (q :: rest) = scan form (some q) rest := by
  refine scan_of_none ?_
  rw [Option.eq_none_iff_forall_ne_some]
  intro x hx
  have hempty : Unquoted [] := fun _ hc => nomatch hc
  have happend : form before ([] ++ q :: rest) = some x ↔ _ :=
    h.append hempty (atQuote_cons hq rest)
  exact h.not_nil before (happend.mp hx).1

/-- **A specifier is found at a quote** that a lead goes up to. -/
theorem scan_read (htext : Unquoted text) (hquote : AtQuote tail)
    (hlead : EndsInLead leads before text) (hread : read tail = some (found, rest)) :
    scan form before (text ++ tail) = found :: scan form (some ')') rest := by
  induction text generalizing before with
  | nil =>
    obtain ⟨first, last, hnil, hlead⟩ := hlead
    obtain ⟨rfl, rfl⟩ := List.append_eq_nil_iff.mp hnil.symm
    exact absurd hlead (h.not_nil _)
  | cons c text ih =>
    rw [List.cons_append]
    cases hhere : form before (c :: (text ++ tail)) with
    | some x =>
      -- whichever lead comes first, it is this quote that it goes up to
      obtain ⟨-, hx⟩ := (h.append htext hquote).mp hhere
      cases hread.symm.trans hx
      exact h.scan_of_some hhere
    | none =>
      rw [scan_of_none hhere]
      refine ih htext.of_cons ?_
      obtain ⟨first, last, heq, hlead⟩ := hlead
      cases first with
      | nil =>
        rw [List.nil_append] at heq
        subst heq
        have hsome := (h.append htext hquote).mpr ⟨hlead, hread⟩
        cases hhere.symm.trans hsome
      | cons d first =>
        obtain ⟨rfl, rfl⟩ := List.cons.inj heq
        exact ⟨first, last, rfl, by rwa [lastOf_cons] at hlead⟩

end Form.Reads

end Ratchet.TypeScript

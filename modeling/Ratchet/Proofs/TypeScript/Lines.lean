import Mathlib.Data.List.Chain
import Mathlib.Data.List.Nodup
import Ratchet.Proofs.TypeScript.Form
import Ratchet.Text.Split

/-!
# Lines of import statements

A text with one import statement on each line. Every form finds the specifiers
of its own statements, but it may also start within the specifier of another
statement: where that specifier reads like the start of a statement up to its
quote, the form takes the text up to the next quote for a specifier.

* `Line`: an import statement that fills a line.
* `Line.Misleads`: a specifier that reads like the start of a statement.
* `Form.Takes`: a form and the statements that are its own.
* `Form.Takes.scan_lines`: what a form finds in some lines.
* `specifiers_of_lines`: which texts have no other specifiers than their own.
* `misleading_specifier_hides_one`: a text that has another one.
-/

namespace Ratchet.TypeScript

open Text (isBlank isWord)

/-- What stands around the specifier of an import statement. -/
inductive Shape where
  /-- `import … from '…';` or `export … from '…';`. -/
  | clause (exported : Bool) (names : List Char)
  /-- `import '…';`. -/
  | bare
  /-- `const x = require('…');`. -/
  | required
  /-- `import('…');`. -/
  | called
  deriving Repr, DecidableEq

namespace Shape

/-- What stands before the specifier. -/
def opening : Shape → List Char
  | clause exported names =>
    (if exported then "export" else "import").toList ++ (' ' :: names ++ " from ".toList)
  | bare => "import ".toList
  | required => "const x = require(".toList
  | called => "import(".toList

/-- What stands behind the specifier. -/
def closing : Shape → List Char
  | clause .. | bare => ";".toList
  | required | called => ");".toList

/-- Whether the statement has a `from` clause. -/
def isClause : Shape → Bool
  | clause .. => true
  | _ => false

/-- Whether the statement is nothing but an import. -/
def isBare : Shape → Bool
  | bare => true
  | _ => false

/-- Whether the statement is a call. -/
def isCall : Shape → Bool
  | required | called => true
  | _ => false

/-- There are names in a `from` clause, on one line and without quotes and
semicolons. -/
def IsProper : Shape → Prop
  | clause _ names => names ≠ [] ∧ ∀ c ∈ names, isQuote c = false ∧ c ≠ ';' ∧ c ≠ '\n'
  | _ => True

end Shape

/-- **An import statement that fills a line.** -/
structure Line where
  /-- What stands around the specifier. -/
  shape : Shape
  /-- The quote at both ends of the specifier. -/
  quote : Char
  /-- The specifier. -/
  specifier : List Char
  isProper : shape.IsProper
  isQuote_quote : isQuote quote = true
  ne_nil : specifier ≠ []
  plain : ∀ c ∈ specifier, isQuote c = false ∧ isBlank c = false ∧ c ≠ ';'

namespace Line

/-- The text of a statement from the quote on. -/
def behind (l : Line) : List Char :=
  l.quote :: (l.specifier ++ l.quote :: l.shape.closing)

/-- The text of a statement. -/
def text (l : Line) : List Char :=
  l.shape.opening ++ l.behind

/-- A statement whose specifier reads like the start of a statement of another
form, for which the form then takes the next line up to its quote. A call has
to be closed behind that quote. -/
def Misleads (l l' : Line) : Prop :=
  l.shape.isClause = false ∧ EndsInLead FromLead (some l.quote) l.specifier ∨
    l.shape.isCall = false ∧ EndsInLead CallLead (some l.quote) l.specifier ∧
      l'.specifier.head? = some ')'

theorem unquoted (l : Line) : Unquoted l.specifier :=
  fun c hc => (l.plain c hc).1

end Line

/-- A text of some lines; the last one may end with a line break. -/
def page (lines : List Line) (terminated : Bool) : List Char :=
  Text.join '\n' (lines.map (·.text)) ++ if terminated then ['\n'] else []

/-- What follows a line: the other lines and the end of the text. -/
def following (ending : List Char) : List Line → List Char
  | [] => ending
  | l :: ls => '\n' :: (l.text ++ following ending ls)

/-- A page is its first line and the others. -/
theorem page_cons (l : Line) (ls : List Line) (terminated : Bool) :
    page (l :: ls) terminated = l.text ++ following (if terminated then ['\n'] else []) ls := by
  induction ls generalizing l with
  | nil => rfl
  | cons l' ls ih =>
    have hrest := ih l'
    rw [page] at hrest ⊢
    rw [following, ← hrest]
    simp [Text.join]

/-! ## Where leads end -/

variable {before : Option Char} {first last text gap rest : List Char} {c q : Char} {l l' : Line}
  {leads : Option Char → List Char → Prop}

/-- The last character of a text that is not blank. -/
def lastInk (text : List Char) : Option Char :=
  (text.reverse.dropWhile isBlank).head?

theorem lastInk_append {blanks : List Char} (hc : isBlank c = false)
    (hblanks : ∀ d ∈ blanks, isBlank d = true) (text : List Char) :
    lastInk (text ++ c :: blanks) = some c := by
  have hreverse : ∀ d ∈ blanks.reverse, isBlank d = true := fun d hd =>
    hblanks d (List.mem_reverse.mp hd)
  rw [lastInk, List.reverse_append, List.reverse_cons, List.append_assoc,
    List.dropWhile_append_of_pos hreverse, List.singleton_append,
    List.dropWhile_cons_of_neg (by simp [hc])]
  rfl

/-- What the opening of a shape ends in. -/
theorem lastInk_opening (s : Shape) :
    lastInk s.opening =
      if s.isClause then some 'm' else if s.isBare then some 't' else some '(' := by
  have hspace : ∀ d ∈ [' '], isBlank d = true := List.forall_mem_singleton.mpr (by decide)
  cases s with
  | clause exported names =>
    have hsplit : (Shape.clause exported names).opening =
        ((if exported then "export" else "import").toList ++ (' ' :: names ++ " fro".toList)) ++
          'm' :: [' '] := by
      have hfrom : " from ".toList = " fro".toList ++ 'm' :: [' '] := rfl
      show _ ++ (' ' :: names ++ " from ".toList) = _
      rw [hfrom]
      simp only [List.append_assoc, List.cons_append]
    rw [hsplit, lastInk_append (by decide) hspace]
    rfl
  | bare =>
    have hsplit : Shape.bare.opening = "impor".toList ++ 't' :: [' '] := rfl
    rw [hsplit, lastInk_append (by decide) hspace]
    rfl
  | required =>
    have hsplit : Shape.required.opening = "const x = require".toList ++ '(' :: [] := rfl
    rw [hsplit, lastInk_append (by decide) (by simp)]
    rfl
  | called =>
    have hsplit : Shape.called.opening = "import".toList ++ '(' :: [] := rfl
    rw [hsplit, lastInk_append (by decide) (by simp)]
    rfl

/-- A lead with a clause ends in the word before the quotation. -/
theorem lastInk_of_fromLead (h : EndsInLead FromLead before text) : lastInk text = some 'm' := by
  obtain ⟨first, _, rfl, @⟨keyword, _, -, -, -, @⟨names, blanks, -, -, hblanks⟩⟩⟩ := h
  have hsplit : first ++ (keyword.toList ++ (names ++ ("from".toList ++ blanks))) =
      (first ++ keyword.toList ++ names ++ "fro".toList) ++ 'm' :: blanks := by simp
  rw [hsplit]
  exact lastInk_append (by decide) hblanks _

/-- A bare lead ends in its keyword. -/
theorem lastInk_of_bareLead (h : EndsInLead BareLead before text) : lastInk text = some 't' := by
  obtain ⟨first, _, rfl, @⟨blanks, blanks', -, -, hblanks'⟩⟩ := h
  have hsplit : first ++ (blanks ++ ("import".toList ++ blanks')) =
      (first ++ blanks ++ "impor".toList) ++ 't' :: blanks' := by simp
  rw [hsplit]
  exact lastInk_append (by decide) hblanks' _

/-- The lead of a call ends in a parenthesis. -/
theorem lastInk_of_callLead (h : EndsInLead CallLead before text) : lastInk text = some '(' := by
  obtain ⟨first, _, rfl, @⟨keyword, blanks, blanks', -, -, -, hblanks'⟩⟩ := h
  have hsplit : first ++ (keyword.toList ++ (blanks ++ '(' :: blanks')) =
      (first ++ keyword.toList ++ blanks) ++ '(' :: blanks' := by simp
  rw [hsplit]
  exact lastInk_append (by decide) hblanks' _

/-- A lead starts here or further on. -/
theorem endsInLead_cons : EndsInLead leads before (c :: text) ↔
    leads before (c :: text) ∨ EndsInLead leads (some c) text := by
  constructor
  · rintro ⟨first, last, heq, hlead⟩
    cases first with
    | nil => exact .inl (by rw [heq]; exact hlead)
    | cons d first =>
      obtain ⟨rfl, rfl⟩ := List.cons.inj heq
      exact .inr ⟨first, last, rfl, by rwa [lastOf_cons] at hlead⟩
  · rintro (hlead | ⟨first, last, rfl, hlead⟩)
    · exact ⟨[], _, rfl, hlead⟩
    · exact ⟨c :: first, last, rfl, by rwa [lastOf_cons]⟩

/-! ## The own statements of a form -/

/-- A form and the statements that are its own. It may take the text from one
quote to the next one for a specifier if the line behind it does not keep it
from doing so. -/
structure Form.Takes (form : Form) (leads : Option Char → List Char → Prop)
    (read : List Char → Option (List Char × List Char)) (own : Shape → Bool) (lets : Line → Prop) :
    Prop extends form.Reads leads read where
  /-- Its lead goes up to the quote of its own statements only. -/
  opening : ∀ {before} {l : Line}, before = none ∨ before = some '\n' →
    (EndsInLead leads before l.shape.opening ↔ own l.shape = true)
  /-- No lead starts between two statements. -/
  not_gap : ∀ before text, ¬ leads before (')' :: text) ∧ ¬ leads before (';' :: text) ∧
    ¬ leads (some ';') ('\n' :: text)
  /-- The specifier of an own statement is read. -/
  read_own : ∀ {l : Line} {rest}, own l.shape = true →
    read (l.behind ++ rest) = some (l.specifier, ';' :: rest)
  /-- The text up to the next line may be read. -/
  read_gap : ∀ {q gap} {l : Line} (rest), isQuote q = true → Unquoted gap → gap ≠ [] → lets l →
    ∃ rest', read (q :: (gap ++ (l.behind ++ rest))) = some (gap, rest')
  /-- Otherwise it is not. -/
  read_gap_none : ∀ {q gap} {l : Line} {rest}, isQuote q = true → Unquoted gap → gap ≠ [] →
    ¬ lets l → read (q :: (gap ++ (l.behind ++ rest))) = none
  /-- Nothing is read behind the last quote. -/
  read_end : ∀ {q text}, Unquoted text → read (q :: text) = none

theorem isWord_of_keyword {keyword : String} (hkeyword : IsKeyword keyword) {more : List Char}
    (heq : c :: text = keyword.toList ++ more) : isWord c = true := by
  obtain ⟨d, hd, hword⟩ := hkeyword.head
  have hhead : (keyword.toList ++ more).head? = some d := by
    rw [List.head?_append, hd]
    rfl
  rw [← heq] at hhead
  cases hhead
  exact hword

theorem isWord_of_fromLead (h : FromLead before (c :: text)) : isWord c = true := by
  generalize htext : c :: text = lead at h
  cases h with
  | intro hkeyword => exact isWord_of_keyword (isKeyword_of_from _ hkeyword) htext

theorem isWord_of_callLead (h : CallLead before (c :: text)) : isWord c = true := by
  generalize htext : c :: text = lead at h
  cases h with
  | intro hkeyword => exact isWord_of_keyword (isKeyword_of_call _ hkeyword) htext

theorem head_of_bareLead (h : BareLead before (c :: text)) :
    (before = none ∨ before = some '\n') ∧ (isBlank c = true ∨ c = 'i') := by
  generalize htext : c :: text = lead at h
  obtain @⟨blanks, blanks', hbefore, hblanks, -⟩ := h
  refine ⟨hbefore, ?_⟩
  cases blanks with
  | nil => exact .inr (List.cons.inj htext).1
  | cons d blanks =>
    obtain ⟨rfl, -⟩ := List.cons.inj htext
    exact .inl (hblanks c (.head _))

theorem closed_cons (hc : isBlank c = false) (found rest : List Char) :
    closed (found, c :: rest) = if c = ')' then some (found, rest) else none := by
  rw [closed, List.dropWhile_cons_of_neg (by simp [hc])]
  split
  · rename_i heq
    cases heq
    rfl
  · rename_i hne
    rw [if_neg]
    rintro rfl
    exact hne rest rfl

/-- Behind its opening a line has its specifier. -/
theorem quoted_behind (l : Line) (rest : List Char) :
    quoted (l.behind ++ rest) = some (l.specifier, l.shape.closing ++ rest) := by
  have hquoted := quoted_append l.isQuote_quote l.unquoted l.ne_nil l.isQuote_quote
    (l.shape.closing ++ rest)
  rw [← hquoted]
  simp [Line.behind]

theorem quoted_gap (hq : isQuote q = true) (hgap : Unquoted gap) (hne : gap ≠ []) (l : Line)
    (rest : List Char) : quoted (q :: (gap ++ (l.behind ++ rest))) =
      some (gap, l.specifier ++ (l.quote :: (l.shape.closing ++ rest))) := by
  have hquoted := quoted_append hq hgap hne l.isQuote_quote
    (l.specifier ++ l.quote :: (l.shape.closing ++ rest))
  rw [← hquoted]
  simp [Line.behind]

/-- What stands between words and between statements is no part of a word. -/
theorem isWord_gap {c : Char} (h : [' ', '\n', ')', ';'].contains c = true) :
    isWord c = false := by
  have hall : [' ', '\n', ')', ';'].all (!isWord ·) = true := by decide +kernel
  simpa using List.all_eq_true.mp hall c (List.contains_iff_mem.mp h)

theorem any_isWord_gap {c : Char} (h : [' ', '\n', ')', ';'].contains c = true) :
    (some c).any isWord = false := by
  rw [Option.any_some, isWord_gap h]

theorem any_isWord_before (hbefore : before = none ∨ before = some '\n') :
    before.any isWord = false := by
  obtain rfl | rfl := hbefore
  · rfl
  · exact any_isWord_gap (by decide)

/-- The lead of a `from` clause goes up to the quote. -/
theorem endsInLead_clause (hbefore : before = none ∨ before = some '\n') {exported : Bool}
    {names : List Char} (hproper : (Shape.clause exported names).IsProper) :
    EndsInLead FromLead before (Shape.clause exported names).opening := by
  have hspace : (some ' ').any isWord = false := any_isWord_gap (by decide)
  have hkeyword : (if exported then "export" else "import") ∈ ["import", "export"] := by
    cases exported <;> decide
  have hsplit : (Shape.clause exported names).opening =
      (if exported then "export" else "import").toList ++
        ((' ' :: (names ++ [' '])) ++ ("from".toList ++ [' '])) := by
    have hfrom : " from ".toList = [' '] ++ ("from".toList ++ [' ']) := rfl
    show _ ++ (' ' :: names ++ " from ".toList) = _
    rw [hfrom]
    simp only [List.append_assoc, List.cons_append]
  have hclause : ClauseLead (some 't') (' ' :: (names ++ [' ']) ++ ("from".toList ++ [' '])) := by
    refine .intro ?_ ?_ (List.forall_mem_singleton.mpr (by decide))
    · have hnames : ';' ∉ names := fun hmem => (hproper.2 ';' hmem).2.1 rfl
      simp [hnames]
    · rw [lastOf_cons, lastOf_concat]
      exact hspace
  exact ⟨[], _, hsplit, .intro hkeyword (any_isWord_before hbefore) hspace hclause⟩

theorem endsInLead_bare (hbefore : before = none ∨ before = some '\n') :
    EndsInLead BareLead before Shape.bare.opening :=
  ⟨[], [] ++ ("import".toList ++ [' ']), rfl, .intro hbefore (by simp)
    (List.forall_mem_singleton.mpr (by decide))⟩

theorem endsInLead_required : EndsInLead CallLead before Shape.required.opening := by
  refine ⟨"const x = ".toList, "require".toList ++ ([] ++ '(' :: []), rfl, ?_⟩
  refine .intro (by decide) ?_ (by simp) (by simp)
  have hspace : (some ' ').any isWord = false := any_isWord_gap (by decide)
  exact hspace

theorem endsInLead_called (hbefore : before = none ∨ before = some '\n') :
    EndsInLead CallLead before Shape.called.opening :=
  ⟨[], "import".toList ++ ([] ++ '(' :: []), rfl,
    .intro (by decide) (any_isWord_before hbefore) (by simp) (by simp)⟩

/-- A lead that starts with a word starts in no gap. -/
theorem not_gap_of_isWord (hword : ∀ {before c text}, leads before (c :: text) → isWord c = true)
    (before : Option Char) (text : List Char) : ¬ leads before (')' :: text) ∧
      ¬ leads before (';' :: text) ∧ ¬ leads (some ';') ('\n' :: text) := by
  have hnot : ∀ {before c}, [' ', '\n', ')', ';'].contains c = true →
      ¬ leads before (c :: text) := by
    intro before c hc h
    have hyes := hword h
    rw [isWord_gap hc] at hyes
    cases hyes
  exact ⟨hnot (by decide), hnot (by decide), hnot (by decide)⟩

/-! ## How a statement is closed -/

theorem closing_of_isCall {s : Shape} (h : s.isCall = true) : s.closing = [')', ';'] := by
  cases s with
  | required => rfl
  | called => rfl
  | _ => cases h

theorem closing_of_not_isCall {s : Shape} (h : s.isCall = false) : s.closing = [';'] := by
  cases s with
  | clause => rfl
  | bare => rfl
  | _ => cases h

theorem closing_cases (s : Shape) : s.closing = [';'] ∨ s.closing = [')', ';'] := by
  cases h : s.isCall with
  | false => exact .inl (closing_of_not_isCall h)
  | true => exact .inr (closing_of_isCall h)

/-! ## The three forms -/

/-- Statements with a `from` clause. -/
theorem fromForm_takes : Form.Takes fromForm FromLead quoted Shape.isClause (fun _ => True) where
  toReads := fromForm_reads
  opening := by
    intro before l hbefore
    constructor
    · intro h
      have hink := lastInk_of_fromLead h
      rw [lastInk_opening] at hink
      cases hshape : l.shape <;> simp_all [Shape.isClause, Shape.isBare]
    · intro h
      have hproper := l.isProper
      cases hshape : l.shape with
      | clause exported names =>
        rw [hshape] at hproper
        exact endsInLead_clause hbefore hproper
      | _ => rw [hshape] at h; cases h
  not_gap := not_gap_of_isWord isWord_of_fromLead
  read_own := by
    intro l rest hown
    have hcall : l.shape.isCall = false := by
      cases hshape : l.shape with
      | clause exported names => rfl
      | _ => rw [hshape] at hown; cases hown
    rw [quoted_behind, closing_of_not_isCall hcall]
    rfl
  read_gap := by
    intro q gap l rest hq hgap hne _
    exact ⟨_, quoted_gap hq hgap hne l rest⟩
  read_gap_none := fun _ _ _ h => absurd trivial h
  read_end := fun htext => quoted_unquoted htext _

/-- Statements that are nothing but an import. -/
theorem bareForm_takes : Form.Takes bareForm BareLead quoted Shape.isBare (fun _ => True) where
  toReads := bareForm_reads
  opening := by
    intro before l hbefore
    constructor
    · intro h
      have hink := lastInk_of_bareLead h
      rw [lastInk_opening] at hink
      cases hshape : l.shape <;> simp_all [Shape.isClause, Shape.isBare]
    · intro h
      cases hshape : l.shape with
      | bare => exact endsInLead_bare hbefore
      | _ => rw [hshape] at h; cases h
  not_gap := by
    intro before text
    refine ⟨fun h => ?_, fun h => ?_, fun h => ?_⟩
    · exact absurd (head_of_bareLead h).2 (by decide)
    · exact absurd (head_of_bareLead h).2 (by decide)
    · exact absurd (head_of_bareLead h).1 (by decide)
  read_own := by
    intro l rest hown
    have hcall : l.shape.isCall = false := by
      cases hshape : l.shape with
      | bare => rfl
      | _ => rw [hshape] at hown; cases hown
    rw [quoted_behind, closing_of_not_isCall hcall]
    rfl
  read_gap := by
    intro q gap l rest hq hgap hne _
    exact ⟨_, quoted_gap hq hgap hne l rest⟩
  read_gap_none := fun _ _ _ h => absurd trivial h
  read_end := fun htext => quoted_unquoted htext _

/-- Calls, which have to be closed. -/
theorem callForm_takes : Form.Takes callForm CallLead (fun text => (quoted text).bind closed)
    Shape.isCall (fun l => l.specifier.head? = some ')') where
  toReads := callForm_reads
  opening := by
    intro before l hbefore
    constructor
    · intro h
      have hink := lastInk_of_callLead h
      rw [lastInk_opening] at hink
      cases hshape : l.shape <;> simp_all [Shape.isClause, Shape.isBare, Shape.isCall]
    · intro h
      cases hshape : l.shape with
      | required => exact endsInLead_required
      | called => exact endsInLead_called hbefore
      | _ => rw [hshape] at h; cases h
  not_gap := not_gap_of_isWord isWord_of_callLead
  read_own := by
    intro l rest hown
    have hparen : isBlank ')' = false := by decide
    rw [quoted_behind, closing_of_isCall hown]
    exact closed_cons hparen _ _
  read_gap := by
    intro q gap l rest hq hgap hne hlets
    obtain ⟨more, hmore⟩ := List.head?_eq_some_iff.mp hlets
    have hread := quoted_gap hq hgap hne l rest
    rw [hmore] at hread
    refine ⟨more ++ (l.quote :: (l.shape.closing ++ rest)), ?_⟩
    have hparen : isBlank ')' = false := by decide
    rw [hread]
    exact closed_cons hparen _ _
  read_gap_none := by
    intro q gap l rest hq hgap hne hlets
    rw [quoted_gap hq hgap hne]
    obtain ⟨c, more, hmore⟩ := List.exists_cons_of_ne_nil l.ne_nil
    have hblank := (l.plain c (by rw [hmore]; exact .head _)).2.1
    rw [hmore] at hlets ⊢
    have hclosed := closed_cons hblank gap (more ++ (l.quote :: (l.shape.closing ++ rest)))
    rw [if_neg (by simpa using hlets)] at hclosed
    exact hclosed
  read_end := by
    intro q text htext
    rw [quoted_unquoted htext]
    rfl

/-! ## What a form finds -/

theorem following_cons (close ending : List Char) (l : Line) (ls : List Line) :
    close ++ following ending (l :: ls) =
      (close ++ '\n' :: l.shape.opening) ++ (l.behind ++ following ending ls) := by
  simp [following, Line.text]

/-- The opening of a line has no quotes. -/
theorem unquoted_opening (l : Line) : Unquoted l.shape.opening := by
  have hproper := l.isProper
  have hall : ∀ literal ∈ ["import", "export", " ", " from ", "import ", "const x = require(",
      "import("], (literal.toList.all fun c => isQuote c = false) = true := by decide
  have hliteral := fun literal hmem => List.all_iff_forall_prop.mp (hall literal hmem)
  intro c hc
  cases hshape : l.shape with
  | clause exported names =>
    rw [hshape] at hc hproper
    have hc : c ∈ (if exported then "export" else "import").toList ++
        (' ' :: (names ++ " from ".toList)) := hc
    simp only [List.mem_append, List.mem_cons] at hc
    obtain hc | rfl | hc | hc := hc
    · exact hliteral _ (by cases exported <;> decide) c hc
    · decide
    · exact (hproper.2 c hc).1
    · exact hliteral " from " (by decide) c hc
  | bare => exact hliteral "import " (by decide) c (by rwa [hshape] at hc)
  | required => exact hliteral "const x = require(" (by decide) c (by rwa [hshape] at hc)
  | called => exact hliteral "import(" (by decide) c (by rwa [hshape] at hc)

theorem unquoted_close {close : List Char} (hclose : close = [';'] ∨ close = [')', ';']) :
    Unquoted close := by
  obtain rfl | rfl := hclose <;> exact List.all_iff_forall_prop.mp (by decide)

theorem unquoted_gap {close : List Char} (hclose : close = [';'] ∨ close = [')', ';']) (l : Line) :
    Unquoted (close ++ '\n' :: l.shape.opening) := by
  intro c hc
  obtain hc | rfl | hc : c ∈ close ∨ c = '\n' ∨ c ∈ l.shape.opening := by simpa using hc
  · exact unquoted_close hclose c hc
  · decide
  · exact unquoted_opening l c hc

/-- A specifier of a statement that is not the form's own, behind which the form
takes the text up to the next quote. -/
def Form.Misled (leads : Option Char → List Char → Prop) (own : Shape → Bool) (lets : Line → Prop)
    (l l' : Line) : Prop :=
  own l.shape = false ∧ EndsInLead leads (some l.quote) l.specifier ∧ lets l'

/-- The specifiers of the own statements of a form. -/
def ownSpecifiers (own : Shape → Bool) (lines : List Line) : List (List Char) :=
  (lines.filter fun l => own l.shape).map (·.specifier)

theorem ownSpecifiers_cons (own : Shape → Bool) (l : Line) (ls : List Line) :
    ownSpecifiers own (l :: ls) =
      if own l.shape then l.specifier :: ownSpecifiers own ls else ownSpecifiers own ls := by
  cases hown : own l.shape <;> simp [ownSpecifiers, hown]

/-- The occurrences on a page, from its first line on. -/
theorem occurrences_cons (form : Form) (l : Line) (ls : List Line) (terminated : Bool) :
    occurrences form (page (l :: ls) terminated) = scan form none
      (l.shape.opening ++ (l.behind ++ following (if terminated then ['\n'] else []) ls)) := by
  rw [page_cons, Line.text, List.append_assoc]
  rfl

namespace Form.Takes

variable {form : Form} {read : List Char → Option (List Char × List Char)} {own : Shape → Bool}
  {lets : Line → Prop} (h : form.Takes leads read own lets) {ending : List Char}

include h

/-- Between two statements the lead starts with the second one. -/
theorem endsInLead_gap (before : Option Char) (l : Line) {close : List Char}
    (hclose : close = [';'] ∨ close = [')', ';']) :
    EndsInLead leads before (close ++ '\n' :: l.shape.opening) ↔ own l.shape = true := by
  have hopening := h.opening (l := l) (.inr (rfl : some '\n' = some '\n'))
  have hsemicolon : ∀ before, EndsInLead leads before (';' :: '\n' :: l.shape.opening) ↔
      own l.shape = true := by
    intro before
    obtain ⟨-, hnot, -⟩ := h.not_gap before ('\n' :: l.shape.opening)
    obtain ⟨-, -, hbreak⟩ := h.not_gap none l.shape.opening
    rw [endsInLead_cons, endsInLead_cons, or_iff_right hnot, or_iff_right hbreak, hopening]
  obtain rfl | rfl := hclose
  · exact hsemicolon before
  · obtain ⟨hnot, -, -⟩ := h.not_gap before (';' :: '\n' :: l.shape.opening)
    show EndsInLead leads before (')' :: ';' :: '\n' :: l.shape.opening) ↔ _
    rw [endsInLead_cons, or_iff_right hnot]
    exact hsemicolon _

/-- An own statement is found. -/
theorem scan_own (hgap : Unquoted gap) (hlead : EndsInLead leads before gap)
    (hown : own l.shape = true) (rest : List Char) :
    scan form before (gap ++ (l.behind ++ rest)) =
      l.specifier :: scan form (some ')') (';' :: rest) :=
  h.scan_read hgap (atQuote_cons l.isQuote_quote _) hlead (h.read_own hown)

/-- Another statement is passed up to its specifier. -/
theorem scan_other (hgap : Unquoted gap) (hlead : ¬ EndsInLead leads before gap)
    (rest : List Char) : scan form before (gap ++ (l.behind ++ rest)) =
      scan form (some l.quote) (l.specifier ++ l.quote :: (l.shape.closing ++ rest)) := by
  have hbehind : l.behind ++ rest =
      l.quote :: (l.specifier ++ l.quote :: (l.shape.closing ++ rest)) := by simp [Line.behind]
  rw [hbehind, h.scan_skip hgap (atQuote_cons l.isQuote_quote _) fun hends => absurd hends hlead,
    h.scan_quote l.isQuote_quote]

/-- Its specifier is passed, too, unless the form takes it for a lead. -/
theorem scan_specifier (hnone : EndsInLead leads (some l.quote) l.specifier →
      read (l.quote :: rest) = none) :
    scan form (some l.quote) (l.specifier ++ l.quote :: rest) = scan form (some l.quote) rest := by
  rw [h.scan_skip l.unquoted (atQuote_cons l.isQuote_quote _) hnone, h.scan_quote l.isQuote_quote]

/-- A statement adds its specifier if it is an own one, and is passed if its
specifier does not mislead the form. -/
theorem scan_statement (hgap : Unquoted gap)
    (hown : EndsInLead leads before gap ↔ own l.shape = true) {found : List (List Char)}
    (hnone : own l.shape = false → EndsInLead leads (some l.quote) l.specifier →
      read (l.quote :: (l.shape.closing ++ rest)) = none)
    (hrest : ∀ before close, close = [';'] ∨ close = [')', ';'] →
      scan form before (close ++ rest) = found) :
    scan form before (gap ++ (l.behind ++ rest)) =
      if own l.shape then l.specifier :: found else found := by
  cases hshape : own l.shape with
  | true =>
    rw [h.scan_own hgap (hown.mpr hshape) hshape, if_pos rfl]
    exact congrArg _ (hrest _ _ (.inl rfl))
  | false =>
    have hlead : ¬ EndsInLead leads before gap := fun hends => by simp [hown.mp hends] at hshape
    rw [h.scan_other hgap hlead, h.scan_specifier (hnone hshape)]
    exact hrest _ _ (closing_cases l.shape)

/-- **A form finds its own statements** in a text in which it is not misled. -/
theorem scan_lines {ls : List Line} (hending : Unquoted ending) (hgap : Unquoted gap)
    (hown : EndsInLead leads before gap ↔ own l.shape = true)
    (hchain : (l :: ls).IsChain fun l l' => ¬ Form.Misled leads own lets l l') :
    scan form before (gap ++ (l.behind ++ following ending ls)) = ownSpecifiers own (l :: ls) := by
  rw [ownSpecifiers_cons]
  induction ls generalizing l before gap with
  | nil =>
    have hunquoted : ∀ close, close = [';'] ∨ close = [')', ';'] → Unquoted (close ++ ending) :=
      fun close hclose => List.forall_mem_append.mpr ⟨unquoted_close hclose, hending⟩
    refine h.scan_statement hgap hown (fun _ _ => ?_) fun before close hclose => ?_
    · exact h.read_end (hunquoted _ (closing_cases l.shape))
    · exact h.scan_unquoted (hunquoted close hclose)
  | cons l' ls ih =>
    obtain ⟨hnot, hchain⟩ := List.isChain_cons_cons.mp hchain
    refine h.scan_statement hgap hown (fun hother hends => ?_) fun before close hclose => ?_
    · have hclose := closing_cases l.shape
      rw [following_cons]
      refine h.read_gap_none l.isQuote_quote (unquoted_gap hclose l') (by simp) fun hlets => ?_
      exact hnot ⟨hother, hends, hlets⟩
    · rw [following_cons, ownSpecifiers_cons]
      exact ih (unquoted_gap hclose l') (h.endsInLead_gap before l' hclose) hchain

/-- **A form that is misled finds more than a specifier.** -/
theorem exists_semicolon {ls : List Line} (hgap : Unquoted gap)
    (hown : EndsInLead leads before gap ↔ own l.shape = true)
    (hchain : ¬ (l :: ls).IsChain fun l l' => ¬ Form.Misled leads own lets l l') :
    ∃ found ∈ scan form before (gap ++ (l.behind ++ following ending ls)), ';' ∈ found := by
  induction ls generalizing l before gap with
  | nil => exact absurd (List.isChain_singleton l) hchain
  | cons l' ls ih =>
    have hrest : ∀ before close, close = [';'] ∨ close = [')', ';'] →
        ¬ (l' :: ls).IsChain (fun l l' => ¬ Form.Misled leads own lets l l') →
        ∃ found ∈ scan form before (close ++ following ending (l' :: ls)), ';' ∈ found := by
      intro before close hclose hchain
      rw [following_cons]
      exact ih (unquoted_gap hclose l') (h.endsInLead_gap before l' hclose) hchain
    cases hshape : own l.shape with
    | true =>
      -- its own statement does not mislead the form, so another one does
      have hother : ¬ (l' :: ls).IsChain fun l l' => ¬ Form.Misled leads own lets l l' := by
        intro hchain'
        refine hchain (List.isChain_cons_cons.mpr ⟨?_, hchain'⟩)
        rintro ⟨hnot, -⟩
        cases hshape.symm.trans hnot
      obtain ⟨found, hfound, hmem⟩ := hrest (some ')') [';'] (.inl rfl) hother
      rw [h.scan_own hgap (hown.mpr hshape) hshape]
      exact ⟨found, .tail _ hfound, hmem⟩
    | false =>
      have hclose := closing_cases l.shape
      have hlead : ¬ EndsInLead leads before gap := fun hends => by simp [hown.mp hends] at hshape
      rw [h.scan_other hgap hlead]
      by_cases hmisled : EndsInLead leads (some l.quote) l.specifier ∧ lets l'
      · obtain ⟨rest, hread⟩ := h.read_gap (following ending ls) l.isQuote_quote
          (unquoted_gap hclose l') (by simp) hmisled.2
        rw [← following_cons] at hread
        rw [h.scan_read l.unquoted (atQuote_cons l.isQuote_quote _) hmisled.1 hread]
        refine ⟨_, .head _, List.mem_append_left _ ?_⟩
        obtain heq | heq := hclose <;> rw [heq] <;> decide
      · have hother : ¬ (l' :: ls).IsChain fun l l' => ¬ Form.Misled leads own lets l l' := by
          intro hchain'
          exact hchain (List.isChain_cons_cons.mpr ⟨fun hmis => hmisled hmis.2, hchain'⟩)
        rw [h.scan_specifier]
        · exact hrest _ _ hclose hother
        · intro hends
          rw [following_cons]
          exact h.read_gap_none l.isQuote_quote (unquoted_gap hclose l') (by simp) fun hlets =>
            hmisled ⟨hends, hlets⟩

/-- A text of no lines has no specifiers. -/
theorem occurrences_nil (terminated : Bool) : occurrences form (page [] terminated) = [] := by
  have hunquoted : Unquoted (page [] terminated) := by
    cases terminated <;> exact List.all_iff_forall_prop.mp (by decide)
  exact h.scan_unquoted hunquoted

/-- What a form finds in a text of lines in which it is not misled. -/
theorem occurrences_page {lines : List Line} (terminated : Bool)
    (hchain : lines.IsChain fun l l' => ¬ Form.Misled leads own lets l l') :
    occurrences form (page lines terminated) = ownSpecifiers own lines := by
  cases lines with
  | nil => exact h.occurrences_nil terminated
  | cons l ls =>
    have hending : Unquoted (if terminated then ['\n'] else []) := by
      cases terminated <;> exact List.all_iff_forall_prop.mp (by decide)
    rw [occurrences_cons]
    exact h.scan_lines hending (unquoted_opening l) (h.opening (.inl rfl)) hchain

theorem exists_semicolon_page {lines : List Line} (terminated : Bool)
    (hchain : ¬ lines.IsChain fun l l' => ¬ Form.Misled leads own lets l l') :
    ∃ found ∈ occurrences form (page lines terminated), ';' ∈ found := by
  cases lines with
  | nil => exact absurd List.isChain_nil hchain
  | cons l ls =>
    rw [occurrences_cons]
    exact h.exists_semicolon (unquoted_opening l) (h.opening (.inl rfl)) hchain

end Form.Takes

/-! ## All specifiers -/

theorem nodup_eraseDups {α : Type} [BEq α] [LawfulBEq α] (xs : List α) : xs.eraseDups.Nodup := by
  induction hlength : xs.length using Nat.strongRecOn generalizing xs with
  | ind n ih =>
    cases xs with
    | nil => exact List.nodup_nil
    | cons x xs =>
      have hle := List.length_filter_le (fun y => !y == x) xs
      rw [List.length_cons] at hlength
      rw [List.eraseDups_cons, List.nodup_cons, List.mem_eraseDups]
      exact ⟨by simp, ih _ (by omega) _ rfl⟩

theorem nodup_specifiers (source : List Char) : (specifiers source).Nodup :=
  (nodup_eraseDups _).map fun _ _ h => String.ofList_injective h

/-- The specifiers are what the three forms read. -/
theorem mem_specifiers {source : List Char} {s : String} : s ∈ specifiers source ↔
    ∃ form ∈ [fromForm, bareForm, callForm],
      ∃ found ∈ occurrences form source, String.ofList found = s := by
  simp only [specifiers, List.mem_map, List.mem_eraseDups, List.mem_flatMap]
  constructor
  · rintro ⟨found, ⟨form, hform, hfound⟩, heq⟩
    exact ⟨form, hform, found, hfound, heq⟩
  · rintro ⟨form, hform, found, hfound, heq⟩
    exact ⟨found, ⟨form, hform, hfound⟩, heq⟩

/-- A lead of a bare import starts with a line, and so in no specifier. -/
theorem not_misled_bare (l l' : Line) :
    ¬ Form.Misled BareLead Shape.isBare (fun _ => True) l l' := by
  rintro ⟨-, ⟨first, last, hsplit, hlead⟩, -⟩
  have hbefore : lastOf (some l.quote) first = none ∨ lastOf (some l.quote) first = some '\n' := by
    cases hlead
    assumption
  have hbreak : isBlank '\n' = true := by decide
  obtain ⟨c, hc, hblank⟩ : ∃ c, lastOf (some l.quote) first = some c ∧ isBlank c = false := by
    cases first using List.reverseRecOn with
    | nil => exact ⟨l.quote, rfl, isBlank_of_isQuote l.isQuote_quote⟩
    | append_singleton first c =>
      exact ⟨c, lastOf_concat _ _ _, (l.plain c (by simp [hsplit])).2.1⟩
  rw [hc] at hbefore
  obtain hnone | hnewline := hbefore
  · cases hnone
  · cases hnewline
    rw [hbreak] at hblank
    cases hblank

/-- A line misleads for the first form or for the third. -/
theorem misleads_iff (l l' : Line) : l.Misleads l' ↔
    Form.Misled FromLead Shape.isClause (fun _ => True) l l' ∨
      Form.Misled CallLead Shape.isCall (fun l => l.specifier.head? = some ')') l l' := by
  simp [Line.Misleads, Form.Misled]

/-- Every line is an own statement of one form. -/
theorem mem_ownSpecifiers {lines : List Line} {s : List Char} :
    (∃ own ∈ [Shape.isClause, Shape.isBare, Shape.isCall], s ∈ ownSpecifiers own lines) ↔
      ∃ l ∈ lines, s = l.specifier := by
  simp only [ownSpecifiers, List.mem_map, List.mem_filter]
  constructor
  · rintro ⟨own, -, l, ⟨hl, -⟩, rfl⟩
    exact ⟨l, hl, rfl⟩
  · rintro ⟨l, hl, rfl⟩
    have hown : ∃ own ∈ [Shape.isClause, Shape.isBare, Shape.isCall], own l.shape = true := by
      cases l.shape <;> simp [Shape.isClause, Shape.isBare, Shape.isCall]
    obtain ⟨own, hmem, hshape⟩ := hown
    exact ⟨own, hmem, l, ⟨hl, hshape⟩, rfl⟩

/-- **The specifiers of a text of import statements**, each once, are those of
its lines, unless one of these reads like the start of a statement; then there
is one that is no specifier of any line. -/
theorem specifiers_of_lines (lines : List Line) (terminated : Bool) :
    (specifiers (page lines terminated)).Nodup ∧
      ((∀ s, s ∈ specifiers (page lines terminated) ↔
          ∃ l ∈ lines, s = String.ofList l.specifier) ↔
        lines.IsChain fun l l' => ¬ l.Misleads l') := by
  refine ⟨nodup_specifiers _, ?_⟩
  constructor
  · intro hexact
    -- no specifier of a line holds a semicolon
    have hplain : ∀ form ∈ [fromForm, bareForm, callForm],
        ¬ ∃ found ∈ occurrences form (page lines terminated), ';' ∈ found := by
      rintro form hform ⟨found, hfound, hmem⟩
      obtain ⟨l, -, heq⟩ := (hexact _).mp (mem_specifiers.mpr ⟨form, hform, found, hfound, rfl⟩)
      rw [String.ofList_injective heq] at hmem
      exact (l.plain ';' hmem).2.2 rfl
    have hclause : lines.IsChain fun l l' =>
        ¬ Form.Misled FromLead Shape.isClause (fun _ => True) l l' := by
      by_contra hchain
      exact hplain fromForm (by simp) (fromForm_takes.exists_semicolon_page terminated hchain)
    have hcall : lines.IsChain fun l l' =>
        ¬ Form.Misled CallLead Shape.isCall (fun l => l.specifier.head? = some ')') l l' := by
      by_contra hchain
      exact hplain callForm (by simp) (callForm_takes.exists_semicolon_page terminated hchain)
    rw [List.isChain_iff_forall_rel_of_append_cons_cons] at hclause hcall ⊢
    intro l l' first rest hsplit
    rw [misleads_iff]
    rintro (hmis | hmis)
    · exact hclause hsplit hmis
    · exact hcall hsplit hmis
  · intro hchain s
    have hclause := fromForm_takes.occurrences_page terminated
      (hchain.imp fun l l' hnot hmis => hnot ((misleads_iff l l').mpr (.inl hmis)))
    have hbare := bareForm_takes.occurrences_page terminated
      (hchain.imp fun l l' _ hmis => not_misled_bare l l' hmis)
    have hcall := callForm_takes.occurrences_page terminated
      (hchain.imp fun l l' hnot hmis => hnot ((misleads_iff l l').mpr (.inr hmis)))
    have hfound : (∃ form ∈ [fromForm, bareForm, callForm],
        ∃ found ∈ occurrences form (page lines terminated), String.ofList found = s) ↔
        ∃ own ∈ [Shape.isClause, Shape.isBare, Shape.isCall],
          ∃ found ∈ ownSpecifiers own lines, String.ofList found = s := by
      simp only [List.mem_cons, List.not_mem_nil, or_false, exists_eq_or_imp, exists_eq_left,
        hclause, hbare, hcall]
    rw [mem_specifiers, hfound]
    constructor
    · rintro ⟨own, hown, found, hmem, rfl⟩
      obtain ⟨l, hl, rfl⟩ := mem_ownSpecifiers.mp ⟨own, hown, hmem⟩
      exact ⟨l, hl, rfl⟩
    · rintro ⟨l, hl, rfl⟩
      obtain ⟨own, hown, hmem⟩ := mem_ownSpecifiers.mpr ⟨l, hl, rfl⟩
      exact ⟨own, hown, _, hmem, rfl⟩

/-- A call whose specifier reads like an export up to its quote. -/
def misleadingLine : Line where
  shape := .required
  quote := '\''
  specifier := "./export-from".toList
  isProper := trivial
  isQuote_quote := by decide
  ne_nil := by decide
  plain := List.all_iff_forall_prop.mp (by decide)

/-- An import on the next line. -/
def hiddenLine : Line where
  shape := .clause false ['y']
  quote := '\''
  specifier := "./z".toList
  isProper := ⟨by decide, List.all_iff_forall_prop.mp (by decide)⟩
  isQuote_quote := by decide
  ne_nil := by decide
  plain := List.all_iff_forall_prop.mp (by decide)

/-- **A misleading specifier hides the next one**: what is found instead is the
text between the two. -/
theorem misleading_specifier_hides_one :
    page [misleadingLine, hiddenLine] false =
        "const x = require('./export-from');\nimport y from './z';".toList ∧
      specifiers (page [misleadingLine, hiddenLine] false) =
        [");\nimport y from ", "./export-from"] ∧
      ¬ ∀ s, s ∈ specifiers (page [misleadingLine, hiddenLine] false) ↔
        ∃ l ∈ [misleadingLine, hiddenLine], s = String.ofList l.specifier := by
  have hpage : page [misleadingLine, hiddenLine] false =
      "const x = require('./export-from');\nimport y from './z';".toList := by decide
  have hfound : specifiers (page [misleadingLine, hiddenLine] false) =
      [");\nimport y from ", "./export-from"] := by
    rw [hpage]
    decide +kernel
  refine ⟨hpage, hfound, fun hexact => ?_⟩
  have hhidden := (hexact "./z").mpr ⟨hiddenLine, by simp, by decide⟩
  rw [hfound] at hhidden
  revert hhidden
  decide

end Ratchet.TypeScript

import Ratchet.Proofs.Json.Number
import Ratchet.Proofs.Json.Text

/-!
# Documents read back

What is written of a value is read back, in either layout. It takes that the
value could have been read itself: that its texts and numbers read back and
that no object holds a key twice.
-/

namespace Ratchet.Json

/-! ## Values that read back -/

mutual

/-- A value that reads back. -/
def Value.Legible : Value → Prop
  | .number n => n.Legible
  | .string t => Json.Legible t
  | .array items => LegibleItems items
  | .object members => (members.map Prod.fst).Nodup ∧ LegibleMembers members
  | .null => True
  | .boolean _ => True

/-- Items that read back. -/
def LegibleItems : List Value → Prop
  | [] => True
  | v :: vs => v.Legible ∧ LegibleItems vs

/-- Members that read back. -/
def LegibleMembers : List (Text × Value) → Prop
  | [] => True
  | (key, v) :: ms => (Json.Legible key ∧ v.Legible) ∧ LegibleMembers ms

end

variable {layout : Layout} {level place depth budget : Nat} {rest blanks : List Char} {v : Value}
  {items : List Value} {members : List (Text × Value)}

attribute [local simp] writeAt writeItems writeMembers

theorem legibleItems_iff : LegibleItems items ↔ ∀ v ∈ items, v.Legible := by
  induction items with
  | nil => simp [LegibleItems]
  | cons v vs ih => simp [LegibleItems, ih]

theorem legibleMembers_iff :
    LegibleMembers members ↔ ∀ m ∈ members, Json.Legible m.1 ∧ m.2.Legible := by
  induction members with
  | nil => simp [LegibleMembers]
  | cons m ms ih => simp [LegibleMembers, ih]

/-! ## Blanks -/

/-- Blanks are skipped up to what is none. -/
theorem skip_append (place : Nat) (blanks rest : List Char) (hblanks : ∀ c ∈ blanks, isSpace c)
    (hrest : ∀ c ∈ rest.head?, ¬ isSpace c) :
    skip place (blanks ++ rest) = (place + blanks.length, rest) := by
  have htake : rest.takeWhile isSpace = [] := by
    cases rest with
    | nil => rfl
    | cons c rest => exact List.takeWhile_cons_of_neg (hrest c rfl)
  rw [skip, List.takeWhile_append_of_pos hblanks, htake, List.append_nil, List.drop_left]

theorem skip_cons {c : Char} (hc : isSpace c = false) :
    skip place (c :: rest) = (place, c :: rest) :=
  skip_append place [] (c :: rest) (by simp) (by simp [hc])

theorem isSpace_newLine {c : Char} (hc : c ∈ newLine layout level) : isSpace c := by
  cases layout with
  | line => cases hc
  | indented =>
    obtain rfl | hc := List.mem_cons.mp hc
    · rfl
    · rw [List.eq_of_mem_replicate hc]
      rfl

theorem isSpace_afterComma {c : Char} (hc : c ∈ afterComma layout level) : isSpace c := by
  cases layout with
  | line =>
    rw [List.mem_singleton.mp hc]
    rfl
  | indented => exact isSpace_newLine (show c ∈ newLine .indented level from hc)

/-! ## Where values start -/

/-- A character with which a value without parts may start. -/
def StartsScalar (c : Char) : Prop :=
  isSpace c = false ∧ c ≠ ']' ∧ c ≠ '"' ∧ c ≠ '[' ∧ c ≠ '\x7b'

instance (c : Char) : Decidable (StartsScalar c) := inferInstanceAs (Decidable (_ ∧ _))

theorem startsScalar_of_isDigit {c : Char} (h : c.isDigit) : StartsScalar c := by
  have hne : ∀ d : Char, d.isDigit = false → c ≠ d := by
    rintro d hd rfl
    rw [hd] at h
    cases h
  refine ⟨?_, hne _ rfl, hne _ rfl, hne _ rfl, hne _ rfl⟩
  simp [isSpace, hne ' ' rfl, hne '\t' rfl, hne '\n' rfl, hne '\r' rfl]

/-- A number starts with a digit, a sign or a letter. -/
theorem writeNumber_head (n : Number) : ∃ c cs, writeNumber n = c :: cs ∧ StartsScalar c := by
  have hdigits : ∀ (negative : Bool) (digits : List Char),
      (∃ c cs, digits = c :: cs ∧ c.isDigit) →
        ∃ c cs, (if negative then ['-'] else []) ++ digits = c :: cs ∧ StartsScalar c := by
    rintro negative _ ⟨c, cs, rfl, hc⟩
    cases negative with
    | true => exact ⟨'-', c :: cs, rfl, by decide⟩
    | false => exact ⟨c, cs, rfl, startsScalar_of_isDigit hc⟩
  cases n with
  | nan => exact ⟨'N', _, rfl, by decide⟩
  | integer n =>
    rw [writeNumber, toList_toString]
    simpa using hdigits (n < 0) _ (isWhole_toDigits n.natAbs).exists_cons
  | fraction negative b =>
    cases b with
    | infinite =>
      cases negative with
      | true => exact ⟨'-', _, rfl, by decide⟩
      | false => exact ⟨'I', _, rfl, by decide⟩
    | finite m e =>
      obtain ⟨units, exponent, htext, -⟩ := fractionText_writeBinary m e
      exact hdigits negative _ htext.exists_cons

theorem enclose_head (opening closing : Char) (parts : List (List Char)) :
    ∃ cs, enclose layout level opening closing parts = opening :: cs := by
  unfold enclose
  split
  · exact ⟨_, rfl⟩
  · exact ⟨_, rfl⟩

/-- A value starts with neither a blank nor a closing bracket. -/
theorem writeAt_head (layout : Layout) (level : Nat) (v : Value) :
    ∃ c cs, writeAt layout level v = c :: cs ∧ isSpace c = false ∧ c ≠ ']' := by
  cases v with
  | null => exact ⟨'n', _, rfl, by decide⟩
  | boolean b => cases b <;> exact ⟨_, _, rfl, by decide⟩
  | number n =>
    obtain ⟨c, cs, hcs, hspace, hbracket, -⟩ := writeNumber_head n
    exact ⟨c, cs, hcs, hspace, hbracket⟩
  | string t => exact ⟨'"', _, rfl, by decide⟩
  | array items =>
    obtain ⟨cs, hcs⟩ := enclose_head '[' ']' (writeItems layout (level + 1) items)
    exact ⟨'[', cs, hcs, by decide⟩
  | object members =>
    obtain ⟨cs, hcs⟩ := enclose_head '\x7b' '\x7d' (writeMembers layout (level + 1) members)
    exact ⟨'\x7b', cs, hcs, by decide⟩

theorem writeAt_ne_nil (layout : Layout) (level : Nat) (v : Value) :
    writeAt layout level v ≠ [] := by
  obtain ⟨c, cs, hcs, -⟩ := writeAt_head layout level v
  rw [hcs]
  exact List.cons_ne_nil c cs

theorem head?_writeAt (layout : Layout) (level : Nat) (v : Value) (rest : List Char) :
    ∀ c ∈ (writeAt layout level v ++ rest).head?, isSpace c = false := by
  obtain ⟨c, cs, hcs, hspace, -⟩ := writeAt_head layout level v
  rw [hcs]
  simp [hspace]

/-! ## Reading values -/

theorem endsNumber_cons {c : Char} (hdigit : c.isDigit = false) (hne : c ∉ ['.', 'e', 'E']) :
    EndsNumber (c :: rest) := by
  intro d hd
  obtain rfl := Option.some.inj hd
  simpa [hdigit] using hne

theorem endsNumber_append (hblanks : ∀ c ∈ blanks, isSpace c) (hrest : EndsNumber rest) :
    EndsNumber (blanks ++ rest) := by
  cases blanks with
  | nil => exact hrest
  | cons c blanks =>
    have hc := hblanks c (.head _)
    simp only [isSpace, Bool.or_eq_true, decide_eq_true_eq] at hc
    refine endsNumber_cons ?_ ?_ <;>
      obtain ((rfl | rfl) | rfl) | rfl := hc <;> decide

/-- A value without parts is read as such. -/
theorem readValue_scalar {c : Char} {cs : List Char} (hc : StartsScalar c) :
    readValue (depth + 1) place (c :: cs) = readScalar place (c :: cs) := by
  obtain ⟨-, -, hquote, hbracket, hbrace⟩ := hc
  rw [readValue]
  · simp [hquote]
  · simp [hbracket]
  · simp [hbrace]

/-- A legible text is read as it was written. -/
theorem readText_write {t : Text} (h : Json.Legible t) (place : Nat) (rest : List Char) :
    ∃ place' cs, writeText t ++ rest = '"' :: cs ∧
      readString place [] (place + 1) cs = .ok (t, place', rest) := by
  obtain ⟨place', hread⟩ := readString_write h place [] (place + 1) rest
  exact ⟨place', t.flatMap writeCodePoint ++ '"' :: rest, by simp [writeText], by simpa using hread⟩

/-! ### Parts in a row -/

theorem intercalate_cons (sep part : List Char) (parts : List (List Char)) :
    List.intercalate sep (part :: parts) =
      part ++ if parts = [] then [] else sep ++ List.intercalate sep parts := by
  cases parts with
  | nil => simp [List.intercalate]
  | cons p ps => simp [List.intercalate, List.intersperse]

/-- Joined parts that are not empty are no more than their characters. -/
theorem length_le_intercalate (sep : List Char) {parts : List (List Char)}
    (h : ∀ p ∈ parts, p ≠ []) : parts.length ≤ (List.intercalate sep parts).length := by
  induction parts with
  | nil => simp
  | cons part parts ih =>
    have hpart := List.length_pos_iff.mpr (h part (.head _))
    have hparts := ih fun p hp => h p (.tail _ hp)
    rw [intercalate_cons, List.length_append, List.length_cons]
    split
    · rename_i hnil
      rw [hnil, List.length_nil]
      omega
    · rw [List.length_append]
      omega

theorem length_part_le (sep : List Char) {part : List Char} {parts : List (List Char)}
    (h : part ∈ parts) :
    part.length ≤ (List.intercalate sep parts).length := by
  induction parts with
  | nil => cases h
  | cons p ps ih =>
    rw [intercalate_cons, List.length_append]
    obtain rfl | h := List.mem_cons.mp h
    · omega
    · have hps := ih h
      rw [if_neg (List.ne_nil_of_mem h), List.length_append]
      omega

theorem writeItems_eq (layout : Layout) (level : Nat) (items : List Value) :
    writeItems layout level items = items.map (writeAt layout level) := by
  induction items with
  | nil => rfl
  | cons v vs ih => rw [writeItems, ih, List.map_cons]

theorem writeMembers_eq (layout : Layout) (level : Nat) (members : List (Text × Value)) :
    writeMembers layout level members =
      members.map fun m => writeText m.1 ++ ':' :: ' ' :: writeAt layout level m.2 := by
  induction members with
  | nil => rfl
  | cons m ms ih => rw [writeMembers, ih, List.map_cons]

/-- What is written between two brackets around some parts. -/
theorem enclose_eq (layout : Layout) (level : Nat) (opening closing : Char)
    {parts : List (List Char)} (h : parts ≠ []) (rest : List Char) :
    enclose layout level opening closing parts ++ rest =
      opening :: (newLine layout (level + 1) ++
        (List.intercalate (',' :: afterComma layout (level + 1)) parts ++
          (newLine layout level ++ closing :: rest))) := by
  rw [enclose, if_neg h]
  simp

theorem length_part_lt (layout : Layout) (level : Nat) (opening closing : Char) {part : List Char}
    {parts : List (List Char)} (h : part ∈ parts) :
    part.length < (enclose layout level opening closing parts).length := by
  have hle := length_part_le (',' :: afterComma layout (level + 1)) h
  have hlength := congrArg List.length
    (enclose_eq layout level opening closing (List.ne_nil_of_mem h) [])
  simp only [List.append_nil, List.length_cons, List.length_append] at hlength
  omega

/-! ### Values -/

/-- An item is shorter than its array. -/
theorem length_item_le (h : (writeAt layout level (.array items)).length ≤ depth + 1)
    (hv : v ∈ items) :
    (writeAt layout (level + 1) v).length ≤ depth := by
  have hlt := length_part_lt layout level '[' ']'
    (List.mem_map_of_mem (f := writeAt layout (level + 1)) hv)
  rw [← writeItems_eq] at hlt
  rw [writeAt] at h
  omega

/-- A member is shorter than its object. -/
theorem length_member_le {m : Text × Value}
    (h : (writeAt layout level (.object members)).length ≤ depth + 1) (hm : m ∈ members) :
    (writeAt layout (level + 1) m.2).length ≤ depth := by
  have hlt := length_part_lt layout level '\x7b' '\x7d'
    (List.mem_map_of_mem
      (f := fun m => writeText m.1 ++ ':' :: ' ' :: writeAt layout (level + 1) m.2) hm)
  rw [← writeMembers_eq, List.length_append, List.length_cons, List.length_cons] at hlt
  rw [writeAt] at h
  omega

/-- An array is read back if its items are. -/
theorem readValue_array
    (h : items ≠ [] → ∀ budget place, items.length ≤ budget → ∃ place',
      readItems (readValue depth) budget place
        (List.intercalate (',' :: afterComma layout (level + 1))
          (writeItems layout (level + 1) items) ++ (newLine layout level ++ ']' :: rest)) =
            .ok (items, place', rest)) :
    ∃ place', readValue (depth + 1) place (writeAt layout level (.array items) ++ rest) =
      .ok (.array items, place', rest) := by
  cases items with
  | nil =>
    have hskip : skip (place + 1) (']' :: rest) = (place + 1, ']' :: rest) := skip_cons rfl
    refine ⟨place + 1 + 1, ?_⟩
    rw [writeAt, writeItems, enclose, if_pos rfl, List.cons_append, List.cons_append,
      List.nil_append, readValue, hskip]
    rfl
  | cons v vs =>
    have hparts : writeItems layout (level + 1) (v :: vs) ≠ [] := by simp
    have hne : ∀ part ∈ writeItems layout (level + 1) (v :: vs), part ≠ [] := by
      rw [writeItems_eq]
      exact List.forall_mem_map.mpr fun w _ => writeAt_ne_nil layout (level + 1) w
    have hbudget := length_le_intercalate (',' :: afterComma layout (level + 1)) hne
    rw [writeItems_eq, List.length_map, ← writeItems_eq] at hbudget
    obtain ⟨c, cs, hcs, hspace, hbracket⟩ := writeAt_head layout (level + 1) v
    obtain ⟨cs', htext⟩ : ∃ cs', List.intercalate (',' :: afterComma layout (level + 1))
        (writeItems layout (level + 1) (v :: vs)) ++ (newLine layout level ++ ']' :: rest) =
          c :: cs' := by
      rw [writeItems, intercalate_cons, hcs]
      exact ⟨_, rfl⟩
    have hskip := skip_append (place + 1) (newLine layout (level + 1)) (c :: cs')
      (fun c => isSpace_newLine) (by simp [hspace])
    obtain ⟨place', hread⟩ := h (by simp) ((c :: cs').length + 1)
      (place + 1 + (newLine layout (level + 1)).length) (by
        rw [← htext, List.length_append]
        omega)
    refine ⟨place', ?_⟩
    rw [htext] at hread
    rw [writeAt, enclose_eq _ _ _ _ hparts, htext, readValue, hskip]
    split
    · rename_i heq
      simp only [Prod.mk.injEq, List.cons.injEq] at heq
      exact absurd heq.2.1 hbracket
    · rename_i heq
      obtain ⟨rfl, rfl⟩ := Prod.mk.inj heq
      rw [hread]
      rfl

/-- An object is read back if its members are. -/
theorem readValue_object
    (h : members ≠ [] → ∀ budget place, members.length ≤ budget → ∃ place',
      readMembers (readValue depth) budget [] place
        (List.intercalate (',' :: afterComma layout (level + 1))
          (writeMembers layout (level + 1) members) ++ (newLine layout level ++ '\x7d' :: rest)) =
            .ok (members, place', rest)) :
    ∃ place', readValue (depth + 1) place (writeAt layout level (.object members) ++ rest) =
      .ok (.object members, place', rest) := by
  cases members with
  | nil =>
    have hskip : skip (place + 1) ('\x7d' :: rest) = (place + 1, '\x7d' :: rest) := skip_cons rfl
    refine ⟨place + 1 + 1, ?_⟩
    rw [writeAt, writeMembers, enclose, if_pos rfl, List.cons_append, List.cons_append,
      List.nil_append, readValue, hskip]
    rfl
  | cons m ms =>
    have hparts : writeMembers layout (level + 1) (m :: ms) ≠ [] := by simp
    have hne : ∀ part ∈ writeMembers layout (level + 1) (m :: ms), part ≠ [] := by
      rw [writeMembers_eq]
      exact List.forall_mem_map.mpr fun w _ => by simp
    have hbudget := length_le_intercalate (',' :: afterComma layout (level + 1)) hne
    rw [writeMembers_eq, List.length_map, ← writeMembers_eq] at hbudget
    obtain ⟨cs', htext⟩ : ∃ cs', List.intercalate (',' :: afterComma layout (level + 1))
        (writeMembers layout (level + 1) (m :: ms)) ++ (newLine layout level ++ '\x7d' :: rest) =
          '"' :: cs' := by
      rw [writeMembers, intercalate_cons]
      exact ⟨_, rfl⟩
    have hskip := skip_append (place + 1) (newLine layout (level + 1)) ('"' :: cs')
      (fun c => isSpace_newLine) (by simp [isSpace])
    obtain ⟨place', hread⟩ := h (by simp) (('"' :: cs').length + 1)
      (place + 1 + (newLine layout (level + 1)).length) (by
        rw [← htext, List.length_append]
        omega)
    refine ⟨place', ?_⟩
    rw [htext] at hread
    rw [writeAt, enclose_eq _ _ _ _ hparts, htext, readValue, hskip]
    split
    · rename_i heq
      simp at heq
    · rename_i heq
      obtain ⟨rfl, rfl⟩ := Prod.mk.inj heq
      rw [hread]
      rfl

/-- A member of an object is read back, and what follows decides how it goes on. -/
theorem readMembers_member (read : Members) (budget place : Nat) {key : Text}
    {text more : List Char} (hkey : Json.Legible key) (hspace : ∀ c ∈ text.head?, isSpace c = false)
    (hv : ∀ place, ∃ place', readValue depth place text = .ok (v, place', more)) :
    ∃ place', readMembers (readValue depth) (budget + 1) read place
        (writeText key ++ ':' :: ' ' :: text) =
      let next := skip place' more
      match next.2 with
      | '\x7d' :: rest => .ok (Members.set key v read, next.1 + 1, rest)
      | ',' :: rest =>
        let member := skip (next.1 + 1) rest
        readMembers (readValue depth) budget (Members.set key v read) member.1 member.2
      | _ => fail .comma next.1 := by
  obtain ⟨placeK, cs, hcs, hread⟩ := readText_write hkey place (':' :: ' ' :: text)
  have hcolon : skip placeK (':' :: ' ' :: text) = (placeK, ':' :: ' ' :: text) := skip_cons rfl
  have hblank : skip (placeK + 1) (' ' :: text) = (placeK + 1 + 1, text) :=
    skip_append (placeK + 1) [' '] text (by simp [isSpace]) (by simpa using hspace)
  obtain ⟨placeV, hvalue⟩ := hv (placeK + 1 + 1)
  refine ⟨placeV, ?_⟩
  rw [hcs, readMembers]
  simp only [bind, Except.bind, hread, hcolon, hblank, hvalue]
  rfl

/-- The last member of an object is read back. -/
theorem readMembers_last (read : Members) (budget place : Nat) {key : Text} {text : List Char}
    (hkey : Json.Legible key) (hspace : ∀ c ∈ text.head?, isSpace c = false)
    (hblanks : ∀ c ∈ blanks, isSpace c)
    (hv : ∀ place, ∃ place', readValue depth place text =
      .ok (v, place', blanks ++ '\x7d' :: rest)) :
    ∃ place', readMembers (readValue depth) (budget + 1) read place
      (writeText key ++ ':' :: ' ' :: text) = .ok (Members.set key v read, place', rest) := by
  obtain ⟨placeV, hread⟩ := readMembers_member read budget place hkey hspace hv
  have hend : skip placeV (blanks ++ '\x7d' :: rest) =
      (placeV + blanks.length, '\x7d' :: rest) := skip_append _ _ _ hblanks (by simp [isSpace])
  rw [hend] at hread
  exact ⟨placeV + blanks.length + 1, hread⟩

/-- After a member of an object the next ones are read. -/
theorem readMembers_next (read : Members) (budget place : Nat) (more : List Char) {key : Text}
    {text : List Char} (hkey : Json.Legible key) (hspace : ∀ c ∈ text.head?, isSpace c = false)
    (hblanks : ∀ c ∈ blanks, isSpace c) (hmore : ∀ c ∈ more.head?, isSpace c = false)
    (hv : ∀ place, ∃ place', readValue depth place text =
      .ok (v, place', ',' :: (blanks ++ more))) :
    ∃ place', readMembers (readValue depth) (budget + 1) read place
      (writeText key ++ ':' :: ' ' :: text) =
        readMembers (readValue depth) budget (Members.set key v read) place' more := by
  obtain ⟨placeV, hread⟩ := readMembers_member read budget place hkey hspace hv
  have hcomma : skip placeV (',' :: (blanks ++ more)) = (placeV, ',' :: (blanks ++ more)) :=
    skip_cons rfl
  have hend : skip (placeV + 1) (blanks ++ more) = (placeV + 1 + blanks.length, more) :=
    skip_append _ _ _ hblanks (by simpa using hmore)
  simp only [hcomma, hend] at hread
  exact ⟨placeV + 1 + blanks.length, hread⟩

/-- A member whose key was not read before joins at the end. -/
theorem set_of_nodup {key : Text} {w : Value} {read ms : Members}
    (h : (read.map Prod.fst ++ ((key, w) :: ms).map Prod.fst).Nodup) (v : Value) :
    Members.set key v read = read ++ [(key, v)] := by
  have hkey : key ∉ read.map Prod.fst := fun hmem =>
    (List.nodup_append.mp h).2.2 key hmem key (by simp) rfl
  rw [Members.set, if_neg]
  simpa using hkey

mutual

/-- A value is read back by a reader of enough depth. -/
theorem readValue_write (v : Value) (hv : v.Legible) (layout : Layout) (level depth place : Nat)
    (rest : List Char) (hrest : EndsNumber rest)
    (hdepth : (writeAt layout level v).length ≤ depth) :
    ∃ place', readValue depth place (writeAt layout level v ++ rest) = .ok (v, place', rest) := by
  -- the depth is measured by the text, and some text is written of every value
  obtain ⟨depth, rfl⟩ : ∃ d, depth = d + 1 := by
    obtain ⟨c, cs, hcs, -⟩ := writeAt_head layout level v
    rw [hcs, List.length_cons] at hdepth
    exact ⟨depth - 1, by omega⟩
  match v, hv with
  | .null, _ =>
    have hword : ("null", Value.null) ∈ wordValues := by simp [wordValues]
    obtain ⟨place', hread⟩ := readScalar_of_word hword place rest
    exact ⟨place', (readValue_scalar (by decide)).trans hread⟩
  | .boolean true, _ =>
    have hword : ("true", Value.boolean true) ∈ wordValues := by simp [wordValues]
    obtain ⟨place', hread⟩ := readScalar_of_word hword place rest
    exact ⟨place', (readValue_scalar (by decide)).trans hread⟩
  | .boolean false, _ =>
    have hword : ("false", Value.boolean false) ∈ wordValues := by simp [wordValues]
    obtain ⟨place', hread⟩ := readScalar_of_word hword place rest
    exact ⟨place', (readValue_scalar (by decide)).trans hread⟩
  | .number n, hv =>
    obtain ⟨place', hread⟩ := readScalar_writeNumber hv hrest place
    obtain ⟨c, cs, hcs, hc⟩ := writeNumber_head n
    rw [hcs, List.cons_append] at hread
    refine ⟨place', ?_⟩
    rw [writeAt, hcs, List.cons_append, readValue_scalar hc, hread]
  | .string t, hv =>
    obtain ⟨place', cs, hcs, hread⟩ := readText_write hv place rest
    refine ⟨place', ?_⟩
    rw [writeAt, hcs, readValue, hread]
    rfl
  | .array items, hv =>
    exact readValue_array fun hne budget place hbudget =>
      readItems_write items hv layout (level + 1) depth budget place _ rest hne
        (fun c => isSpace_newLine) (fun v => length_item_le hdepth) hbudget
  | .object members, hv =>
    exact readValue_object fun hne budget place hbudget =>
      readMembers_write members hv.2 layout (level + 1) depth budget place _ rest [] hne
        (fun c => isSpace_newLine) hv.1 (fun m => length_member_le hdepth) hbudget

/-- Items are read back from behind the bracket of their array. -/
theorem readItems_write (items : List Value) (hitems : LegibleItems items) (layout : Layout)
    (level depth budget place : Nat) (blanks rest : List Char) (hne : items ≠ [])
    (hblanks : ∀ c ∈ blanks, isSpace c)
    (hdepth : ∀ v ∈ items, (writeAt layout level v).length ≤ depth)
    (hbudget : items.length ≤ budget) :
    ∃ place', readItems (readValue depth) budget place
        (List.intercalate (',' :: afterComma layout level) (writeItems layout level items) ++
          (blanks ++ ']' :: rest)) = .ok (items, place', rest) := by
  obtain ⟨budget, rfl⟩ : ∃ b, budget = b + 1 :=
    ⟨budget - 1, by have := List.length_pos_iff.mpr hne; omega⟩
  match items, hitems with
  | [v], ⟨hv, _⟩ =>
    obtain ⟨place', hread⟩ := readValue_write v hv layout level depth place
      (blanks ++ ']' :: rest) (endsNumber_append hblanks (endsNumber_cons rfl (by decide)))
      (hdepth v (.head _))
    have hskip := skip_append place' blanks (']' :: rest) hblanks (by simp [isSpace])
    refine ⟨place' + blanks.length + 1, ?_⟩
    rw [writeItems, intercalate_cons, writeItems, if_pos rfl, List.append_nil, readItems, hread]
    simp only [bind, Except.bind, hskip]
    rfl
  | v :: w :: vs, ⟨hv, hvs⟩ =>
    have hmore : ∃ c cs, List.intercalate (',' :: afterComma layout level)
        (writeItems layout level (w :: vs)) ++ (blanks ++ ']' :: rest) = c :: cs ∧
          isSpace c = false := by
      obtain ⟨c, cs, hcs, hspace, -⟩ := writeAt_head layout level w
      rw [writeItems, intercalate_cons, hcs]
      exact ⟨c, _, rfl, hspace⟩
    obtain ⟨c, cs, hcs, hspace⟩ := hmore
    obtain ⟨place', hread⟩ := readValue_write v hv layout level depth place
      (',' :: (afterComma layout level ++ c :: cs)) (endsNumber_cons rfl (by decide))
      (hdepth v (.head _))
    have hskip : skip place' (',' :: (afterComma layout level ++ c :: cs)) =
        (place', ',' :: (afterComma layout level ++ c :: cs)) := skip_cons rfl
    have hskip' := skip_append (place' + 1) (afterComma layout level) (c :: cs)
      (fun c => isSpace_afterComma) (by simp [hspace])
    obtain ⟨place'', hreads⟩ := readItems_write (w :: vs) hvs layout level depth budget
      (place' + 1 + (afterComma layout level).length) blanks rest (by simp) hblanks
      (fun u hu => hdepth u (.tail _ hu)) (by simpa using hbudget)
    refine ⟨place'', ?_⟩
    have htext : List.intercalate (',' :: afterComma layout level)
        (writeItems layout level (v :: w :: vs)) ++ (blanks ++ ']' :: rest) =
          writeAt layout level v ++ ',' :: (afterComma layout level ++ c :: cs) := by
      rw [writeItems, intercalate_cons, if_neg (by simp), ← hcs]
      simp
    rw [hcs] at hreads
    rw [htext, readItems, hread]
    simp only [bind, Except.bind, hskip, hskip', hreads]
    rfl

/-- Members are read back from behind the brace of their object. -/
theorem readMembers_write (members : List (Text × Value)) (hmembers : LegibleMembers members)
    (layout : Layout) (level depth budget place : Nat) (blanks rest : List Char) (read : Members)
    (hne : members ≠ []) (hblanks : ∀ c ∈ blanks, isSpace c)
    (hkeys : (read.map Prod.fst ++ members.map Prod.fst).Nodup)
    (hdepth : ∀ m ∈ members, (writeAt layout level m.2).length ≤ depth)
    (hbudget : members.length ≤ budget) :
    ∃ place', readMembers (readValue depth) budget read place
        (List.intercalate (',' :: afterComma layout level) (writeMembers layout level members) ++
          (blanks ++ '\x7d' :: rest)) = .ok (read ++ members, place', rest) := by
  obtain ⟨budget, rfl⟩ : ∃ b, budget = b + 1 :=
    ⟨budget - 1, by have := List.length_pos_iff.mpr hne; omega⟩
  match members, hmembers with
  | [(key, v)], ⟨⟨hkey, hv⟩, _⟩ =>
    have htext : List.intercalate (',' :: afterComma layout level)
        (writeMembers layout level [(key, v)]) ++ (blanks ++ '\x7d' :: rest) =
          writeText key ++
            ':' :: ' ' :: (writeAt layout level v ++ (blanks ++ '\x7d' :: rest)) := by
      rw [writeMembers, intercalate_cons, writeMembers, if_pos rfl]
      simp
    obtain ⟨place', hread⟩ := readMembers_last read budget place hkey
      (head?_writeAt layout level v _) hblanks fun place =>
        readValue_write v hv layout level depth place (blanks ++ '\x7d' :: rest)
          (endsNumber_append hblanks (endsNumber_cons rfl (by decide))) (hdepth _ (.head _))
    exact ⟨place', by rw [htext, hread, set_of_nodup hkeys]⟩
  | (key, v) :: (key', w) :: ms, ⟨⟨hkey, hv⟩, hms⟩ =>
    obtain ⟨cs, hcs⟩ : ∃ cs, List.intercalate (',' :: afterComma layout level)
        (writeMembers layout level ((key', w) :: ms)) ++ (blanks ++ '\x7d' :: rest) =
          '"' :: cs := by
      rw [writeMembers, intercalate_cons]
      exact ⟨_, rfl⟩
    have htext : List.intercalate (',' :: afterComma layout level)
        (writeMembers layout level ((key, v) :: (key', w) :: ms)) ++ (blanks ++ '\x7d' :: rest) =
          writeText key ++ ':' :: ' ' ::
            (writeAt layout level v ++ ',' :: (afterComma layout level ++ '"' :: cs)) := by
      rw [writeMembers, intercalate_cons, if_neg (by simp), ← hcs]
      simp
    obtain ⟨place', hread⟩ := readMembers_next read budget place ('"' :: cs) hkey
      (head?_writeAt layout level v _)
      (fun c (hc : c ∈ afterComma layout level) => isSpace_afterComma hc) (by simp [isSpace])
      fun place => readValue_write v hv layout level depth place _ (endsNumber_cons rfl (by decide))
        (hdepth _ (.head _))
    obtain ⟨place'', hreads⟩ := readMembers_write ((key', w) :: ms) hms layout level
      depth budget place' blanks rest (read ++ [(key, v)]) (by simp) hblanks (by simpa using hkeys)
      (fun u hu => hdepth u (.tail _ hu)) (by simpa using hbudget)
    refine ⟨place'', ?_⟩
    rw [htext, hread, set_of_nodup hkeys, ← hcs, hreads]
    simp

end

/-! ## Documents -/

theorem isPlain_newLine {c : Char} (hc : c ∈ newLine layout level) : Text.IsPlain c := by
  cases layout with
  | line => cases hc
  | indented =>
    obtain rfl | hc := List.mem_cons.mp hc
    · decide
    · rw [List.eq_of_mem_replicate hc]
      decide

theorem isPlain_afterComma {c : Char} (hc : c ∈ afterComma layout level) : Text.IsPlain c := by
  cases layout with
  | line => exact List.mem_singleton.mp hc ▸ by decide
  | indented => exact isPlain_newLine (show c ∈ newLine .indented level from hc)

theorem isPlain_intercalate {sep : List Char} {parts : List (List Char)} {c : Char}
    (hsep : ∀ c ∈ sep, Text.IsPlain c) (hparts : ∀ p ∈ parts, ∀ c ∈ p, Text.IsPlain c)
    (hc : c ∈ List.intercalate sep parts) : Text.IsPlain c := by
  induction parts with
  | nil => cases hc
  | cons p ps ih =>
    rw [intercalate_cons] at hc
    obtain hc | hc := List.mem_append.mp hc
    · exact hparts p (.head _) c hc
    · split at hc
      · cases hc
      · obtain hc | hc := List.mem_append.mp hc
        · exact hsep c hc
        · exact ih (fun q hq => hparts q (.tail _ hq)) hc

theorem isPlain_enclose {opening closing c : Char} {parts : List (List Char)}
    (hopening : Text.IsPlain opening) (hclosing : Text.IsPlain closing)
    (hparts : ∀ p ∈ parts, ∀ c ∈ p, Text.IsPlain c)
    (hc : c ∈ enclose layout level opening closing parts) : Text.IsPlain c := by
  unfold enclose at hc
  split at hc
  · simp only [List.mem_cons, List.not_mem_nil, or_false] at hc
    obtain rfl | rfl := hc <;> assumption
  · simp only [List.mem_append, List.mem_cons, List.not_mem_nil, or_false] at hc
    obtain (((rfl | hc) | hc) | hc) | rfl := hc
    · exact hopening
    · exact isPlain_newLine hc
    · refine isPlain_intercalate (fun d hd => ?_) hparts hc
      obtain rfl | hd := List.mem_cons.mp hd
      · decide
      · exact isPlain_afterComma hd
    · exact isPlain_newLine hc
    · exact hclosing

mutual

/-- What is written of a value is plain. -/
theorem isPlain_writeAt (v : Value) (layout : Layout) (level : Nat) :
    ∀ c ∈ writeAt layout level v, Text.IsPlain c := by
  intro c hc
  match v with
  | .null => exact Text.isPlain_word "null" (by decide) hc
  | .boolean true => exact Text.isPlain_word "true" (by decide) hc
  | .boolean false => exact Text.isPlain_word "false" (by decide) hc
  | .number n => exact isPlain_writeNumber hc
  | .string t => exact isPlain_writeText hc
  | .array items =>
    exact isPlain_enclose (by decide) (by decide) (isPlain_writeItems items layout (level + 1)) hc
  | .object members =>
    exact isPlain_enclose (by decide) (by decide) (isPlain_writeMembers members layout (level + 1))
      hc

/-- What is written of some items is plain. -/
theorem isPlain_writeItems (items : List Value) (layout : Layout) (level : Nat) :
    ∀ part ∈ writeItems layout level items, ∀ c ∈ part, Text.IsPlain c := by
  match items with
  | [] => exact fun part hpart => nomatch hpart
  | v :: vs =>
    intro part hpart
    obtain rfl | hpart := List.mem_cons.mp hpart
    · exact isPlain_writeAt v layout level
    · exact isPlain_writeItems vs layout level part hpart

/-- What is written of some members is plain. -/
theorem isPlain_writeMembers (members : List (Text × Value)) (layout : Layout) (level : Nat) :
    ∀ part ∈ writeMembers layout level members, ∀ c ∈ part, Text.IsPlain c := by
  match members with
  | [] => exact fun part hpart => nomatch hpart
  | (key, v) :: ms =>
    intro part hpart c hc
    obtain rfl | hpart := List.mem_cons.mp hpart
    · simp only [List.mem_append, List.mem_cons] at hc
      obtain hc | rfl | rfl | hc := hc
      · exact isPlain_writeText hc
      · decide
      · decide
      · exact isPlain_writeAt v layout level c hc
    · exact isPlain_writeMembers ms layout level part hpart c hc

end

/-- **A document reads back**; blanks may stand behind it. -/
theorem read_writeAt (hv : v.Legible) (layout : Layout) (hblanks : ∀ c ∈ blanks, isSpace c) :
    read (writeAt layout 0 v ++ blanks) = .ok v := by
  obtain ⟨c, cs, hcs, hspace, -⟩ := writeAt_head layout 0 v
  have hskip : skip 0 (writeAt layout 0 v ++ blanks) = (0, writeAt layout 0 v ++ blanks) := by
    rw [hcs]
    exact skip_cons hspace
  have hmark : (writeAt layout 0 v ++ blanks).head? ≠ some '\ufeff' := by
    have hplain := isPlain_writeAt v layout 0 c (by simp [hcs])
    rw [hcs, List.cons_append, List.head?_cons]
    intro h
    rw [Option.some.inj h] at hplain
    exact absurd hplain (by decide)
  have hnil : EndsNumber [] := by simp [EndsNumber]
  have hends : EndsNumber blanks := by simpa using endsNumber_append hblanks hnil
  obtain ⟨place', hread⟩ := readValue_write v hv layout 0
    ((writeAt layout 0 v ++ blanks).length + 1) 0 blanks hends (by
      rw [List.length_append]
      omega)
  have hend : skip place' blanks = (place' + blanks.length, []) := by
    simpa using skip_append place' blanks [] hblanks (by simp)
  rw [read, if_neg hmark]
  simp only [hskip, bind, Except.bind, hread, hend, if_true]
  rfl

end Ratchet.Json

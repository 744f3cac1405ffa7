import Ratchet.Proofs.Path
import Ratchet.Proofs.Python.Parser
import Ratchet.Proofs.Python.Token
import Ratchet.Proofs.Text.Identifier
import Ratchet.Python.Program

/-!
# Import statements of a program

The names in the import statements of a program are what they look like: a
module name is parts with dots between them, and a part neither is empty nor
holds a dot or a slash. The import statements of a program, level by level,
are all that stand anywhere in it.

* `ImportStatement.IsProper`: the names of an import statement.
* `isProper_of_parse`: the import statements of a program.
* `imports_perm`: the levels hold every import statement once.
-/

namespace Ratchet.Text

/-- Texts with a separator between them are split apart from each other. -/
theorem split_append_cons (sep : Char) (cs more : List Char) :
    split sep (cs ++ sep :: more) = split sep cs ++ split sep more := by
  induction cs with
  | nil => simp [split]
  | cons c cs ih =>
    obtain ⟨first, rest, hsplit⟩ := List.exists_cons_of_ne_nil (split_ne_nil sep cs)
    rw [List.cons_append, split, split, ih, hsplit]
    split <;> rfl

theorem splitString_ne_nil (sep : Char) (s : String) : splitString sep s ≠ [] := by
  simp [splitString, split_ne_nil]

theorem splitString_eq_singleton {s : String} (h : '.' ∉ s.toList) : splitString '.' s = [s] := by
  rw [splitString, split_eq_singleton h]
  simp

/-- A dotted name is divided at each of its dots. -/
theorem splitString_append_dot (s s' : String) :
    splitString '.' (s ++ "." ++ s') = splitString '.' s ++ splitString '.' s' := by
  have htext : (s ++ "." ++ s').toList = s.toList ++ '.' :: s'.toList := by simp
  rw [splitString, htext, split_append_cons, List.map_append]
  rfl

end Ratchet.Text

namespace Ratchet.Python

/-! ## Names -/

/-- A part of a module name. -/
structure IsPart (s : String) : Prop where
  /-- It is not empty. -/
  ne_empty : s ≠ ""
  /-- It holds no dot. -/
  dot : '.' ∉ s.toList
  /-- It holds no slash. -/
  slash : '/' ∉ s.toList

theorem IsPart.isName {s : String} (h : IsPart s) : Path.IsName s :=
  ⟨h.ne_empty, fun heq => h.dot (by rw [heq]; decide), h.slash⟩

/-- Parts with dots between them. -/
def IsDotted (s : String) : Prop :=
  ∀ part ∈ Text.splitString '.' s, IsPart part

theorem toList_dotted (parts : List String) :
    (".".intercalate parts).toList = Text.join '.' (parts.map String.toList) := by
  induction parts with
  | nil => rfl
  | cons part parts ih =>
    cases parts with
    | nil => simp [Text.join]
    | cons next parts =>
      rw [String.intercalate_cons_cons, String.toList_append, String.toList_append, ih]
      simp [Text.join]

/-- **Parts are read back from the name they make.** -/
theorem splitString_dotted {parts : List String} (h : ∀ part ∈ parts, '.' ∉ part.toList)
    (hne : parts ≠ []) : Text.splitString '.' (".".intercalate parts) = parts := by
  rw [Text.splitString, toList_dotted, Text.split_join (List.forall_mem_map.mpr h)
    (by simpa using hne), List.map_map]
  simp [Function.comp_def]

theorem intercalate_splitString (s : String) : ".".intercalate (Text.splitString '.' s) = s := by
  apply String.toList_injective
  rw [toList_dotted, Text.splitString, List.map_map]
  simp [Function.comp_def, Text.join_split]

theorem intercalate_concat {parts : List String} (hne : parts ≠ []) (sep part : String) :
    sep.intercalate (parts ++ [part]) = sep.intercalate parts ++ sep ++ part := by
  induction parts with
  | nil => exact absurd rfl hne
  | cons first parts ih =>
    cases parts with
    | nil => simp
    | cons next parts =>
      have hrest := ih (by simp)
      rw [List.cons_append, List.cons_append, String.intercalate_cons_cons, ← List.cons_append,
        hrest, String.intercalate_cons_cons]
      simp [String.append_assoc]

theorem isDotted_intercalate {parts : List String} (h : ∀ part ∈ parts, IsPart part)
    (hne : parts ≠ []) : IsDotted (".".intercalate parts) := by
  rw [IsDotted, splitString_dotted (fun part hpart => (h part hpart).dot) hne]
  exact h

/-- An import statement with names as they can be: a relative one may leave
out the module, and a star stands for all names of a module. -/
def ImportStatement.IsProper : ImportStatement → Prop
  | .modules listed => ∀ name ∈ listed, IsDotted name
  | .names level module listed _ =>
    (level = 0 → module.isSome = true) ∧ (∀ name, module = some name → IsDotted name) ∧
      ∀ name ∈ listed, name = "*" ∨ IsPart name

/-! ## All statements of a program -/

namespace Tree

mutual

/-- The import statements in a tree, from left to right. -/
def statements : Tree → List ImportStatement
  | .leaf statement => [statement]
  | .node children => statementsOfAll children

/-- The import statements in some trees, from left to right. -/
def statementsOfAll : List Tree → List ImportStatement
  | [] => []
  | t :: ts => statements t ++ statementsOfAll ts

end

theorem statementsOfAll_append (ts ts' : List Tree) :
    statementsOfAll (ts ++ ts') = statementsOfAll ts ++ statementsOfAll ts' := by
  induction ts with
  | nil => rfl
  | cons t ts ih =>
    rw [List.cons_append, statementsOfAll, statementsOfAll, ih, List.append_assoc]

/-- All import statements in some trees have a property. -/
def All (P : ImportStatement → Prop) (ts : List Tree) : Prop :=
  ∀ s ∈ statementsOfAll ts, P s

variable {P : ImportStatement → Prop} {ts ts' : List Tree}

theorem all_nil : All P [] :=
  fun _ hs => nomatch hs

theorem all_leaf {s : ImportStatement} (h : P s) : All P [.leaf s] :=
  fun _ hs => List.mem_singleton.mp hs ▸ h

theorem all_node : All P [.node ts] ↔ All P ts := by
  rw [All, statementsOfAll, statements.eq_2, statementsOfAll.eq_1, List.append_nil]
  exact Iff.rfl

theorem all_append : All P (ts ++ ts') ↔ All P ts ∧ All P ts' := by
  rw [All, statementsOfAll_append]
  exact List.forall_mem_append

theorem all_cons {t : Tree} : All P (t :: ts) ↔ All P [t] ∧ All P ts := by
  rw [← List.singleton_append, all_append]

theorem all_flatten {groups : List (List Tree)} (h : ∀ group ∈ groups, All P group) :
    All P groups.flatten := by
  induction groups with
  | nil => exact all_nil
  | cons group groups ih =>
    exact all_append.mpr ⟨h group (.head _), ih fun g hg => h g (.tail _ hg)⟩

theorem all_of_mem (h : ∀ t ∈ ts, All P [t]) : All P ts := by
  induction ts with
  | nil => exact all_nil
  | cons t ts ih => exact all_cons.mpr ⟨h t (.head _), ih fun u hu => h u (.tail _ hu)⟩

end Tree

namespace Program

open Ratchet.Python.Tree

/-- The statements at the top and those further in are all there are. -/
theorem statementsOfAll_perm (ts : List Tree) :
    (statementsOfAll ts).Perm (leaves ts ++ statementsOfAll (inside ts)) := by
  induction ts with
  | nil => exact .nil
  | cons t ts ih =>
    cases t with
    | leaf s => exact ih.cons s
    | node children =>
      have hinside : inside (.node children :: ts) = children ++ inside ts := rfl
      have hleaves : leaves (.node children :: ts) = leaves ts := rfl
      rw [hinside, hleaves, statementsOfAll, Tree.statements, statementsOfAll_append]
      exact (ih.append_left _).trans (List.perm_append_comm_assoc ..)

theorem heightOfAll_append (ts ts' : List Tree) :
    heightOfAll (ts ++ ts') = max (heightOfAll ts) (heightOfAll ts') := by
  induction ts with
  | nil => simp [heightOfAll]
  | cons t ts ih => rw [List.cons_append, heightOfAll, heightOfAll, ih, Nat.max_assoc]

/-- What stands one level down is one level less high. -/
theorem heightOfAll_inside (ts : List Tree) : heightOfAll (inside ts) ≤ heightOfAll ts - 1 := by
  induction ts with
  | nil => exact Nat.le_refl _
  | cons t ts ih =>
    cases t with
    | leaf s =>
      have hinside : inside (.leaf s :: ts) = inside ts := rfl
      rw [hinside, heightOfAll, height]
      omega
    | node children =>
      have hinside : inside (.node children :: ts) = children ++ inside ts := rfl
      rw [hinside, heightOfAll_append, heightOfAll, height]
      omega

/-- Level by level, each statement is met once. -/
theorem levels_perm {n : Nat} {ts : List Tree} (h : heightOfAll ts ≤ n) :
    (levels n ts).Perm (statementsOfAll ts) := by
  -- by the number of levels: each takes the statements at the top
  induction n generalizing ts with
  | zero =>
    cases ts with
    | nil => exact .nil
    | cons t ts =>
      rw [heightOfAll] at h
      cases t <;> rw [height] at h <;> omega
  | succ n ih =>
    have hinside := heightOfAll_inside ts
    have hrest := ih (show heightOfAll (inside ts) ≤ n by omega)
    exact (hrest.append_left (leaves ts)).trans (statementsOfAll_perm ts).symm

/-- **Every import statement counts**, wherever it stands. -/
theorem imports_perm (p : Program) : p.imports.Perm (statementsOfAll p.statements) :=
  levels_perm (Nat.le_refl _)

end Program

/-! ## The names in import statements -/

namespace Grammar

open Ratchet.Python.Parser Ratchet.Python.Tree

variable {source : List Token}

section

variable (hsource : ∀ t ∈ source, t.IsProper)

include hsource

theorem yields_next :
    next.Yields source fun l => ∀ w, l = .word w → Text.isIdentifier w.toList = true := by
  intro tokens htokens r hr w hw
  cases tokens with
  | nil => cases hr
  | cons t ts =>
    cases hr
    exact hsource t (htokens.subset (.head _)) w hw

theorem yields_name : name.Yields source fun w => Text.isIdentifier w.toList = true := by
  refine .bind (yields_next hsource) fun l hl => ?_
  split
  · rename_i w
    exact .ite .failure (.pure (hl w rfl))
  · exact .failure

theorem yields_identifier : identifier.Yields source IsPart := by
  refine .map (yields_name hsource) fun w hw => ?_
  have hapart := Text.Compatibility.apart_normalize hw
  exact ⟨Text.Compatibility.normalize_ne_empty hw, hapart.1, hapart.2⟩

theorem yields_dottedName : dottedName.Yields source IsDotted := by
  have hpart := yields_identifier hsource
  refine .bind hpart fun first hfirst => ?_
  refine .bind (.many (.after fun _ => hpart)) fun more hmore => ?_
  exact .pure (isDotted_intercalate (List.forall_mem_cons.mpr ⟨hfirst, hmore⟩) (by simp))

theorem yields_importModules : importModules.Yields source ImportStatement.IsProper := by
  refine .after fun _ => ?_
  have hone : (do let n ← dottedName; givenName; return n : Parser String).Yields source
      IsDotted := .bind (yields_dottedName hsource) fun n hn => .after fun _ => .pure hn
  refine .bind hone fun first hfirst => ?_
  refine .bind (.whileNext (.after fun _ => hone)) fun more hmore => ?_
  exact .pure (List.forall_mem_cons.mpr ⟨hfirst, hmore⟩)

theorem yields_sourceModule :
    sourceModule.Yields source fun module => ∀ name, module = some name → IsDotted name := by
  refine .after fun _ => .ite (.pure (by simp)) (.map (yields_dottedName hsource) ?_)
  intro n hn name heq
  cases heq
  exact hn

theorem yields_importNames : importNames.Yields source ImportStatement.IsProper := by
  refine .after fun line => .after fun _ => .after fun level => ?_
  refine .bind (yields_sourceModule hsource) fun module hmodule => ?_
  -- a statement without dots needs a module
  refine .bind (P := fun _ => level = 0 → module.isSome = true) ?_ fun _ hlevel => ?_
  · rw [require]
    split
    · rename_i hrequired
      refine .pure fun hzero => ?_
      simpa [hzero] using hrequired
    · exact .failure
  refine .after fun _ => ?_
  have hone : (do let n ← identifier; givenName; return n : Parser String).Yields source
      fun name => name = "*" ∨ IsPart name :=
    .bind (yields_identifier hsource) fun n hn => .after fun _ => .pure (.inr hn)
  refine .after fun star => .ite (.pure ⟨hlevel, hmodule, by simp⟩) ?_
  refine .after fun open_ => .ite ?_ ?_
  · refine .bind (.commaList hone) fun found hfound => .after fun _ => ?_
    exact .pure ⟨hlevel, hmodule, hfound.2⟩
  · refine .bind hone fun first hfirst => ?_
    refine .bind (.whileNext (.after fun _ => hone)) fun more hmore => ?_
    exact .pure ⟨hlevel, hmodule, List.forall_mem_cons.mpr ⟨hfirst, hmore⟩⟩

/-! ## Statements -/

theorem yields_simpleStatement (depth : Nat) :
    (simpleStatement depth).Yields source (All ImportStatement.IsProper) := by
  have hnone : ∀ {α : Type} {p : Parser α}, (do let _ ← p; return [] : Parser (List Tree)).Yields
      source (All ImportStatement.IsProper) := .after fun _ => .pure all_nil
  refine .after fun next => ?_
  split
  · exact .bind (yields_importModules hsource) fun s hs => .pure (all_leaf hs)
  · exact .bind (yields_importNames hsource) fun s hs => .pure (all_leaf hs)
  · exact .after fun _ => hnone
  · refine .after fun _ => .after fun cause => ?_
    split
    · exact hnone
    · exact .pure all_nil
  · refine .after fun _ => .after fun _ => .after fun comma => .ite ?_ (.pure all_nil)
    exact hnone
  · exact .after fun _ => .after fun _ => hnone
  · refine .ite ?_ (.ite hnone hnone)
    exact .after fun _ => hnone
  · exact hnone

theorem yields_simpleStatements (depth : Nat) :
    (simpleStatements depth).Yields source (All ImportStatement.IsProper) := by
  have hone := yields_simpleStatement hsource depth
  refine .bind hone fun first hfirst => ?_
  refine .bind (.many (.after fun _ => hone)) fun more hmore => .after fun _ => .after fun _ => ?_
  exact .pure (all_append.mpr ⟨hfirst, all_flatten hmore⟩)

section

variable {depth : Nat} {self : Parser (List Tree)}
  (hself : self.Yields source (All ImportStatement.IsProper))

include hself

/-- A block yields proper imports. -/
theorem yields_block : (block depth self).Yields source (All ImportStatement.IsProper) := by
  refine .after fun _ => .after fun inner => .ite ?_ (yields_simpleStatements hsource depth)
  refine .after fun _ => .bind hself fun first hfirst => ?_
  refine .bind (.whileNext hself) fun more hmore => .after fun _ => ?_
  exact .pure (all_append.mpr ⟨hfirst, all_flatten hmore⟩)

theorem yields_elseBlock : (elseBlock depth self).Yields source (All ImportStatement.IsProper) :=
  .after fun _ => .ite (yields_block hsource hself) (.pure all_nil)

/-- A block is the body of one statement. -/
theorem yields_body : (do return [.node (← block depth self)] : Parser (List Tree)).Yields source
    (All ImportStatement.IsProper) :=
  .bind (yields_block hsource hself) fun _ hbody => .pure (all_node.mpr hbody)

/-- A body and what stands behind `else` are the body of one statement. -/
theorem yields_loop : (do
      let body ← block depth self
      return [.node (body ++ (← elseBlock depth self))] : Parser (List Tree)).Yields source
    (All ImportStatement.IsProper) := by
  refine .bind (yields_block hsource hself) fun body hbody => ?_
  refine .bind (yields_elseBlock hsource hself) fun other hother => ?_
  exact .pure (all_node.mpr (all_append.mpr ⟨hbody, hother⟩))

/-- An if statement yields proper imports. -/
theorem yields_ifStatement :
    (ifStatement depth self).Yields source (All ImportStatement.IsProper) := by
  have hbranch : (do let _ ← named (rule depth); block depth self : Parser (List Tree)).Yields
      source (All ImportStatement.IsProper) := .after fun _ => yields_block hsource hself
  refine .bind hbranch fun first hfirst => ?_
  refine .bind (.whileNext (.after fun _ => hbranch)) fun more hmore => ?_
  refine .bind (yields_elseBlock hsource hself) fun last hlast => ?_
  -- each `elif` holds those behind it
  have hrest : All ImportStatement.IsProper
      (more.foldr (fun body rest => [Tree.node (body ++ rest)]) last) := by
    clear hfirst
    induction more with
    | nil => exact hlast
    | cons body more ih =>
      have htail := ih fun b hb => hmore b (.tail _ hb)
      exact all_node.mpr (all_append.mpr ⟨hmore body (.head _), htail⟩)
  exact .pure (all_node.mpr (all_append.mpr ⟨hfirst, hrest⟩))

theorem yields_whileStatement :
    (whileStatement depth self).Yields source (All ImportStatement.IsProper) :=
  .after fun _ => yields_loop hsource hself

theorem yields_forStatement :
    (forStatement depth self).Yields source (All ImportStatement.IsProper) :=
  .after fun _ => .after fun _ => .after fun _ => yields_loop hsource hself

theorem yields_withStatement :
    (withStatement depth self).Yields source (All ImportStatement.IsProper) :=
  .after fun _ => yields_body hsource hself

theorem yields_handler :
    (handler depth self).Yields source fun h => All ImportStatement.IsProper [h.2] := by
  have hbody : ∀ group : Bool, (do return (group, .node (← block depth self)) :
      Parser (Bool × Tree)).Yields source fun h => All ImportStatement.IsProper [h.2] :=
    fun group => .bind (yields_block hsource hself) fun _ hbody => .pure (all_node.mpr hbody)
  refine .after fun _ => .after fun group => .after fun _ => .ite ?_ (hbody group)
  exact .after fun _ => .after fun _ => hbody group

/-- A try statement yields proper imports. -/
theorem yields_tryStatement :
    (tryStatement depth self).Yields source (All ImportStatement.IsProper) := by
  refine .bind (yields_block hsource hself) fun body hbody => ?_
  refine .bind (.whileNext (yields_handler hsource hself)) fun handlers hhandlers => ?_
  have hhandled : All ImportStatement.IsProper (handlers.map (·.2)) :=
    all_of_mem (List.forall_mem_map.mpr hhandlers)
  have hcleanup : (finallyBlock depth self).Yields source fun cleanup =>
      All ImportStatement.IsProper (cleanup.getD []) := by
    refine .after fun _ => .ite ?_ (.pure all_nil)
    exact .map (yields_block hsource hself) fun _ hbody => hbody
  have hrest : ∀ other, All ImportStatement.IsProper other → (do
      let cleanup ← finallyBlock depth self
      require (!handlers.isEmpty || cleanup.isSome)
      return [.node (body ++ handlers.map (·.2) ++ other ++ cleanup.getD [])] :
      Parser (List Tree)).Yields source (All ImportStatement.IsProper) := by
    intro other hother
    refine .bind hcleanup fun cleanup hcleanup => .after fun _ => .pure (all_node.mpr ?_)
    exact all_append.mpr ⟨all_append.mpr ⟨all_append.mpr ⟨hbody, hhandled⟩, hother⟩, hcleanup⟩
  refine .after fun _ => .ite ?_ ?_
  · exact .bind (.pure all_nil) hrest
  · exact .bind (yields_elseBlock hsource hself) hrest

theorem yields_matchCase :
    (matchCase depth self).Yields source fun t => All ImportStatement.IsProper [t] := by
  have hbody : (do return .node (← block depth self) : Parser Tree).Yields source
      fun t => All ImportStatement.IsProper [t] :=
    .bind (yields_block hsource hself) fun _ hbody => .pure (all_node.mpr hbody)
  refine .after fun _ => .after fun _ => .after fun guarded => .ite ?_ hbody
  exact .after fun _ => hbody

/-- A match statement yields proper imports. -/
theorem yields_matchStatement :
    (matchStatement depth self).Yields source (All ImportStatement.IsProper) := by
  have hcase : (matchCase depth self).Yields source _ := yields_matchCase hsource hself
  refine .after fun _ => .after fun subjects => .after fun _ => .after fun _ => .after fun _ =>
    .after fun _ => .bind hcase fun first hfirst => ?_
  refine .bind (.whileNext hcase) fun more hmore => .after fun _ => ?_
  exact .pure (all_node.mpr (all_cons.mpr ⟨hfirst, all_of_mem hmore⟩))

/-- A function yields proper imports. -/
theorem yields_functionStatement :
    (functionStatement depth self).Yields source (All ImportStatement.IsProper) := by
  have hbody : (do return [.node (← block depth self)] : Parser (List Tree)).Yields source
      (All ImportStatement.IsProper) := yields_body hsource hself
  refine .after fun _ => .after fun _ => .after fun _ => .after fun arrow => .ite ?_ hbody
  exact .after fun _ => hbody

/-- A class yields proper imports. -/
theorem yields_classStatement :
    (classStatement depth self).Yields source (All ImportStatement.IsProper) := by
  have hbody : (do return [.node (← block depth self)] : Parser (List Tree)).Yields source
      (All ImportStatement.IsProper) := yields_body hsource hself
  exact .after fun _ => .after fun bases => .ite (.after fun _ => hbody) hbody

theorem yields_decorated : (decorated depth self).Yields source (All ImportStatement.IsProper) := by
  refine .after fun _ => .after fun isClass => .ite (yields_classStatement hsource hself) ?_
  exact .after fun _ => .after fun _ => yields_functionStatement hsource hself

theorem yields_asyncStatement :
    (asyncStatement depth self).Yields source (All ImportStatement.IsProper) :=
  .after fun _ => .ite (yields_functionStatement hsource hself) <| .after fun _ =>
    .ite (yields_withStatement hsource hself) <| .after fun _ => yields_forStatement hsource hself

theorem yields_statementBody :
    (statementBody depth self).Yields source (All ImportStatement.IsProper) :=
  .after fun _ => .ite (yields_decorated hsource hself) <|
  .after fun _ => .ite (yields_functionStatement hsource hself) <|
  .after fun _ => .ite (yields_classStatement hsource hself) <|
  .after fun _ => .ite (yields_asyncStatement hsource hself) <|
  .after fun _ => .ite (yields_ifStatement hsource hself) <|
  .after fun _ => .ite (yields_whileStatement hsource hself) <|
  .after fun _ => .ite (yields_forStatement hsource hself) <|
  .after fun _ => .ite (yields_withStatement hsource hself) <|
  .after fun _ => .ite (yields_tryStatement hsource hself) <|
  .after fun _ => .ite (.orElse (yields_matchStatement hsource hself)
    (yields_simpleStatements hsource depth)) (yields_simpleStatements hsource depth)

end

/-- A statement yields proper imports, however deep. -/
theorem yields_statement (depth n : Nat) :
    (statement depth n).Yields source (All ImportStatement.IsProper) := by
  induction n with
  | zero => exact .failure
  | succ n ih => exact yields_statementBody hsource ih

end

end Grammar

/-- **The names in the import statements of a program** are what they look like. -/
theorem Program.isProper_of_parse {source : List Char} {program : Program}
    (h : Program.parse? source = some program) : ∀ s ∈ program.imports, s.IsProper := by
  obtain ⟨tokens, htokens, h⟩ := Option.bind_eq_some_iff.mp h
  split at h
  · obtain ⟨trees, htrees, h⟩ := Option.bind_eq_some_iff.mp h
    cases h
    obtain ⟨⟨⟨groups, rest⟩, hrest⟩, hrun, h⟩ := Option.bind_eq_some_iff.mp htrees
    dsimp only at h
    split at h
    · cases h
      have hproper := Grammar.yields_statement (Token.isProper_of_scan htokens)
      have hall : Tree.All ImportStatement.IsProper groups.flatten := Tree.all_flatten
        (Parser.Yields.whileNext (hproper _ _) tokens List.suffix_rfl _ hrun)
      exact fun s hs => hall s ((Program.imports_perm _).mem_iff.mp hs)
    · cases h
  · cases h

end Ratchet.Python

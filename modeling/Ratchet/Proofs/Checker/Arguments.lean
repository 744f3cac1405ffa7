import Ratchet.Checker.Session
import Ratchet.Proofs.FileSystem.Place
import Ratchet.Proofs.Shell.Words

/-!
# The arguments of the strict checker

The strict checker is written down as one command: its executable, its options and the
further arguments, each quoted, and behind them the mark for the file. For a file the
command is cut into words again, and the mark is replaced by the file as it is seen
from the directory of the checker. The words come back as they were, since quoting
neither makes nor hides a mark.

* `wordsFor_of_template`: the words of a command for a file.
* `resolve_shown`: what the checker is told leads to the file.
* `strict_arguments`: the arguments of the strict checker.
-/

namespace Ratchet.Checker

variable {fs : FileSystem} {c : Command} {cwd : Path} {executable file word : String}
  {extra given : List String} {cache : Option String}

/-! ## The file as the checker is told it -/

/-- **What the checker is told leads to the file** from its directory. -/
theorem resolve_shown (h : fs.IsPlace file) :
    Path.toString <$> fs.resolve (c.cwd ++ Path.ofString (c.shown fs file)) = .ok file := by
  obtain ⟨p, hp, hfile⟩ := h
  obtain ⟨hparts, hnames, -, -⟩ := FileSystem.place_of_resolve hp hfile
  have hback : Path.ofString file = p := by
    rw [← hfile, hparts]
    exact Path.ofString_ofParts hnames
  have hjoin : c.cwd ++ Path.ofString (c.shown fs file) = p := by
    rw [Command.shown, hp]
    dsimp only
    unfold Path.relativeTo?
    split
    · -- the rest of the way, which is put behind the directory again
      rename_i hbase
      obtain ⟨hanchor, hprefix⟩ := hbase
      obtain ⟨rest, hrest⟩ := List.isPrefixOf_iff_prefix.mp hprefix
      have hdrop : p.parts.drop c.cwd.parts.length = rest := by rw [← hrest, List.drop_left]
      have hread : Path.ofString ({ parts := rest } : Path).toString = { parts := rest } :=
        Path.ofString_relative fun part hpart =>
          hnames part (hrest ▸ List.mem_append_right _ hpart)
      rw [hdrop, Option.map_some, Option.getD_some, hread]
      change ({ anchor := c.cwd.anchor, parts := c.cwd.parts ++ rest } : Path) = p
      rw [hrest, ← hanchor]
    · have habsolute : p.isAbsolute = true := by
        rw [hparts]
        rfl
      rw [Option.map_none, Option.getD_none, hback]
      exact if_pos habsolute
  rw [hjoin, ← hback, hp]
  exact congrArg Except.ok hfile

/-! ## The command -/

theorem notMem_fileMark : '\'' ∉ fileMark ∧ '"' ∉ fileMark ∧ ' ' ∉ fileMark ∧ fileMark ≠ [] := by
  decide

/-- The words that the command of the strict checker is made of. -/
def strictWords (executable : String) (extra : List String) : List (List Char) :=
  (executable :: strictOptions ++ extra).map String.toList

theorem toList_strictCommand :
    (strictCommand executable extra).toList = Shell.line (strictWords executable extra) := by
  rw [strictCommand, String.toList_ofList, Shell.line, strictWords, List.map_map]
  rfl

/-- The word that a word of the command becomes for a file. -/
def tell (shown : String) (word : List Char) : String :=
  .ofList (Text.substitute fileMark shown.toList word)

theorem tell_of_not_infix {shown : String} (h : ¬fileMark <:+: word.toList) :
    tell shown word.toList = word := by
  rw [tell, Text.substitute_of_not_infix h, String.ofList_toList]

theorem tell_fileMark (shown : String) : tell shown fileMark = shown := by
  rw [tell, Text.substitute_self notMem_fileMark.2.2.2, String.ofList_toList]

section

variable (hextra : ∀ word ∈ extra, ¬fileMark <:+: word.toList)

include hextra

/-- Of the words of the strict checker only its executable can hold a mark. -/
theorem not_infix_of_mem (h : word ∈ strictOptions ++ extra) : ¬fileMark <:+: word.toList := by
  have hoptions : ∀ word ∈ strictOptions, Text.occursIn fileMark word.toList = false := by decide
  obtain h | h := List.mem_append.mp h
  · rw [← Text.occursIn_iff, hoptions word h]
    simp
  · exact hextra word h

/-- A mark in the strict words is one in the executable. -/
theorem exists_mark_iff :
    (∃ word ∈ strictWords executable extra, fileMark <:+: word) ↔
      fileMark <:+: executable.toList := by
  have hrest : ¬∃ word ∈ (strictOptions ++ extra).map String.toList, fileMark <:+: word := by
    rintro ⟨_, hword, h⟩
    obtain ⟨word, hmem, rfl⟩ := List.mem_map.mp hword
    exact not_infix_of_mem hextra hmem h
  rw [strictWords, List.cons_append, List.map_cons, List.exists_mem_cons_iff, or_iff_left hrest]

/-- **The words of the template**: those it is made of, and the mark unless the executable
holds it. -/
theorem words_template :
    Shell.words (templateOf (strictCommand executable extra)).toList =
      .ok (strictWords executable extra ++
        if fileMark <:+: executable.toList then [] else [fileMark]) := by
  obtain ⟨hsingle, hdouble, hblank, hne⟩ := notMem_fileMark
  have hmark : Text.occursIn fileMark (strictCommand executable extra).toList = true ↔
      fileMark <:+: executable.toList := by
    rw [Text.occursIn_iff, toList_strictCommand, Shell.infix_line hsingle hdouble hne hblank,
      exists_mark_iff hextra]
  have hwords : strictWords executable extra ≠ [] := List.cons_ne_nil _ _
  rw [templateOf]
  by_cases h : fileMark <:+: executable.toList
  · rw [if_pos (hmark.mpr h), if_pos h, List.append_nil, toList_strictCommand,
      Shell.words_line hwords]
  · have hread : Shell.words fileMark = .ok [fileMark] := by decide
    rw [if_neg (hmark.not.mpr h), if_neg h, String.toList_ofList, toList_strictCommand,
      Shell.words_line_space hwords, hread]
    rfl

/-- **The words of the command for a file**: those it is made of, and behind them the
file, unless the executable takes it in. -/
theorem wordsFor_strict (hc : c.template = templateOf (strictCommand executable extra))
    (fs : FileSystem) (file : String) :
    c.wordsFor fs file = .ok (tell (c.shown fs file) executable.toList :: (strictOptions ++ extra ++
      if fileMark <:+: executable.toList then [] else [c.shown fs file])) := by
  have hrest : ((strictOptions ++ extra).map String.toList).map (tell (c.shown fs file)) =
      strictOptions ++ extra := by
    rw [List.map_map]
    refine (List.map_congr_left fun word hword => ?_).trans (List.map_id _)
    exact tell_of_not_infix (not_infix_of_mem hextra hword)
  rw [Command.wordsFor, hc, words_template hextra]
  refine congrArg Except.ok ?_
  change List.map (tell (c.shown fs file)) _ = _
  rw [List.map_append, strictWords, List.cons_append, List.map_cons, List.map_cons, hrest]
  split
  · rfl
  · rw [List.map_singleton, tell_fileMark]
    rfl

end

/-! ## The arguments -/

/-- The options that tell the cache of a session, if one is open. -/
def cacheOptions : Option String → List String
  | none => []
  | some directory => ["--cache-dir", directory]

theorem isSome_cacheDirectory_start {s : Session} (h : s.command.caches = true) :
    s.start.cacheDirectory.isSome = true := by
  rw [Session.start, if_pos h]
  rfl

theorem cacheDirectory_stop (s : Session) : s.stop.cacheDirectory = none := by
  unfold Session.stop
  split
  · rename_i hcache
    rw [Session.cacheDirectory, hcache]
    rfl
  · rfl

/-- The arguments are the words, with the cache after the first. -/
theorem arguments_eq {first : String} {more : List String}
    (h : c.wordsFor fs file = .ok (first :: more)) (cache : Option String) :
    c.arguments fs cache file = .ok (first :: cacheOptions cache ++ more) := by
  rw [Command.arguments, h]
  cases cache <;> rfl

/-- The strict command can always be made, in a directory that can be asked for. -/
theorem exists_strict (hcwd : cwd.hasNull = false) (executable : String) (extra : List String) :
    ∃ c, Command.strict fs executable extra cwd = .ok c ∧
      c.template = templateOf (strictCommand executable extra) ∧ c.cwd = cwd.resolve fs.cwd ∧
      c.caches = true := by
  rw [Command.strict, Command.ofCommand, FileSystem.resolve_eq_ok.mpr ⟨hcwd, rfl⟩]
  generalize templateOf (strictCommand executable extra) = template
  exact ⟨_, rfl, rfl, rfl, rfl⟩

/-- **The arguments of the strict checker** are its executable, the cache of an open
session, its options, the further arguments as they are, whatever they hold, and last
the file as it is seen from the directory of the checker, to which it leads from there.
A mark in the executable is replaced by the file, which is then not given again. -/
theorem strict_arguments (hcwd : cwd.hasNull = false)
    (hextra : ∀ word ∈ extra, ¬fileMark <:+: word.toList) :
    ∃ c, Command.strict fs executable extra cwd = .ok c ∧
      (∀ s : Session, s.command = c →
        s.start.cacheDirectory.isSome = true ∧ s.stop.cacheDirectory = none ∧
        ∀ fs' file, s.arguments fs' file = c.arguments fs' s.cacheDirectory file) ∧
      ∀ (fs' : FileSystem) (cache : Option String) (file : String), fs'.IsPlace file →
        Path.toString <$> fs'.resolve (cwd.resolve fs.cwd ++ Path.ofString (c.shown fs' file)) =
          .ok file ∧
        (¬fileMark <:+: executable.toList → c.arguments fs' cache file = .ok
          (executable :: cacheOptions cache ++
            ["--strict", "--follow-imports=silent", "--no-color-output"] ++ extra ++
            [c.shown fs' file])) ∧
        (fileMark <:+: executable.toList → c.arguments fs' cache file = .ok
          (tell (c.shown fs' file) executable.toList :: cacheOptions cache ++
            ["--strict", "--follow-imports=silent", "--no-color-output"] ++ extra)) := by
  obtain ⟨c, hc, htemplate, hdirectory, hcaches⟩ := exists_strict hcwd executable extra
  refine ⟨c, hc, ?_, fun fs' cache file hfile => ?_⟩
  · rintro s rfl
    exact ⟨isSome_cacheDirectory_start hcaches, cacheDirectory_stop s, fun _ _ => rfl⟩
  · have harguments := arguments_eq (wordsFor_strict hextra htemplate fs' file) cache
    refine ⟨hdirectory ▸ resolve_shown hfile, fun h => ?_, fun h => ?_⟩
    · rw [harguments, tell_of_not_infix h, if_neg h]
      simp [strictOptions]
    · rw [harguments, if_pos h]
      simp [strictOptions]

/-! ### Words that are hard to quote -/

/-- A working directory with nothing in it. -/
def bench : FileSystem where
  cwd := ["p"]

/-- Words that a command cannot hold as they are. -/
def hardWords : List String :=
  ["", "a b", "it's", "\"\\", "x\ny", "é", "\x7bfil", "e\x7d"]

/-- Hard words come back as they were, and so does a file that is called like the mark. -/
theorem hard_words_survive :
    (Path.ofString ".").hasNull = false ∧ (∀ word ∈ hardWords, ¬fileMark <:+: word.toList) ∧
      bench.IsPlace "/p/\x7bfile\x7d 'a'.py" ∧
      ∃ c, Command.strict bench "my py" hardWords (Path.ofString ".") = .ok c ∧
        c.arguments bench (some "/tmp/c") "/p/\x7bfile\x7d 'a'.py" = .ok
          ["my py", "--cache-dir", "/tmp/c", "--strict", "--follow-imports=silent",
            "--no-color-output", "", "a b", "it's", "\"\\", "x\ny", "é", "\x7bfil", "e\x7d",
            "\x7bfile\x7d 'a'.py"] := by
  have hcwd : (Path.ofString ".").hasNull = false := by decide +kernel
  have hextra : ∀ word ∈ hardWords, ¬fileMark <:+: word.toList := by decide +kernel
  have hfile : bench.IsPlace "/p/\x7bfile\x7d 'a'.py" :=
    FileSystem.isPlace_of_toString (by decide +kernel) (by decide +kernel)
  obtain ⟨c, hc, -, harguments⟩ := @strict_arguments bench _ "my py" _ hcwd hextra
  obtain ⟨-, hplain, -⟩ := harguments bench (some "/tmp/c") _ hfile
  obtain ⟨c', hc', hshown⟩ := Outcome.map_eq_ok.mp <| Outcome.toOption_eq_some.mp <|
    show ((·.shown bench "/p/\x7bfile\x7d 'a'.py") <$>
      Command.strict bench "my py" hardWords (Path.ofString ".")).toOption =
        some "\x7bfile\x7d 'a'.py" by decide +kernel
  cases hc.symm.trans hc'
  rw [hshown] at hplain
  exact ⟨hcwd, hextra, hfile, c, hc, hplain (by decide +kernel)⟩

/-- An executable whose name holds the mark is not called by its name, and is not given
the file. -/
theorem marked_executable_is_replaced :
    bench.IsPlace "/p/a.py" ∧
      ∃ c, Command.strict bench "/opt/\x7bfile\x7d/mypy" [] (Path.ofString ".") = .ok c ∧
        c.arguments bench none "/p/a.py" =
          .ok ["/opt/a.py/mypy", "--strict", "--follow-imports=silent", "--no-color-output"] ∧
        ∀ last, c.arguments bench none "/p/a.py" ≠ .ok
          ["/opt/\x7bfile\x7d/mypy", "--strict", "--follow-imports=silent", "--no-color-output",
            last] := by
  have hfile : bench.IsPlace "/p/a.py" :=
    FileSystem.isPlace_of_toString (by decide +kernel) (by decide +kernel)
  obtain ⟨c, hc, harguments⟩ := Outcome.map_eq_ok.mp <| Outcome.toOption_eq_some.mp <|
    show ((fun c => (c.arguments bench none "/p/a.py").toOption) <$>
      Command.strict bench "/opt/\x7bfile\x7d/mypy" [] (Path.ofString ".")).toOption =
        some (some ["/opt/a.py/mypy", "--strict", "--follow-imports=silent",
          "--no-color-output"]) by decide +kernel
  have hgiven := Outcome.toOption_eq_some.mp harguments
  refine ⟨hfile, c, hc, hgiven, fun last h => ?_⟩
  have hfirst : "/opt/a.py/mypy" = "/opt/\x7bfile\x7d/mypy" :=
    List.head_eq_of_cons_eq (Except.ok.inj (hgiven.symm.trans h))
  exact absurd hfirst (by decide)

end Ratchet.Checker

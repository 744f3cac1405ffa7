import Ratchet.Checker.Command
import Ratchet.Proofs.Basic
import Ratchet.Proofs.Checker.Markers
import Ratchet.Proofs.Text.Plain

/-!
# What a count of nought says

A checker is run on a file, and the file counts as clean when the run brings a
count of nought. That says of the run: it exited with an accepted code, and its
output either sums up to nought or has no sum and no marker. A run that exits
otherwise, that takes too long or whose output is no text brings no count.

* `answer_eq_ok_iff`: when a run brings a count, and which.
* `clean_run_says_nought`: what a run looks like that brings a count of nought.
-/

namespace Ratchet.Checker

open Text (isWord)

namespace Command

variable {c : Command} {file : String} {run : Run} {out err : List Char} {count : Nat}

/-- **When a run brings a count**: it exits with an accepted code, and what it
wrote is text; the two outputs are read one behind the other. -/
theorem answer_eq_ok_iff : c.answer file run = .ok count ↔
    ∃ code out err, run.ending = .exited code ∧ code ∈ c.okExitCodes ∧
      written run.output = .ok out ∧ written run.errors = .ok err ∧
      countErrors (out ++ err) = .ok count := by
  unfold answer
  cases hend : run.ending with
  | timedOut => simp [throw, throwThe, MonadExceptOf.throw]
  | exited code =>
    simp only [Outcome.bind_eq_ok, Ending.exited.injEq]
    constructor
    · rintro ⟨out, hout, err, herr, h⟩
      split at h
      · rename_i hcode
        cases hcount : countErrors (out ++ err) with
        | error digits =>
          rw [hcount] at h
          cases h
        | ok n =>
          rw [hcount] at h
          cases h
          exact ⟨code, out, err, rfl, List.contains_iff_mem.mp hcode, hout, herr, hcount⟩
      · cases h
    · rintro ⟨_, out, err, rfl, hcode, hout, herr, hcount⟩
      refine ⟨out, hout, err, herr, ?_⟩
      rw [if_pos (List.contains_iff_mem.mpr hcode), hcount]
      rfl

end Command

/-! ## Two outputs, one behind the other -/

section

variable {out err : List Char} (h : ¬ Carries none (out ++ err))

include h

theorem not_carries_output : ∀ line ∈ Text.lines out, ¬ Carries none line := by
  intro line hline hcarries
  exact h (Carries.append_right (carries_iff_lines.mpr ⟨line, hline, hcarries⟩) err)

/-- The first word of the second output must not run on from the first one. -/
theorem not_carries_errors (hlast : ∀ c ∈ out.getLast?, isWord c = false) :
    ∀ line ∈ Text.lines err, ¬ Carries none line := by
  intro line hline hcarries
  refine h (Carries.append_left ((carries_iff_lines.mpr ⟨line, hline, hcarries⟩).congr ?_))
  rw [Option.or_none]
  cases hout : out.getLast? with
  | none => rfl
  | some c => exact (hlast c hout).symm

end

/-- What two outputs say that bring a count of nought: either their first sum is
nought, or they have no sum, and no line carries a marker. The lines are those
of both outputs, one behind the other; so no line of the first one carries a
marker, nor any line of the second one, if that does not go on in the middle of
a word. -/
def SaysNought (out err : List Char) : Prop :=
  (∃ digits, FirstSum digits (out ++ err) ∧ Text.numberOf digits = 0) ∨
    (¬ HasSum (out ++ err) ∧
      (∀ line ∈ Text.lines (out ++ err), ¬ Carries none line) ∧
      (∀ line ∈ Text.lines out, ¬ Carries none line) ∧
      ((∀ last ∈ out.getLast?, isWord last = false) →
        ∀ line ∈ Text.lines err, ¬ Carries none line))

/-- An output of which no errors are counted says that there are none. -/
theorem saysNought_of_countErrors {out err : List Char} (h : countErrors (out ++ err) = .ok 0) :
    SaysNought out err := by
  rcases countErrors_eq_zero_iff.mp h with ⟨digits, hsum, -, hnought⟩ | ⟨hnone, hmarker⟩
  · exact .inl ⟨digits, firstSum_of_sum? hsum, hnought⟩
  · refine .inr ⟨hnone, fun line hline hcarries => ?_, not_carries_output hmarker,
      not_carries_errors hmarker⟩
    exact hmarker (carries_iff_lines.mpr ⟨line, hline, hcarries⟩)

/-- **A clean file has been checked in silence.** A run that brings a count of
nought exited with code 0 or 1, and what it wrote is text that says nought. -/
theorem clean_run_says_nought {c : Command} {file : String} {run : Run}
    (hcodes : c.okExitCodes = [0, 1]) (hclean : c.answer file run = .ok 0) :
    ∃ code out err, run.ending = .exited code ∧ (code = 0 ∨ code = 1) ∧
      written run.output = .ok out ∧ written run.errors = .ok err ∧ SaysNought out err := by
  obtain ⟨code, out, err, hend, hcode, hout, herr, hcount⟩ := Command.answer_eq_ok_iff.mp hclean
  rw [hcodes] at hcode
  exact ⟨code, out, err, hend, by simpa using hcode, hout, herr, saysNought_of_countErrors hcount⟩

/-! ## Runs -/

/-- A run that writes these texts and exits with this code. -/
def wrote (out err : String) (code : Int) : Run where
  output := out.toUTF8.toList
  errors := err.toUTF8.toList
  ending := .exited code

/-- A checker whose answer counts with the usual codes. -/
def usual : Command where
  template := templateOf "checker"
  cwd := .ofParts []

/-- A plain text is read as it was written. -/
theorem written_plain {s : String} (h : s.toList.all (decide <| Text.IsPlain ·) = true) :
    written s.toUTF8.toList = .ok s.toList := by
  have hplain : ∀ c ∈ s.toList, Text.IsPlain c := fun c hc => Text.isPlain_word s h hc
  rw [written, Text.Utf8.decode_toUTF8 hplain]
  exact congrArg Except.ok (Text.unifyNewlines_eq hplain)

theorem answer_wrote {out err : String} {code : Int} {count : Nat}
    (hout : out.toList.all (decide <| Text.IsPlain ·) = true)
    (herr : err.toList.all (decide <| Text.IsPlain ·) = true)
    (hcode : code ∈ usual.okExitCodes)
    (hcount : countErrors (out.toList ++ err.toList) = .ok count) (file : String) :
    usual.answer file (wrote out err code) = .ok count :=
  Command.answer_eq_ok_iff.mpr
    ⟨code, _, _, rfl, hcode, written_plain hout, written_plain herr, hcount⟩

/-- What a checker writes that finds nothing and has something to say on the other
output. -/
def success : Run :=
  wrote "Success: no issues found in 1 source file\n" "a.py:1: note: error TS1 is unknown\n" 0

theorem success_says_nought :
    usual.okExitCodes = [0, 1] ∧ usual.answer "a.py" success = .ok 0 ∧
    ∃ code out err, success.ending = .exited code ∧ (code = 0 ∨ code = 1) ∧
      written success.output = .ok out ∧ written success.errors = .ok err ∧ SaysNought out err := by
  have hclean : usual.answer "a.py" success = .ok 0 :=
    answer_wrote (by decide) (by decide) (by decide) (by decide +kernel) "a.py"
  exact ⟨rfl, hclean, clean_run_says_nought rfl hclean⟩

/-- **A count of nought beside a marker.** A sum is believed before any marker
and with either code; and a numbered error that goes on from a word of the
other output is no word of its own. -/
theorem nought_beside_a_marker :
    usual.answer "a.py" (wrote "a.py:1: error: x\nFound 0 errors in 1 file\n" "" 1) = .ok 0 ∧
    (∃ line ∈ Text.lines "a.py:1: error: x\nFound 0 errors in 1 file\n".toList,
      Carries none line) ∧
    usual.answer "a.py" (wrote "x" "error TS1: y" 0) = .ok 0 ∧
    ∃ line ∈ Text.lines "error TS1: y".toList, Carries none line := by
  refine ⟨?_, ?_, ?_, ?_⟩
  · exact answer_wrote (by decide) (by decide) (by decide) (by decide +kernel) "a.py"
  · exact ⟨"a.py:1: error: x".toList, by decide, hasMarker_iff.mp (by decide +kernel)⟩
  · exact answer_wrote (by decide) (by decide) (by decide) (by decide +kernel) "a.py"
  · exact ⟨"error TS1: y".toList, by decide, hasMarker_iff.mp (by decide +kernel)⟩

end Ratchet.Checker

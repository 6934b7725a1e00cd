import BuildLog.Proofs.Extraction.Folders
import BuildLog.Proofs.Pass.Alone
import BuildLog.Proofs.Recognizer.PrintedMessages
import BuildLog.Proofs.Recognizer.PrintedPlaces

/-!
# Errors of the Java compiler

A path that holds colons, a message that holds marks of its own and any line below it come back as
they were printed.  The line below belongs to the message, even when it could start an error itself.
-/

set_option autoImplicit false

namespace BuildLog

open Text

namespace Java

/-- As in `path:5: error: message`. -/
def headerLine (path : Text) (line : Nat) (message : Text) : Text :=
  path ++ ':' :: Numeral.render line ++ [':'] ++ " error: ".toList ++ message

/-- A message with the line below it, which adds nothing when it is blank. -/
def extended (message below : Text) : Text :=
  if isBlankLine below then message else spaced message (trim below)

/-! ## Reading it -/

section Extended
variable {message : Text} (filled : Filled message) (below : Text)
include filled

theorem filled_extended : Filled (extended message below) := by
  rw [extended]
  split
  · exact filled
  · next spoken =>
      have rest : Filled (trim below) := ⟨mt trim_eq_nil_iff.1 spoken, trim_trim below⟩
      have whole := filled.append rest [' ']
      rwa [List.append_assoc] at whole

theorem trim_spaced : trim (spaced message (trim below)) = extended message below := by
  by_cases blank : isBlankLine below = true
  · have single : isBlankLine [' '] = true := by decide
    rw [extended, if_pos blank, trim_eq_nil_iff.2 blank]
    exact filled.trim_between (List.all_nil) single
  · have whole := filled_extended filled below
    rw [extended, if_neg blank] at whole ⊢
    exact whole.trimmed

end Extended

section Header
variable {path : Text} (line : Nat) (message : Text)

theorem header?_headerLine {folder : Text} (someFolder : folder ≠ []) (named : folder <:+: path) :
    header? folder (headerLine path line message) = some (headerLine path line message) := by
  have inside : folder <:+: headerLine path line message := by
    refine named.trans ⟨[], ':' :: Numeral.render line ++ [':'] ++ " error: ".toList ++ message, ?_⟩
    simp [headerLine]
  have marked : "error:".toList <:+: headerLine path line message :=
    ⟨path ++ ':' :: Numeral.render line ++ ": ".toList, ' ' :: message, by simp [headerLine]⟩
  have names : Folder.names folder (headerLine path line message) = true := by
    simp [Folder.names, someFolder, occursIn_iff.2 inside]
  rw [header?, names, occursIn_iff.2 marked]
  rfl

/-- The mark is found where it was printed: neither the path nor the number behind it holds the mark,
and it does not reach over the digits. -/
theorem cut?_headerLine (unmarked : ¬ " error: ".toList <:+: path) :
    cut? " error: ".toList (headerLine path line message) =
      some (path ++ ':' :: Numeral.render line ++ [':'], message) := by
  have overlaps : OverlapsUpTo 1 " error: ".toList := by decide
  have letter : 'e' ∈ " error: ".toList := by decide
  have solid : " error: ".toList.all (!·.isDigit) = true := by decide
  apply cut?_append_mark overlaps
  intro inside
  obtain ⟨d, rest, split, digit⟩ := Numeral.exists_first_digit line
  have absent : d ∉ " error: ".toList := by
    intro member
    have other := List.all_eq_true.1 solid d member
    simp [digit] at other
  have seam : path ++ ':' :: Numeral.render line ++ [':'] ++ " error: ".toList.take 1 =
      (path ++ [':']) ++ d :: (rest ++ [':', ' ']) := by
    simp [split]
  -- no digit is in the mark, so it stands on one side of the first digit
  rw [seam] at inside
  rcases infix_or_infix_of_append_cons absent inside with front | behind
  · rcases List.infix_concat_iff.1 front with ending | within
    · have last := ending.getLast (by decide)
      simp at last
    · exact unmarked within
  · have other : 'e' ∉ rest := fun member =>
      Numeral.not_mem_render (by decide) line (split ▸ List.mem_cons_of_mem d member)
    exact not_infix_of_not_mem letter (by simp [other]) behind

variable {line message} in
theorem read_headerLine (named : Filled path) (unmarked : ¬ " error: ".toList <:+: path)
    (small : line < Numeral.limit) (filled : Filled message) (below : Text) :
    read (headerLine path line message) below =
      .ok ⟨.java, path, line - 1, 0, extended message below⟩ := by
  have colon : Filled [':'] := ⟨by decide, by decide⟩
  have place : trim (path ++ ':' :: Numeral.render line ++ [':']) =
      path ++ ':' :: Numeral.render line ++ [':'] :=
    (named.append colon (':' :: Numeral.render line)).trimmed
  have noColon : ':' ∉ Numeral.render line := Numeral.not_mem_render (by decide) line
  have kept : ∀ c ∈ Numeral.render line, decide (c = ':') = false := by
    intro c member
    exact decide_eq_false fun same => noColon (same ▸ member)
  have ends : ∀ c ∈ [':'], decide (c = ':') = true := by simp
  have withoutColon : dropEndWhile (· = ':') (path ++ ':' :: Numeral.render line ++ [':']) =
      path ++ ':' :: Numeral.render line := by
    have dropped := dropEndWhile_append (Numeral.render_ne_nil line) kept ends (path ++ [':'])
    simpa using dropped
  have parts : cutLast? ':' (path ++ ':' :: Numeral.render line) =
      some (path, Numeral.render line) :=
    cutLast?_eq_some_iff.2 ⟨rfl, noColon⟩
  have joined := trim_spaced filled below
  have record := Diagnostic.ofOneBased_eq_ok .java line 0 (named.trimmed.symm ▸ named.nonempty)
    (joined.symm ▸ (filled_extended filled below).nonempty)
  rw [named.trimmed, joined] at record
  rw [read, cut?_headerLine line message unmarked]
  simp only [place, withoutColon, parts, filled.trimmed, Location.number_render .java _ small]
  exact record

end Header

end Java

/-! ## The records of a header -/

namespace LinePass

open Java

/-- Every path, message and line below come back as they were printed.  The mark is looked for from
the left, so the path may not hold it; the message and the line below may. -/
theorem records_of_java_error {folder path message : Text} {line : Nat} (settings : Settings)
    (someFolder : folder ≠ []) (inFolder : folder <:+: path) (named : Filled path)
    (unmarked : ¬ " error: ".toList <:+: path) (small : line < Numeral.limit)
    (filled : Filled message) (below : Text) :
    Attempt.recordsOf .java (attempts settings folder [headerLine path line message, below]) =
      [⟨.java, path, line - 1, 0,
        if isBlankLine below then message else message ++ ' ' :: trim below⟩] := by
  have header := header?_headerLine line message someFolder inFolder
  have record := read_headerLine named unmarked small filled below
  have own := recordsOf_attempts (javaWatcher_mem_zip settings folder)
    [headerLine path line message, below]
  rw [javaWatcher, attempts_paired_pair, header, Option.map_some, record] at own
  exact own

/-- The line below is the header of another error, and stays part of the message. -/
theorem records_of_java_error_header_below :
    let folder := "/my app".toList
    let path := "C:/my app/A:1.java".toList
    let message := "bad:  error: x".toList
    let below := "  /my app/B.java:3: error: y  ".toList
    folder ≠ [] ∧ folder <:+: path ∧ Filled path ∧ ¬ " error: ".toList <:+: path ∧
      12 < Numeral.limit ∧ Filled message ∧
      headerLine path 12 message = "C:/my app/A:1.java:12: error: bad:  error: x".toList ∧
      Attempt.recordsOf .java (attempts {} folder [headerLine path 12 message, below]) =
        [⟨.java, path, 11, 0, "bad:  error: x /my app/B.java:3: error: y".toList⟩] := by
  intro folder path message below
  have inFolder : folder <:+: path := by decide
  have named : Filled path := ⟨by decide, by decide⟩
  have unmarked : ¬ " error: ".toList <:+: path := by decide
  have small : 12 < Numeral.limit := by decide
  have filled : Filled message := ⟨by decide, by decide⟩
  have records := records_of_java_error {} (by decide) inFolder named unmarked small filled below
  refine ⟨by decide, inFolder, named, unmarked, small, filled, by decide, ?_⟩
  rw [records]
  decide

end LinePass

end BuildLog

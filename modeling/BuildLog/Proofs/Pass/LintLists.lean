import BuildLog.Pass.Layouts
import BuildLog.Proofs.Pass.LineLayouts
import BuildLog.Proofs.Pass.Readings

/-!
# Lint lists

A file name and the entries below it make a list.  The watchers of a lint layout read every entry of
a list, and nothing that the other watchers find in the same lines is mixed up with it.  An entry
belongs to the file of the list unless an entry above it ends like a file name itself: the line is
then taken for a file name too, and the entries below it are listed under its text.
-/

set_option autoImplicit false

namespace BuildLog

open Text

namespace LinePass

/-! ## The formats of the line pass -/

def formats : List Format :=
  [.eslint, .craTypescript, .viteColon, .vueTypescript, .syntaxError, .java, .jasmine, .vue]

theorem reads_lintWatcher {format : Format} (lint : format = .eslint ∨ format = .vue)
    (endings : List Text) : (lintWatcher format endings).Reads [format] := by
  rintro lines attempt ⟨header, -, line, -, file, -, rfl⟩
  exact ⟨format, List.mem_singleton_self format, Lint.owns_readEntry lint file (trim line)⟩

theorem reads_watchers (settings : Settings) (folder : Text) :
    List.Forall₂ (fun format watcher => Watcher.Reads [format] watcher) formats
      (watchers settings folder) := by
  refine .cons (reads_lintWatcher (.inl rfl) _) (.cons ?wrapped (.cons ?parenthesized
    (.cons ?component (.cons ?syntaxError (.cons ?java (.cons ?frame
      (.cons (reads_lintWatcher (.inr rfl) _) .nil)))))))
  case wrapped =>
    rintro lines attempt ⟨-, -, line, -, header, -, rfl⟩
    exact ⟨_, List.mem_singleton_self _, TypeScript.owns_readWrapped header line⟩
  case parenthesized =>
    rintro lines attempt ⟨line, -, found⟩
    obtain ⟨sides, -, rfl⟩ := Option.map_eq_some_iff.1 found
    exact ⟨_, List.mem_singleton_self _, TypeScript.owns_readParenthesized sides.1 sides.2⟩
  case component =>
    rintro lines attempt ⟨-, -, line, -, place, -, found⟩
    cases found
    exact ⟨_, List.mem_singleton_self _, TypeScript.owns_readComponent place line⟩
  case syntaxError =>
    rintro lines attempt ⟨line, -, found⟩
    obtain ⟨rest, -, rfl⟩ := Option.map_eq_some_iff.1 found
    exact ⟨_, List.mem_singleton_self _, Script.owns_readSyntaxError rest⟩
  case java =>
    rintro lines attempt ⟨-, -, line, -, header, -, rfl⟩
    exact ⟨_, List.mem_singleton_self _, Java.owns_read header line⟩
  case frame =>
    rintro lines attempt ⟨-, -, line, -, message, -, rfl⟩
    exact ⟨_, List.mem_singleton_self _, TestRunner.owns_readFrame message line⟩

theorem tagged_watchers (settings : Settings) (folder : Text) :
    List.Forall₂ Panel.Tagged formats (watchers settings folder) :=
  (reads_watchers settings folder).imp fun _ _ => Panel.tagged_of_reads

theorem filter_format_accepted (format : Format) (attempts : List Attempt) :
    (attempts.filterMap Attempt.accepted?).filter (fun diagnostic => diagnostic.format = format) =
      (attempts.filter fun attempt => attempt.format = format).filterMap Attempt.accepted? :=
  Attempt.filter_accepted (fun other => other = format) attempts

end LinePass

/-! ## The list below a file name -/

namespace Lint

def endings : Format → List Text
  | .eslint => [".ts".toList, ".tsx".toList]
  | .vue => [".vue".toList]
  | _ => []

def headsList (format : Format) (line : Text) : Bool :=
  (endings format).any fun ending => endsWith ending (trim line)

/-- The file of the lines below a line, when `file` is the one of the line itself. -/
def fileBelow (format : Format) (file line : Text) : Text :=
  if headsList format line then trim line else file

theorem spelled_endings (format : Format) : [] ∉ endings format := by
  cases format <;> decide

theorem fileNamed?_eq (format : Format) (line : Text) :
    LinePass.fileNamed? (endings format) line =
      if headsList format line then some (trim line) else none :=
  rfl

theorem trim_ne_nil_of_headsList {format : Format} {line : Text}
    (heads : headsList format line = true) : trim (trim line) ≠ [] := by
  have named : LinePass.fileNamed? (endings format) line = some (trim line) := by
    rw [fileNamed?_eq, if_pos heads]
  exact LinePass.trim_ne_nil_of_fileNamed? (spelled_endings format) named

theorem trim_fileBelow_ne_nil {format : Format} {file : Text} (named : trim file ≠ [])
    (line : Text) : trim (fileBelow format file line) ≠ [] := by
  unfold fileBelow
  split
  · next heads => exact trim_ne_nil_of_headsList heads
  · exact named

/-! ## Reading an entry -/

section Entry
variable (format : Format) {file line : Text}

theorem exists_ok_readEntry (named : trim file ≠ []) (entry : isEntry line = true) :
    ∃ diagnostic, readEntry format file (trim line) = .ok diagnostic := by
  have accepted := isSome_accepted?_readEntry format named line
  rw [entry] at accepted
  obtain ⟨diagnostic, found⟩ := Option.isSome_iff_exists.1 accepted
  exact ⟨diagnostic, Attempt.accepted?_eq_some_iff.1 found⟩

theorem uri_of_readEntry {format : Format} {diagnostic : Diagnostic}
    (read : readEntry format file line = .ok diagnostic) : diagnostic.record.uri = trim file := by
  have accepted := Attempt.accepted?_eq_some_iff.2 read
  rw [readEntry] at accepted
  cases found : Entry.read? line with
  | none =>
      rw [found] at accepted
      cases accepted
  | some entry =>
      simp only [found, Attempt.accepted?_bind, Option.bind_eq_some_iff,
        Diagnostic.accepted?_ofOneBased] at accepted
      obtain ⟨numbers, -, kept⟩ := accepted
      split at kept
      · cases kept
      · cases kept
        rfl

theorem trim_eq_of_readEntry_eq {other : Text} (named : trim file ≠ [])
    (entry : isEntry line = true)
    (same : readEntry format file (trim line) = readEntry format other (trim line)) :
    trim file = trim other := by
  obtain ⟨diagnostic, read⟩ := exists_ok_readEntry format named entry
  rw [← uri_of_readEntry read, ← uri_of_readEntry (same.symm.trans read)]

end Entry

end Lint

/-! ## Reading a list -/

namespace LinePass

def listWatch (format : Format) (file : Text) : Watch :=
  ⟨lintWatcher format (Lint.endings format), some file⟩

section List
variable {format : Format} {file : Text} (named : trim file ≠ [])
include named

theorem next_listWatch {line : Text} (entry : Lint.isEntry line = true) :
    (listWatch format file).next line = listWatch format (Lint.fileBelow format file line) := by
  obtain ⟨diagnostic, read⟩ := Lint.exists_ok_readEntry format named entry
  have kept : ((Lint.readEntry format file (trim line)).accepted?).isSome = true := by
    rw [read]
    rfl
  have opened := Lint.fileNamed?_eq format line
  simp only [listWatch, Watch.next, lintWatcher, Watcher.react, opened, Option.map_some,
    Option.bind_some, kept, ↓reduceIte, Lint.fileBelow]
  split
  · rfl
  · rfl

theorem attempts_listWatch {entries : List Text}
    (accepted : ∀ entry ∈ entries, Lint.isEntry entry = true) :
    Panel.attempts [listWatch format file] entries =
      List.zipWith (Lint.readEntry format) (entries.scanl (Lint.fileBelow format) file)
        (entries.map trim) := by
  induction entries generalizing file with
  | nil => rfl
  | cons entry entries ih =>
      have first : Lint.isEntry entry = true := accepted entry List.mem_cons_self
      have rest : ∀ other ∈ entries, Lint.isEntry other = true := fun other member =>
        accepted other (List.mem_cons_of_mem entry member)
      have answer : (listWatch format file).answer entry =
          [Lint.readEntry format file (trim entry)] := rfl
      rw [Panel.attempts, List.map_cons, List.map_nil, next_listWatch named first,
        ih (Lint.trim_fileBelow_ne_nil named entry) rest, List.flatMap_cons, List.flatMap_nil,
        answer, List.scanl_cons, List.map_cons, List.zipWith_cons_cons]
      rfl

theorem map_ok_filterMap_accepted? {entries : List Text}
    (accepted : ∀ entry ∈ entries, Lint.isEntry entry = true) :
    ((Panel.attempts [listWatch format file] entries).filterMap Attempt.accepted?).map Except.ok =
      Panel.attempts [listWatch format file] entries := by
  rw [attempts_listWatch named accepted]
  induction entries generalizing file with
  | nil => rfl
  | cons entry entries ih =>
      have first : Lint.isEntry entry = true := accepted entry List.mem_cons_self
      have rest : ∀ other ∈ entries, Lint.isEntry other = true := fun other member =>
        accepted other (List.mem_cons_of_mem entry member)
      obtain ⟨diagnostic, read⟩ := Lint.exists_ok_readEntry format named first
      have below : trim (Lint.fileBelow format file entry) ≠ [] :=
        Lint.trim_fileBelow_ne_nil named entry
      have later := ih below rest
      rw [List.scanl_cons, List.map_cons, List.zipWith_cons_cons, read]
      simpa using later

end List

theorem attempts_lintWatcher_of_headsList {format : Format} {file : Text}
    (heads : Lint.headsList format file = true) (entries : List Text) :
    (Panel.ofWatchers [lintWatcher format (Lint.endings format)]).attempts (file :: entries) =
      Panel.attempts [listWatch format (trim file)] entries := by
  have opened : fileNamed? (Lint.endings format) file = some (trim file) := by
    rw [Lint.fileNamed?_eq, if_pos heads]
  have remembered : (Watch.ofWatcher (lintWatcher format (Lint.endings format))).next file =
      listWatch format (trim file) := by
    simp only [Watch.next, Watch.ofWatcher, Watcher.react, lintWatcher, opened, listWatch]
    rfl
  have silent : (Watch.ofWatcher (lintWatcher format (Lint.endings format))).answer file = [] :=
    rfl
  rw [Panel.ofWatchers, List.map_cons, List.map_nil, Panel.attempts, List.map_cons, List.map_nil,
    remembered, List.flatMap_cons, List.flatMap_nil, silent]
  rfl

theorem lintWatcher_mem_zip (settings : Settings) (folder : Text) {format : Format} {file : Text}
    (heads : Lint.headsList format file = true) :
    (format, lintWatcher format (Lint.endings format)) ∈
      formats.zip (watchers settings folder) := by
  cases format with
  | eslint => simp [formats, watchers, Lint.endings]
  | vue => simp [formats, watchers, Lint.endings]
  | _ => cases heads

/-- All entries of a list are read under its file exactly when no entry but the last ends like the
name of another file. -/
theorem zipWith_readEntry_eq_iff {format : Format} {file : Text} (named : trim file ≠ [])
    (trimmed : trim file = file) {entries : List Text}
    (accepted : ∀ entry ∈ entries, Lint.isEntry entry = true) :
    List.zipWith (Lint.readEntry format) (entries.scanl (Lint.fileBelow format) file)
        (entries.map trim) = entries.map (fun entry => Lint.readEntry format file (trim entry)) ↔
      ∀ entry ∈ entries.dropLast, Lint.headsList format entry = true → trim entry = file := by
  induction entries with
  | nil => simp
  | cons entry entries ih =>
      have rest : ∀ other ∈ entries, Lint.isEntry other = true := fun other member =>
        accepted other (List.mem_cons_of_mem entry member)
      cases entries with
      | nil => simp
      | cons second entries =>
          -- the first entry decides under which file the second one is read
          by_cases same : Lint.fileBelow format file entry = file
          · have harmless : Lint.headsList format entry = true → trim entry = file := by
              intro heads
              rwa [Lint.fileBelow, if_pos heads] at same
            have step := ih rest
            simp only [List.scanl_cons, List.map_cons, List.zipWith_cons_cons, List.cons.injEq,
              true_and, same, List.dropLast_cons_cons, List.mem_cons, forall_eq_or_imp] at step ⊢
            rw [step]
            exact ⟨fun later => ⟨harmless, later⟩, fun all => all.2⟩
          · -- the second entry is listed under the text of the first one
            have heads : Lint.headsList format entry = true := by
              by_contra other
              exact same (by rw [Lint.fileBelow, if_neg other])
            have other : trim entry ≠ file := by
              intro equal
              exact same (by rw [Lint.fileBelow, if_pos heads, equal])
            constructor
            · intro listed
              have secondEntry := rest second List.mem_cons_self
              simp only [List.scanl_cons, List.map_cons, List.zipWith_cons_cons,
                List.cons.injEq] at listed
              have alike := Lint.trim_eq_of_readEntry_eq format
                (Lint.trim_fileBelow_ne_nil named entry) secondEntry listed.2.1
              rw [Lint.fileBelow, if_pos heads, trim_trim, trimmed] at alike
              exact absurd alike other
            · intro all
              exact absurd (all entry (by simp) heads) other

/-- The records of a lint list.  Every entry of the list is read, each under the nearest line above
it that ends like a file name.  All of them are listed under the file of the list exactly when no
entry but the last ends like the name of another file. -/
theorem records_of_lint_list {format : Format} {file : Text} {entries : List Text}
    (settings : Settings) (folder : Text) (heads : Lint.headsList format file = true)
    (accepted : ∀ entry ∈ entries, Lint.isEntry entry = true) :
    let records := ((attempts settings folder (file :: entries)).filterMap
      Attempt.accepted?).filter fun diagnostic => diagnostic.format = format
    records.map Except.ok =
        List.zipWith (Lint.readEntry format) (entries.scanl (Lint.fileBelow format) (trim file))
          (entries.map trim) ∧
      (records.map Except.ok =
          entries.map (fun entry => Lint.readEntry format (trim file) (trim entry)) ↔
        ∀ entry ∈ entries.dropLast,
          Lint.headsList format entry = true → trim entry = trim file) := by
  have distinct : formats.Nodup := by decide
  have named := Lint.trim_ne_nil_of_headsList heads
  have own := Panel.filter_attempts_ofWatchers (tagged_watchers settings folder) distinct
    (lintWatcher_mem_zip settings folder heads) (file :: entries)
  intro records
  have found : records = (Panel.attempts [listWatch format (trim file)] entries).filterMap
      Attempt.accepted? := by
    rw [← attempts_lintWatcher_of_headsList heads, ← own]
    exact filter_format_accepted format _
  rw [found, map_ok_filterMap_accepted? named accepted, attempts_listWatch named accepted]
  exact ⟨rfl, zipWith_readEntry_eq_iff named (trim_trim file) accepted⟩

/-- Three entries of a component; the second one quotes another file. -/
theorem records_of_lint_list_component :
    let file := "src/components/List.vue".toList
    let entries := ["  7:5  error  Missing key".toList,
      "  9:1  warning  Prefer Item.vue".toList, "12:40 error  Unexpected side effect".toList]
    let records := ((attempts {} [] (file :: entries)).filterMap
      Attempt.accepted?).filter fun diagnostic => diagnostic.format = .vue
    Lint.headsList .vue file = true ∧ (∀ entry ∈ entries, Lint.isEntry entry = true) ∧
      records.map Except.ok =
          List.zipWith (Lint.readEntry .vue) (entries.scanl (Lint.fileBelow .vue) (trim file))
            (entries.map trim) ∧
      (records.map Except.ok =
          entries.map (fun entry => Lint.readEntry .vue (trim file) (trim entry)) ↔
        ∀ entry ∈ entries.dropLast, Lint.headsList .vue entry = true → trim entry = trim file) :=
  ⟨by decide, by decide, records_of_lint_list {} [] (by decide) (by decide)⟩

/-- The first entry ends like a file name, so the second one is listed under its text. -/
theorem second_entry_under_first :
    let file := "src/a.ts".toList
    let entries := ["1:1  error  Cannot find ./b.ts".toList, "2:2  error  Unexpected any".toList]
    Lint.headsList .eslint file = true ∧ (∀ entry ∈ entries, Lint.isEntry entry = true) ∧
      ((attempts {} [] (file :: entries)).filterMap
        Attempt.accepted?).filter (fun diagnostic => diagnostic.format = .eslint) =
        [⟨.eslint, file, 0, 0, "Cannot find ./b.ts".toList⟩,
          ⟨.eslint, "1:1  error  Cannot find ./b.ts".toList, 1, 1, "Unexpected any".toList⟩] ∧
      Lint.readEntry .eslint (trim file) "2:2  error  Unexpected any".toList =
        .ok ⟨.eslint, file, 1, 1, "Unexpected any".toList⟩ := by
  decide

end LinePass

end BuildLog

import BuildLog.Files.System
import BuildLog.Files.Tree
import Mathlib.Data.List.Forall2

/-!
# Resolved paths

Resolving changes a path exactly when it is relative, leads nowhere itself and leads somewhere from
the folder; what it is changed to leads somewhere, so resolving once more changes nothing.  In a
tree of files a joined path leads where its right side leads from the place that its left side leads
to, whatever slashes and upward steps there are in both.
-/

set_option autoImplicit false

namespace BuildLog

open Text

/-! ## Joined paths in a tree -/

namespace Path

theorem byteLength_append (front back : Text) :
    byteLength (front ++ back) = byteLength front + byteLength back := by
  have shifted : ∀ (t : Text) (n : Nat),
      t.foldl (fun length c => length + c.utf8Size) n = n + byteLength t := by
    intro t
    induction t with
    | nil => exact fun _ => rfl
    | cons c t ih =>
        intro n
        rw [byteLength, List.foldl_cons, List.foldl_cons, ih, ih]
        omega
  rw [byteLength, List.foldl_append, shifted]
  rfl

variable {folder path : Text}

theorem isAbsolute_append (some : folder ≠ []) (rest : Text) :
    isAbsolute (folder ++ rest) = isAbsolute folder := by
  obtain ⟨c, folder, rfl⟩ := List.exists_cons_of_ne_nil some
  rw [List.cons_append, isAbsolute, isAbsolute, startsWith, startsWith, after?_cons_cons,
    after?_cons_cons]
  split <;> rfl

/-- A relative path stands behind the folder and one slash, which is the folder's own last one or a
new one. -/
theorem exists_join (relative : isAbsolute path = false) (some : folder ≠ []) :
    ∃ front, join folder path = front ++ '/' :: path ∧
      (folder = front ∨ folder = front ++ ['/']) := by
  rw [join, if_neg (by simp [relative])]
  split
  · next closed =>
      have slash : endsWith ['/'] folder = true := by simpa [some] using closed
      obtain ⟨front, split⟩ := List.isSuffixOf_iff_suffix.1 slash
      exact ⟨front, by simp [← split], .inr split.symm⟩
  · exact ⟨folder, rfl, .inl rfl⟩

theorem prefix_join (relative : isAbsolute path = false) (some : folder ≠ []) :
    folder <+: join folder path := by
  obtain ⟨front, joined, rfl | rfl⟩ := exists_join relative some
  · exact ⟨'/' :: path, joined.symm⟩
  · exact ⟨path, by simp [joined]⟩

end Path

namespace FileTree

open BuildLog.Path

variable {tree : FileTree} {place : Place} {folder path : Text}

def walk (tree : FileTree) (place : Place) (path : Text) : Except ReadError Place :=
  (components path).foldlM tree.step place

theorem follow_eq_walk (noNul : '\x00' ∉ path) (some : path ≠ [])
    (short : byteLength path < pathLimit) :
    tree.follow path = tree.walk (if isAbsolute path then .outside else .inside []) path := by
  rw [follow, if_neg noNul, if_neg some, if_neg (Nat.not_le.2 short)]
  rfl

theorem plain_of_follow (leads : tree.follow path = .ok place) :
    '\x00' ∉ path ∧ byteLength path < pathLimit := by
  rw [follow] at leads
  split at leads
  · cases leads
  split at leads
  · cases leads
  split at leads
  · cases leads
  next noNul _ short => exact ⟨noNul, Nat.not_le.1 short⟩

theorem walk_append_slash (front back : Text) :
    tree.walk place (front ++ '/' :: back) =
      (tree.walk place front).bind fun place => tree.walk place back := by
  rw [walk, components, List.splitOn_append_cons_self, List.foldlM_append]
  rfl

/-- A slash only asks for a directory, and a component that comes next asks for one as well. -/
theorem walk_nil_bind :
    ((tree.walk place []).bind fun place => tree.walk place path) = tree.walk place path := by
  have slash : ∀ name, ((tree.step place []).bind fun place => tree.step place name) =
      tree.step place name := by
    intro name
    cases found : tree.entry? place with
    | none => simp [step, found, Except.bind]
    | some entry => cases entry <;> simp [step, found, Except.bind]
  obtain ⟨name, names, split⟩ := List.exists_cons_of_ne_nil (List.splitOn_ne_nil '/' path)
  have single : tree.walk place [] = tree.step place [] := by
    simp [walk, components, bind_pure]
  have onward : ∀ place, tree.walk place path =
      (tree.step place name).bind fun place => names.foldlM tree.step place := by
    intro place
    rw [walk, components, split]
    rfl
  rw [single]
  simp only [onward, ← slash name]
  cases tree.step place [] <;> rfl

/-- A joined path leads where its right side leads from the place that its left side leads to. -/
theorem follow_join (relative : isAbsolute path = false) (some : folder ≠ [])
    (noNul : '\x00' ∉ path) (short : byteLength (join folder path) < pathLimit) :
    tree.follow (join folder path) =
      (tree.follow folder).bind fun place => tree.walk place path := by
  obtain ⟨rest, longer⟩ := prefix_join relative some
  -- the joined path starts with the folder, so it is refused for what the folder holds
  by_cases nul : '\x00' ∈ folder
  · have nulJoined : '\x00' ∈ join folder path := longer ▸ List.mem_append_left rest nul
    rw [follow, if_pos nulJoined, follow, if_pos nul]
    rfl
  obtain ⟨front, joined, shape⟩ := exists_join relative some
  have noNulJoined : '\x00' ∉ join folder path := by
    have noNulFront : '\x00' ∉ front := by
      rcases shape with rfl | rfl
      · exact nul
      · exact fun member => nul (List.mem_append_left _ member)
    simp [joined, noNulFront, noNul]
  have shortFolder : byteLength folder < pathLimit := by
    rw [← longer, byteLength_append] at short
    omega
  have nonempty : join folder path ≠ [] := by simp [joined]
  have sameStart : isAbsolute (join folder path) = isAbsolute folder := by
    rw [← longer, isAbsolute_append some]
  rw [follow_eq_walk noNulJoined nonempty short, follow_eq_walk nul some shortFolder, sameStart,
    joined, walk_append_slash]
  rcases shape with rfl | rfl
  · rfl
  · rw [walk_append_slash]
    cases tree.walk _ front with
    | error reason => rfl
    | ok place => exact walk_nil_bind.symm

end FileTree

/-! ## Resolving -/

namespace Resolution

variable (files : FileSystem Id) (folder : Text)

/-- A relative path that leads nowhere itself and somewhere from the folder. -/
structure FoundInFolder (uri : Text) : Prop where
  relative : Path.isAbsolute uri = false
  missing : (files.leadsSomewhere uri).run = false
  present : (files.leadsSomewhere (Path.join folder uri)).run = true

instance (uri : Text) : Decidable (FoundInFolder files folder uri) :=
  decidable_of_iff
    (Path.isAbsolute uri = false ∧ (files.leadsSomewhere uri).run = false ∧
      (files.leadsSomewhere (Path.join folder uri)).run = true)
    ⟨fun ⟨relative, missing, present⟩ => ⟨relative, missing, present⟩,
      fun found => ⟨found.relative, found.missing, found.present⟩⟩

variable {files folder}

theorem FoundInFolder.join_ne {uri : Text} (found : FoundInFolder files folder uri) :
    Path.join folder uri ≠ uri := by
  intro same
  have present := found.present
  rw [same, found.missing] at present
  cases present

theorem FoundInFolder.not_join {uri : Text} (found : FoundInFolder files folder uri) :
    ¬ FoundInFolder files folder (Path.join folder uri) := by
  intro again
  have missing := again.missing
  rw [found.present] at missing
  cases missing

theorem run_resolveUri (uri : Text) :
    (resolveUri files folder uri).run =
      if FoundInFolder files folder uri then Path.join folder uri else uri := by
  have asked : (resolveUri files folder uri).run =
      if Path.isAbsolute uri then uri
      else if (files.leadsSomewhere uri).run then uri
      else if (files.leadsSomewhere (Path.join folder uri)).run then Path.join folder uri
      else uri := by
    simp only [resolveUri, apply_ite Id.run, Id.run_pure, Id.run_bind]
  rw [asked]
  by_cases found : FoundInFolder files folder uri
  · rw [if_pos found, found.relative, found.missing, found.present]
    rfl
  · rw [if_neg found]
    split
    · rfl
    split
    · rfl
    split
    · next relative missing present =>
        exact absurd ⟨by simpa using relative, by simpa using missing, present⟩ found
    · rfl

/-- In a tree, what is found in the folder is what the path leads to from there. -/
theorem FoundInFolder.exists_destination {tree : FileTree} {uri : Text}
    (found : FoundInFolder tree.system folder uri) :
    ∃ place destination, tree.follow folder = .ok place ∧ tree.walk place uri = .ok destination ∧
      tree.follow (Path.join folder uri) = .ok destination := by
  have some : folder ≠ [] := by
    rintro rfl
    exact found.join_ne (by simp [Path.join, found.relative])
  obtain ⟨destination, leads⟩ :
      ∃ destination, tree.follow (Path.join folder uri) = .ok destination := by
    have present : (tree.follow (Path.join folder uri)).isOk = true := found.present
    cases follows : tree.follow (Path.join folder uri) with
    | error reason => simp [follows, Except.isOk, Except.toBool] at present
    | ok destination => exact ⟨destination, rfl⟩
  obtain ⟨front, joined, -⟩ := Path.exists_join found.relative some
  have plain := FileTree.plain_of_follow leads
  have noNul : '\x00' ∉ uri := fun member => plain.1 (by simp [joined, member])
  have walked := leads
  rw [FileTree.follow_join found.relative some noNul plain.2] at walked
  cases start : tree.follow folder with
  | error reason =>
      rw [start] at walked
      cases walked
  | ok place =>
      rw [start] at walked
      exact ⟨place, destination, rfl, walked, leads⟩

/-- What becomes of one record: the path is another one exactly when it is found in the folder, and
then it is joined to it. -/
structure Resolved (files : FileSystem Id) (folder : Text) (before after : Record) : Prop where
  line : after.line = before.line
  position : after.position = before.position
  error : after.error = before.error
  uri : after.uri = before.uri ∨ after.uri = Path.join folder before.uri
  joined_iff : after.uri ≠ before.uri ↔ FoundInFolder files folder before.uri

/-- Where a path of a tree leads once it is resolved: it stays as it is, or leads where it led from
the folder. -/
def LeadsFromFolder (tree : FileTree) (folder : Text) (before after : Record) : Prop :=
  after.uri = before.uri ∨ ∃ place destination, tree.follow folder = .ok place ∧
    tree.walk place before.uri = .ok destination ∧ tree.follow after.uri = .ok destination

theorem run_resolveRecord (record : Record) :
    (resolveRecord files folder record).run =
      { record with uri := (resolveUri files folder record.uri).run } :=
  rfl

theorem resolved_resolveRecord (record : Record) :
    Resolved files folder record (resolveRecord files folder record).run := by
  rw [run_resolveRecord, run_resolveUri]
  by_cases found : FoundInFolder files folder record.uri
  · rw [if_pos found]
    exact ⟨rfl, rfl, rfl, .inr rfl, iff_of_true found.join_ne found⟩
  · rw [if_neg found]
    exact ⟨rfl, rfl, rfl, .inl rfl, iff_of_false (fun changed => changed rfl) found⟩

theorem leadsFromFolder_resolveRecord (tree : FileTree) (record : Record) :
    LeadsFromFolder tree folder record (resolveRecord tree.system folder record).run := by
  rw [run_resolveRecord, run_resolveUri]
  by_cases found : FoundInFolder tree.system folder record.uri
  · rw [if_pos found]
    exact .inr found.exists_destination
  · rw [if_neg found]
    exact .inl rfl

theorem resolveUri_idempotent (uri : Text) :
    (resolveUri files folder (resolveUri files folder uri).run).run =
      (resolveUri files folder uri).run := by
  rw [run_resolveUri uri]
  by_cases found : FoundInFolder files folder uri
  · rw [if_pos found, run_resolveUri, if_neg found.not_join]
  · rw [if_neg found, run_resolveUri, if_neg found]

theorem run_resolveRecords (records : List Record) :
    (resolveRecords files folder records).run =
      records.map fun record => (resolveRecord files folder record).run :=
  List.idRun_mapM

theorem forall₂_resolveRecords {relates : Record → Record → Prop}
    (each : ∀ record, relates record (resolveRecord files folder record).run)
    (records : List Record) :
    List.Forall₂ relates records (resolveRecords files folder records).run := by
  rw [run_resolveRecords, List.forall₂_map_right_iff, List.forall₂_same]
  exact fun record _ => each record

/-- Resolving keeps every record at its place and touches nothing but its path, and once it is done
nothing is left to resolve.  In a tree of files a path that is touched leads where it led from the
folder. -/
theorem resolves_and_rests (files : FileSystem Id) (folder : Text) (records : List Record) :
    let resolved := (resolveRecords files folder records).run
    List.Forall₂ (Resolved files folder) records resolved ∧
      (resolveRecords files folder resolved).run = resolved ∧
      ∀ tree : FileTree, List.Forall₂ (LeadsFromFolder tree folder) records
        (resolveRecords tree.system folder records).run := by
  intro resolved
  refine ⟨forall₂_resolveRecords resolved_resolveRecord records, ?_, fun tree =>
    forall₂_resolveRecords (leadsFromFolder_resolveRecord tree) records⟩
  have mapped : resolved = records.map fun record => (resolveRecord files folder record).run :=
    run_resolveRecords records
  rw [run_resolveRecords, mapped, List.map_map]
  apply List.map_congr_left
  intro record _
  simp only [Function.comp_apply, run_resolveRecord, resolveUri_idempotent]

example :
    let tree := FileTree.ofFiles [("app/src/".toList, .empty), ("lib/b.ts".toList, .empty)]
    let record : Record := ⟨"../lib/b.ts".toList, 3, 0, "Unexpected any".toList⟩
    (resolveRecords tree.system "app/".toList [record]).run =
      [{ record with uri := "app/../lib/b.ts".toList }] := by
  decide

end Resolution

end BuildLog

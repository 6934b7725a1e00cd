import BuildLog.Proofs.Json.Spellings
import BuildLog.Proofs.Report.Summaries
import BuildLog.Report

/-!
# Documents read back

A summary and a list of records are read back from the documents they are written as.  Their texts
may hold any characters and their numbers are below the limit; the counts of a summary stand in the
order of the formats, in which the reader arranges them too.
-/

set_option autoImplicit false

namespace BuildLog

open Json

/-! ## Records -/

structure Record.Bounded (record : Record) : Prop where
  line : record.line < Numeral.limit
  position : record.position < Numeral.limit

namespace Json

theorem natural?_natural {n : Nat} (small : n < Numeral.limit) : (natural n).natural? = some n :=
  if_pos small

theorem mapM_map {α β : Type} {write : α → β} {read : β → Option α} {values : List α}
    (back : ∀ value ∈ values, read (write value) = some value) :
    (values.map write).mapM read = some values := by
  induction values with
  | nil => rfl
  | cons value values ih =>
      have others := ih fun other member => back other (List.mem_cons_of_mem value member)
      rw [List.map_cons, List.mapM_cons, back value List.mem_cons_self, others]
      rfl

theorem listOf?_array {α : Type} {write : α → Json} {read : Json → Option α} {values : List α}
    (back : ∀ value ∈ values, read (write value) = some value) :
    (array (values.map write)).listOf? read = some values :=
  mapM_map back

end Json

namespace Record

theorem natural_toJson (record : Record) : Natural record.toJson := by
  refine .object ?_
  simp only [members, List.forall_mem_cons, List.not_mem_nil, false_implies, implies_true, and_true]
  exact ⟨.string _, .natural _, .natural _, .string _⟩

theorem ofJson?_toJson {record : Record} (bounded : record.Bounded) :
    ofJson? record.toJson = some record := by
  have uri : record.toJson.required? "uri".toList text? = some record.uri := rfl
  have line : record.toJson.required? "line".toList natural? = some record.line :=
    natural?_natural bounded.line
  have position : record.toJson.required? "position".toList natural? = some record.position :=
    natural?_natural bounded.position
  have error : record.toJson.required? "error".toList text? = some record.error := rfl
  show ofMembers? record.toJson = some record
  rw [ofMembers?, uri, line, position, error]
  rfl

end Record

namespace Report

variable {records : List Record}

theorem recordsOfJson?_renderJson (bounded : ∀ record ∈ records, record.Bounded) {behind : Text}
    (blank : Gap behind) :
    recordsOfJson? (renderJson records ++ behind) = some records := by
  have natural : Natural (array (records.map Record.toJson)) :=
    .array (List.forall_mem_map.2 fun record _ => record.natural_toJson)
  rw [recordsOfJson?, renderJson, natural.ofText?_pretty 0 blank]
  exact listOf?_array fun record member => Record.ofJson?_toJson (bounded record member)

end Report

namespace Summary

/-- What any summary of an extraction is like: the formats are in their order and the numbers are
below the limit. -/
structure Storable (summary : Summary) : Prop where
  total : summary.total < Numeral.limit
  inOrder : summary.byFormat.Pairwise fun first second => first.1.rank < second.1.rank
  counts : ∀ entry ∈ summary.byFormat, entry.2 < Numeral.limit
  first : ∀ record, summary.first = some record → record.Bounded

theorem natural_toJson (summary : Summary) : Natural summary.toJson := by
  have phase : Natural (Phase.toJson summary.phase) := by
    cases summary.phase with
    | none => exact .null
    | some phase => exact .string _
  have counts : Natural
      (object (summary.byFormat.map fun entry => (entry.1.name, natural entry.2))) :=
    .object (List.forall_mem_map.2 fun entry _ => .natural entry.2)
  have files : Natural (array (summary.files.map string)) :=
    .array (List.forall_mem_map.2 fun file _ => .string file)
  have first : Natural ((summary.first.map Record.toJson).getD null) := by
    cases summary.first with
    | none => exact .null
    | some record => exact record.natural_toJson
  refine .object ?_
  simp only [List.forall_mem_cons, List.not_mem_nil, false_implies, implies_true, and_true]
  exact ⟨.natural _, phase, counts, files, first⟩

section Counts
variable {entries : List (Format × Nat)}

theorem filterMap_find?
    (inOrder : entries.Pairwise fun first second => first.1.rank < second.1.rank) :
    (Format.all.filterMap fun format => entries.reverse.find? fun entry => entry.1 = format) =
      entries := by
  have distinct : (entries.map Prod.fst).Nodup := by
    refine List.pairwise_map.2 (inOrder.imp ?_)
    intro first second less same
    exact Nat.lt_irrefl _ (same ▸ less)
  have found : ∀ {format : Format} {entry : Format × Nat},
      (entries.reverse.find? fun entry => entry.1 = format) = some entry →
        entry.1 = format ∧ entry ∈ entries := by
    intro format entry isFound
    have named := List.find?_some isFound
    exact ⟨of_decide_eq_true named, List.mem_reverse.1 (List.mem_of_find?_eq_some isFound)⟩
  -- both lists stand in the order of the formats, so the same members are enough
  refine eq_of_pairwise_of_mem_iff (fun _ _ => Nat.lt_asymm) ?_ inOrder ?_
  · refine List.pairwise_filterMap.2 (Format.pairwise_rank_all.imp ?_)
    intro a b less first foundFirst second foundSecond
    rwa [(found foundFirst).1, (found foundSecond).1]
  · intro entry
    rw [List.mem_filterMap]
    constructor
    · rintro ⟨format, -, isFound⟩
      exact (found isFound).2
    · intro member
      have some : (entries.reverse.find? fun other => other.1 = entry.1).isSome = true :=
        List.find?_isSome.2 ⟨entry, List.mem_reverse.2 member, decide_eq_true rfl⟩
      obtain ⟨other, isFound⟩ := Option.isSome_iff_exists.1 some
      have same : other = entry :=
        List.inj_on_of_nodup_map distinct (found isFound).2 member (found isFound).1
      exact ⟨entry.1, Format.mem_all entry.1, same ▸ isFound⟩

theorem countsOfJson?_object
    (inOrder : entries.Pairwise fun first second => first.1.rank < second.1.rank)
    (counts : ∀ entry ∈ entries, entry.2 < Numeral.limit) :
    countsOfJson? (object (entries.map fun entry => (entry.1.name, natural entry.2))) =
      some entries := by
  have back : ∀ entry ∈ entries,
      (do return (← Format.ofName? entry.1.name, ← (natural entry.2).natural?)) = some entry := by
    intro entry member
    rw [Format.ofName?_name, natural?_natural (counts entry member)]
    rfl
  rw [countsOfJson?, mapM_map back]
  exact congrArg some (filterMap_find? inOrder)

end Counts

theorem ofJson?_toJson {summary : Summary} (storable : summary.Storable) :
    ofJson? summary.toJson = some summary := by
  have total : summary.toJson.required? "total".toList natural? = some summary.total :=
    natural?_natural storable.total
  have phase : summary.toJson.optionalMember? "phase".toList Phase.ofJson? =
      some summary.phase := by
    show optional? Phase.ofJson? (Phase.toJson summary.phase) = some summary.phase
    cases summary.phase with
    | none => rfl
    | some phase => exact congrArg (Option.map some) (Phase.ofName?_name phase)
  have byFormat : summary.toJson.required? "by_format".toList countsOfJson? =
      some summary.byFormat :=
    countsOfJson?_object storable.inOrder storable.counts
  have files : summary.toJson.required? "files".toList (listOf? text?) = some summary.files :=
    listOf?_array fun _ _ => rfl
  have first : summary.toJson.optionalMember? "first".toList Record.ofJson? =
      some summary.first := by
    show optional? Record.ofJson? ((summary.first.map Record.toJson).getD null) = some summary.first
    cases present : summary.first with
    | none => rfl
    | some record =>
        exact congrArg (Option.map some) (Record.ofJson?_toJson (storable.first record present))
  rw [ofJson?, total, phase, byFormat, files, first]
  rfl

theorem ofText?_render {summary : Summary} (storable : summary.Storable) :
    ofText? summary.render = some summary := by
  rw [ofText?, render, summary.natural_toJson.ofText?_compact]
  exact ofJson?_toJson storable

theorem storable_ofExtraction {extraction : Extraction}
    (few : extraction.diagnostics.length < Numeral.limit)
    (bounded : ∀ record ∈ extraction.records, record.Bounded) :
    (ofExtraction extraction).Storable where
  total := few
  inOrder := (agrees_ofExtraction extraction).inOrder
  counts := by
    rintro ⟨format, n⟩ member
    obtain ⟨-, rfl⟩ := (mem_byFormat_iff extraction format n).1 member
    refine Nat.lt_of_le_of_lt List.count_le_length ?_
    rwa [List.length_map]
  first := fun record present => bounded record (List.mem_of_head? present)

end Summary

namespace Report

/-- Nothing is lost in a document: the summary of every extraction and every list of records are
read back from what is written for them. -/
theorem documents_read_back :
    (∀ extraction : Extraction, extraction.diagnostics.length < Numeral.limit →
      (∀ record ∈ extraction.records, record.Bounded) →
        Summary.ofText? (Summary.ofExtraction extraction).render =
          some (Summary.ofExtraction extraction)) ∧
      ∀ records : List Record, (∀ record ∈ records, record.Bounded) →
        recordsOfJson? (renderJson records) = some records := by
  constructor
  · intro extraction few bounded
    exact Summary.ofText?_render (Summary.storable_ofExtraction few bounded)
  · intro records bounded
    have found := recordsOfJson?_renderJson bounded gap_nil
    rwa [List.append_nil] at found

/-- Quotes, backslashes, control characters, a character beyond the first plane and the largest
number, in an extraction without a phase. -/
theorem documents_read_back_escaped :
    let message := "\x1b[0m\t\"π\" \\u0041 😀\x00\x7f".toList
    let record : Record := ⟨"C:\\a \"b\".ts".toList, 18446744073709551615, 0, message⟩
    let extraction : Extraction := ⟨none, [⟨.xcode, record⟩, ⟨.jest, record⟩]⟩
    writeString message = "\"\\u001b[0m\\t\\\"π\\\" \\\\u0041 😀\\u0000\x7f\"".toList ∧
      (∀ record ∈ extraction.records, record.Bounded) ∧
      Summary.ofText? (Summary.ofExtraction extraction).render =
        some (Summary.ofExtraction extraction) ∧
      recordsOfJson? (renderJson extraction.records) = some extraction.records := by
  intro message record extraction
  have bounded : ∀ record ∈ extraction.records, record.Bounded := by
    intro one member
    simp only [Extraction.records, extraction, List.map_cons, List.map_nil, List.mem_cons,
      List.not_mem_nil, or_false, or_self] at member
    exact member ▸ ⟨by decide, by decide⟩
  exact ⟨by decide, bounded, documents_read_back.1 extraction (by decide) bounded,
    documents_read_back.2 extraction.records bounded⟩

end Report

end BuildLog

import BuildLog.Proofs.Recognizer.PrintedMessages
import BuildLog.Proofs.Recognizer.PrintedPlaces
import BuildLog.Summary
import Mathlib.Algebra.BigOperators.Group.List.Basic
import Mathlib.Algebra.GroupWithZero.Nat
import Mathlib.Data.List.Sort

/-!
# What a summary says

A summary counts diagnostics by format and lists each file once.  Its parts agree with each other
and with the extraction, whatever formats and files come by in whatever order, and nothing else
agrees with the extraction in this way.  In print the formats stand with the most frequent first;
equally frequent ones stand in the order of the formats.
-/

set_option autoImplicit false

namespace BuildLog

open Text

/-! ## Orders -/

theorem Format.rank_inj {first second : Format} : first.rank = second.rank ↔ first = second :=
  List.idxOf_inj (mem_all first)

section Ordered
variable {α : Type} {before : α → α → Prop} (asymmetric : ∀ a b, before a b → ¬ before b a)
include asymmetric

theorem nodup_of_pairwise {values : List α} (ordered : values.Pairwise before) : values.Nodup := by
  refine ordered.imp ?_
  rintro a b less rfl
  exact asymmetric a a less less

theorem eq_of_pairwise_of_mem_iff {first second : List α} (firstOrdered : first.Pairwise before)
    (secondOrdered : second.Pairwise before) (same : ∀ value, value ∈ first ↔ value ∈ second) :
    first = second := by
  have permuted : first.Perm second :=
    (List.perm_ext_iff_of_nodup (nodup_of_pairwise asymmetric firstOrdered)
      (nodup_of_pairwise asymmetric secondOrdered)).2 same
  refine permuted.eq_of_pairwise ?_ firstOrdered secondOrdered
  intro a b _ _ less greater
  exact absurd greater (asymmetric a b less)

end Ordered

/-! ## The walk over the diagnostics -/

namespace Tally

def times (entries : List (Format × Nat)) (format : Format) : Nat :=
  ((entries.filter fun entry => entry.1 = format).map Prod.snd).sum

theorem times_cons (entry : Format × Nat) (entries : List (Format × Nat)) (format : Format) :
    times (entry :: entries) format =
      (if entry.1 = format then entry.2 else 0) + times entries format := by
  by_cases same : entry.1 = format <;> simp [times, same]

theorem times_eq_zero {entries : List (Format × Nat)} {format : Format}
    (absent : ∀ entry ∈ entries, entry.1 ≠ format) : times entries format = 0 := by
  have none : (entries.filter fun entry => entry.1 = format) = [] := by simpa using absent
  rw [times, none, List.map_nil, List.sum_nil]

/-- Entries that stand in the order of the formats have each format at most once. -/
def InOrder (entries : List (Format × Nat)) : Prop :=
  entries.Pairwise fun first second => first.1.rank < second.1.rank

section InOrder
variable {entries : List (Format × Nat)} {format : Format} {n : Nat}

theorem InOrder.times_of_mem (inOrder : InOrder entries) (member : (format, n) ∈ entries) :
    times entries format = n := by
  induction entries with
  | nil => cases member
  | cons entry entries ih =>
      obtain ⟨before, inOrder⟩ := List.pairwise_cons.1 inOrder
      rw [times_cons]
      rcases List.mem_cons.1 member with rfl | member
      · have absent : ∀ later ∈ entries, later.1 ≠ format := fun later member same =>
          (before later member).ne' (Format.rank_inj.2 same)
        rw [if_pos rfl, times_eq_zero absent, Nat.add_zero]
      · have other : entry.1 ≠ format := fun same =>
          (before _ member).ne (Format.rank_inj.2 same)
        rw [if_neg other, ih inOrder member, Nat.zero_add]

theorem InOrder.mem_iff (inOrder : InOrder entries) (positive : ∀ entry ∈ entries, 0 < entry.2) :
    (format, n) ∈ entries ↔ 0 < n ∧ times entries format = n := by
  constructor
  · exact fun member => ⟨positive _ member, inOrder.times_of_mem member⟩
  · rintro ⟨counted, rfl⟩
    have present : ∃ m, (format, m) ∈ entries := by
      by_contra absent
      refine counted.ne' (times_eq_zero ?_)
      rintro ⟨_, m⟩ member rfl
      exact absent ⟨m, member⟩
    obtain ⟨m, member⟩ := present
    rwa [inOrder.times_of_mem member]

theorem mem_bump {entry : Format × Nat} (member : entry ∈ bump format entries) :
    entry.1 = format ∧ 0 < entry.2 ∨ entry ∈ entries := by
  induction entries with
  | nil => exact .inl (by simp_all [bump])
  | cons head entries ih =>
      rw [bump] at member
      split at member
      · next same =>
          rcases List.mem_cons.1 member with rfl | member
          · exact .inl ⟨same.symm, Nat.succ_pos _⟩
          · exact .inr (List.mem_cons_of_mem _ member)
      split at member
      · rcases List.mem_cons.1 member with rfl | member
        · exact .inl ⟨rfl, Nat.one_pos⟩
        · exact .inr member
      · rcases List.mem_cons.1 member with rfl | member
        · exact .inr List.mem_cons_self
        · exact (ih member).imp_right (List.mem_cons_of_mem _)

theorem times_bump (entries : List (Format × Nat)) (format other : Format) :
    times (bump format entries) other =
      times entries other + if format = other then 1 else 0 := by
  induction entries with
  | nil => rw [bump, times_cons, Nat.add_comm]
  | cons entry entries ih =>
      rw [bump]
      split
      · next same =>
          subst same
          simp only [times_cons]
          split <;> omega
      split
      · rw [times_cons, Nat.add_comm]
      · rw [times_cons, times_cons, ih, Nat.add_assoc]

theorem sum_bump (entries : List (Format × Nat)) (format : Format) :
    ((bump format entries).map Prod.snd).sum = (entries.map Prod.snd).sum + 1 := by
  induction entries with
  | nil => rfl
  | cons entry entries ih =>
      rw [bump]
      split
      · simp only [List.map_cons, List.sum_cons]
        omega
      split
      · simp only [List.map_cons, List.sum_cons]
        omega
      · rw [List.map_cons, List.sum_cons, ih, List.map_cons, List.sum_cons, Nat.add_assoc]

theorem InOrder.bump (inOrder : InOrder entries) : InOrder (bump format entries) := by
  induction entries with
  | nil => exact List.pairwise_singleton _ _
  | cons entry entries ih =>
      obtain ⟨before, later⟩ := List.pairwise_cons.1 inOrder
      rw [Tally.bump]
      split
      · exact List.pairwise_cons.2 ⟨before, later⟩
      split
      · next less =>
          refine List.pairwise_cons.2 ⟨?_, inOrder⟩
          intro second member
          rcases List.mem_cons.1 member with rfl | member
          · exact less
          · exact Nat.lt_trans less (before second member)
      · next other notLess =>
          have greater : entry.1.rank < format.rank :=
            Nat.lt_of_le_of_ne (Nat.le_of_not_lt notLess)
              fun same => other (Format.rank_inj.1 same.symm)
          refine List.pairwise_cons.2 ⟨?_, ih later⟩
          intro second member
          rcases mem_bump member with ⟨same, -⟩ | member
          · rwa [same]
          · exact before second member

end InOrder

/-- What holds of a tally when these diagnostics have been walked over. -/
structure Holds (tally : Tally) (diagnostics : List Diagnostic) : Prop where
  times : ∀ format,
    times tally.byFormat format = (diagnostics.map Diagnostic.format).count format
  positive : ∀ entry ∈ tally.byFormat, 0 < entry.2
  inOrder : InOrder tally.byFormat
  sum : (tally.byFormat.map Prod.snd).sum = diagnostics.length
  seen : ∀ uri, uri ∈ tally.seen ↔ uri ∈ diagnostics.map fun diagnostic => diagnostic.record.uri
  listed : ∀ uri, uri ∈ tally.files ↔ uri ∈ diagnostics.map fun diagnostic => diagnostic.record.uri
  encountered : tally.files.Pairwise fun first second =>
    (diagnostics.map fun diagnostic => diagnostic.record.uri).idxOf first <
      (diagnostics.map fun diagnostic => diagnostic.record.uri).idxOf second

theorem holds_nil : Holds {} [] where
  times _ := rfl
  positive _ member := nomatch member
  inOrder := List.Pairwise.nil
  sum := rfl
  seen _ := Iff.rfl
  listed _ := Iff.rfl
  encountered := List.Pairwise.nil

section Encountered
variable {α : Type} [BEq α] [LawfulBEq α] {values listed : List α} (value : α)

theorem pairwise_idxOf_append (same : ∀ known, known ∈ listed ↔ known ∈ values)
    (ordered : listed.Pairwise fun first second => values.idxOf first < values.idxOf second) :
    listed.Pairwise fun first second =>
      (values ++ [value]).idxOf first < (values ++ [value]).idxOf second := by
  refine ordered.imp_of_mem ?_
  intro first second firstListed secondListed before
  rwa [List.idxOf_append_of_mem ((same first).1 firstListed),
    List.idxOf_append_of_mem ((same second).1 secondListed)]

theorem pairwise_idxOf_concat (same : ∀ known, known ∈ listed ↔ known ∈ values)
    (ordered : listed.Pairwise fun first second => values.idxOf first < values.idxOf second)
    (new : value ∉ values) :
    (listed ++ [value]).Pairwise fun first second =>
      (values ++ [value]).idxOf first < (values ++ [value]).idxOf second := by
  refine List.pairwise_append.2 ⟨pairwise_idxOf_append value same ordered,
    List.pairwise_singleton _ _, ?_⟩
  intro known member last isLast
  have present := (same known).1 member
  rw [List.mem_singleton.1 isLast, List.idxOf_append_of_mem present,
    List.idxOf_append_of_notMem new]
  exact Nat.lt_of_lt_of_le (List.idxOf_lt_length_of_mem present) (Nat.le_add_right _ _)

end Encountered

section Step
variable {tally : Tally} {diagnostics : List Diagnostic} (holds : tally.Holds diagnostics)
  (diagnostic : Diagnostic)
include holds

theorem Holds.add : (tally.add diagnostic).Holds (diagnostics ++ [diagnostic]) where
  times format := by
    rw [Tally.add, times_bump, holds.times, List.map_append, List.count_append, List.map_singleton,
      List.count_singleton]
    simp
  positive entry member := by
    rcases mem_bump member with ⟨-, positive⟩ | member
    · exact positive
    · exact holds.positive entry member
  inOrder := holds.inOrder.bump
  sum := by
    rw [Tally.add, sum_bump, holds.sum, List.length_append, List.length_singleton]
  seen uri := by
    rw [Tally.add, List.mem_insert_iff, holds.seen, List.map_append, List.mem_append,
      List.map_singleton, List.mem_singleton, or_comm]
  listed uri := by
    rw [Tally.add, List.map_append, List.mem_append, List.map_singleton, List.mem_singleton]
    -- the set holds what is listed, so a file that is in it has been listed
    split
    · next known =>
        have present := (holds.seen _).1 known
        rw [holds.listed]
        constructor
        · exact .inl
        · rintro (member | rfl)
          · exact member
          · exact present
    · rw [List.mem_append, List.mem_singleton, holds.listed]
  encountered := by
    rw [Tally.add, List.map_append, List.map_singleton]
    split
    · exact pairwise_idxOf_append _ holds.listed holds.encountered
    · next new =>
        exact pairwise_idxOf_concat _ holds.listed holds.encountered
          fun present => new ((holds.seen _).2 present)

end Step

theorem holds_ofDiagnostics (diagnostics : List Diagnostic) :
    (ofDiagnostics diagnostics).Holds diagnostics := by
  induction diagnostics using List.reverseRecOn with
  | nil => exact holds_nil
  | append_singleton diagnostics diagnostic ih =>
      rw [ofDiagnostics, List.foldl_append]
      exact ih.add diagnostic

end Tally

namespace Summary

/-! ## The parts of a summary -/

/-- What the parts of a summary say about an extraction. -/
structure Agrees (summary : Summary) (extraction : Extraction) : Prop where
  total : summary.total = extraction.diagnostics.length
  phase : summary.phase = extraction.phase
  counted : ∀ format n, (format, n) ∈ summary.byFormat ↔
    0 < n ∧ (extraction.diagnostics.map Diagnostic.format).count format = n
  inOrder : summary.byFormat.Pairwise fun first second => first.1.rank < second.1.rank
  listed : ∀ uri, uri ∈ summary.files ↔ uri ∈ extraction.records.map Record.uri
  distinct : summary.files.Nodup
  encountered : summary.files.Pairwise fun first second =>
    (extraction.records.map Record.uri).idxOf first <
      (extraction.records.map Record.uri).idxOf second
  first : summary.first = extraction.records.head?

theorem mem_byFormat_iff (extraction : Extraction) (format : Format) (n : Nat) :
    (format, n) ∈ (ofExtraction extraction).byFormat ↔
      0 < n ∧ (extraction.diagnostics.map Diagnostic.format).count format = n := by
  have holds := Tally.holds_ofDiagnostics extraction.diagnostics
  rw [ofExtraction, holds.inOrder.mem_iff holds.positive, holds.times]

theorem map_uri_records (extraction : Extraction) :
    extraction.records.map Record.uri =
      extraction.diagnostics.map fun diagnostic => diagnostic.record.uri :=
  List.map_map

theorem agrees_ofExtraction (extraction : Extraction) :
    (ofExtraction extraction).Agrees extraction where
  total := rfl
  phase := rfl
  counted := mem_byFormat_iff extraction
  inOrder := (Tally.holds_ofDiagnostics _).inOrder
  listed uri := by
    rw [map_uri_records]
    exact (Tally.holds_ofDiagnostics _).listed uri
  distinct := nodup_of_pairwise (fun _ _ => Nat.lt_asymm)
    (Tally.holds_ofDiagnostics _).encountered
  encountered := by
    rw [map_uri_records]
    exact (Tally.holds_ofDiagnostics _).encountered
  first := rfl

/-- Nothing but the summary of an extraction agrees with it. -/
theorem Agrees.unique {summary other : Summary} {extraction : Extraction}
    (agrees : summary.Agrees extraction) (otherAgrees : other.Agrees extraction) :
    summary = other := by
  have byFormat : summary.byFormat = other.byFormat := by
    refine eq_of_pairwise_of_mem_iff ?_ agrees.inOrder otherAgrees.inOrder ?_
    · exact fun _ _ => Nat.lt_asymm
    · rintro ⟨format, n⟩
      rw [agrees.counted, otherAgrees.counted]
  have files : summary.files = other.files := by
    refine eq_of_pairwise_of_mem_iff ?_ agrees.encountered otherAgrees.encountered ?_
    · exact fun _ _ => Nat.lt_asymm
    · intro uri
      rw [agrees.listed, otherAgrees.listed]
  cases summary
  cases other
  simp only [mk.injEq]
  exact ⟨agrees.total.trans otherAgrees.total.symm, agrees.phase.trans otherAgrees.phase.symm,
    byFormat, files, agrees.first.trans otherAgrees.first.symm⟩

/-! ## The order of a listing -/

/-- The order of a listing: the more frequent format first, and of two that are equally frequent the
one that comes first among the formats. -/
def Outranks (first second : Format × Nat) : Prop :=
  second.2 < first.2 ∨ first.2 = second.2 ∧ first.1.rank < second.1.rank

theorem ranking_perm (summary : Summary) : summary.ranking.Perm summary.byFormat :=
  List.mergeSort_perm _ _

theorem isLE_order_iff (first second : Format × Nat) :
    (order first second).isLE ↔
      second.2 < first.2 ∨ first.2 = second.2 ∧ first.1.rank ≤ second.1.rank := by
  rw [order, Ordering.isLE_then_iff_or, Nat.compare_eq_lt, Nat.compare_eq_eq, Nat.isLE_compare,
    eq_comm]

theorem order_trans (a b c : Format × Nat) (ab : (order a b).isLE) (bc : (order b c).isLE) :
    (order a c).isLE := by
  rw [isLE_order_iff] at ab bc ⊢
  omega

theorem order_total (a b : Format × Nat) : ((order a b).isLE || (order b a).isLE) = true := by
  rw [Bool.or_eq_true, isLE_order_iff, isLE_order_iff]
  omega

theorem pairwise_outranks_ranking (summary : Summary) (inOrder : Tally.InOrder summary.byFormat) :
    summary.ranking.Pairwise Outranks := by
  have distinct : (summary.ranking.map fun entry => entry.1.rank).Nodup := by
    have ranks : (summary.byFormat.map fun entry => entry.1.rank).Nodup :=
      List.pairwise_map.2 (inOrder.imp Nat.ne_of_lt)
    exact (summary.ranking_perm.map _).nodup_iff.2 ranks
  have sorted := List.pairwise_mergeSort order_trans order_total summary.byFormat
  refine (sorted.and (List.pairwise_map.1 distinct)).imp ?_
  rintro first second ⟨ordered, different⟩
  rcases (isLE_order_iff first second).1 ordered with fewer | ⟨same, before⟩
  · exact .inl fewer
  · exact .inr ⟨same, Nat.lt_of_le_of_ne before different⟩

/-! ## The listing in print -/

def shown (entry : Format × Nat) : Text :=
  entry.1.name ++ ':' :: Numeral.render entry.2

/-- What stands between the first two bars of a summary in print, piece by piece. -/
def printedCounts (printed : Text) : List Text :=
  (((printed.splitOn '|').getD 1 []).splitOn ',').map trim

theorem plain_of_mem_name (format : Format) :
    ∀ c ∈ format.name, c ≠ ',' ∧ c ≠ '|' ∧ isBlank c = false := by
  have plain : (format.name.all fun c => c ≠ ',' && c ≠ '|' && !isBlank c) = true := by
    cases format <;> decide
  intro c member
  simpa [and_assoc] using List.all_eq_true.1 plain c member

theorem plain_of_mem_shown {entry : Format × Nat} {c : Char} (member : c ∈ shown entry) :
    c ≠ ',' ∧ c ≠ '|' ∧ isBlank c = false := by
  rcases List.mem_append.1 member with inside | behind
  · exact plain_of_mem_name entry.1 c inside
  · rcases List.mem_cons.1 behind with rfl | digit
    · decide
    · refine ⟨?_, ?_, Numeral.not_isBlank_of_mem_render digit⟩
      · rintro rfl
        exact Numeral.not_mem_render (by decide) entry.2 digit
      · rintro rfl
        exact Numeral.not_mem_render (by decide) entry.2 digit

theorem filled_shown (entry : Format × Nat) : Filled (shown entry) :=
  Filled.of_forall (by simp [shown]) fun _ member => (plain_of_mem_shown member).2.2

theorem not_mem_intercalate {c : Char} {separator : Text} (fresh : c ∉ separator)
    {pieces : List Text} (plain : ∀ piece ∈ pieces, c ∉ piece) :
    c ∉ separator.intercalate pieces := by
  induction pieces with
  | nil => exact List.not_mem_nil
  | cons piece rest ih =>
      obtain ⟨here, later⟩ := List.forall_mem_cons.1 plain
      cases rest with
      | nil => rwa [List.intercalate_singleton]
      | cons next rest => simp [List.intercalate_cons_cons, here, fresh, ih later]

theorem map_trim_splitOn_intercalate {pieces : List Text} (some : pieces ≠ [])
    (filled : ∀ piece ∈ pieces, Filled piece) (plain : ∀ piece ∈ pieces, ',' ∉ piece) :
    ((' ' :: ", ".toList.intercalate pieces ++ [' ']).splitOn ',').map trim = pieces := by
  have blank : isBlankLine [' '] = true := by decide
  induction pieces with
  | nil => exact absurd rfl some
  | cons piece rest ih =>
      obtain ⟨filledHere, filledLater⟩ := List.forall_mem_cons.1 filled
      obtain ⟨plainHere, plainLater⟩ := List.forall_mem_cons.1 plain
      cases rest with
      | nil =>
          have single : ',' ∉ ' ' :: piece ++ [' '] := by simp [plainHere]
          have trimmed : trim (' ' :: piece ++ [' ']) = piece :=
            filledHere.trim_between blank blank
          rw [List.intercalate_singleton, List.splitOn_eq_singleton single, List.map_singleton,
            trimmed]
      | cons next rest =>
          have split : ' ' :: ", ".toList.intercalate (piece :: next :: rest) ++ [' '] =
              ' ' :: piece ++
                ',' :: (' ' :: ", ".toList.intercalate (next :: rest) ++ [' ']) := by
            simp [List.intercalate_cons_cons]
          have first : ',' ∉ ' ' :: piece := by simp [plainHere]
          have trimmed : trim (' ' :: piece) = piece := by
            have spaced := filledHere.trim_between blank (rfl : isBlankLine [] = true)
            rwa [List.append_nil] at spaced
          rw [split, splitOn_append_cons first, List.map_cons, trimmed,
            ih (List.cons_ne_nil next rest) filledLater plainLater]

section Printed
variable {summary : Summary}

def IsEnder (c : Char) : Prop :=
  c = '|' ∨ c = '\n'

section Enders
variable {c : Char} (ender : IsEnder c)
include ender

theorem IsEnder.not_mem_render (n : Nat) : c ∉ Numeral.render n := by
  have noDigit : c.isDigit = false := by rcases ender with rfl | rfl <;> decide
  exact Numeral.not_mem_render noDigit n

theorem IsEnder.not_mem_phase_name (phase : Phase) : c ∉ phase.name := by
  rcases ender with rfl | rfl <;> cases phase <;> decide

theorem not_mem_counted (n : Nat) {noun : Text} (plain : c ∉ noun) : c ∉ counted n noun := by
  have digits := ender.not_mem_render n
  have frame : c ≠ ' ' ∧ c ≠ 's' := by rcases ender with rfl | rfl <;> decide
  rw [counted]
  split
  · simp [digits, plain, frame]
  · simp [digits, plain, frame]

theorem not_mem_heading (summary : Summary) : c ∉ summary.heading := by
  have noun : c ∉ "error".toList := by rcases ender with rfl | rfl <;> decide
  have count := not_mem_counted ender summary.total noun
  have frame : c ≠ '[' ∧ c ≠ ']' ∧ c ≠ ' ' := by rcases ender with rfl | rfl <;> decide
  rw [heading]
  split
  · next phase _ => simpa [frame, ender.not_mem_phase_name phase] using count
  · simpa [frame] using count

theorem not_mem_formatCounts (summary : Summary) : c ∉ summary.formatCounts := by
  have comma : c ∉ ", ".toList := by rcases ender with rfl | rfl <;> decide
  apply not_mem_intercalate comma
  intro piece member inside
  obtain ⟨entry, -, rfl⟩ := List.mem_map.1 member
  obtain ⟨-, noBar, noBlank⟩ := plain_of_mem_shown inside
  rcases ender with bar | rfl
  · exact noBar bar
  · exact absurd noBlank (by decide)

end Enders

theorem newline_not_mem_compact
    (unbroken : ∀ record, summary.first = some record → '\n' ∉ record.uri) :
    '\n' ∉ summary.compact := by
  have newline : IsEnder '\n' := .inr rfl
  have place : ∀ piece ∈ summary.firstPlace?, '\n' ∉ piece := by
    intro piece found
    obtain ⟨record, first, rfl⟩ := Option.map_eq_some_iff.1 found
    simp [Record.location, Location.render, unbroken record first, newline.not_mem_render]
  rw [compact]
  split
  · decide
  · apply not_mem_intercalate (by decide)
    intro piece member
    simp only [List.mem_append, List.mem_cons, List.not_mem_nil, or_false,
      Option.mem_toList] at member
    rcases member with (rfl | rfl | rfl) | last
    · exact not_mem_heading newline summary
    · exact not_mem_formatCounts newline summary
    · exact not_mem_counted newline _ (by decide)
    · exact place piece last

theorem printedCounts_compact (some : summary.byFormat ≠ []) (found : 0 < summary.total) :
    printedCounts summary.compact = summary.ranking.map shown := by
  have nonempty : summary.ranking.map shown ≠ [] := by
    intro empty
    exact some (List.perm_nil.1 (List.map_eq_nil_iff.1 empty ▸ summary.ranking_perm.symm))
  have printed : summary.compact = summary.heading ++ [' '] ++ '|' ::
      (' ' :: summary.formatCounts ++ [' '] ++ '|' ::
        (' ' :: " | ".toList.intercalate
          (counted summary.files.length "file".toList :: summary.firstPlace?.toList))) := by
    rw [compact, if_neg found.ne']
    simp [List.intercalate_cons_cons]
  have bar : IsEnder '|' := .inl rfl
  have first : '|' ∉ summary.heading ++ [' '] := by simp [not_mem_heading bar]
  have second : '|' ∉ ' ' :: summary.formatCounts ++ [' '] := by simp [not_mem_formatCounts bar]
  rw [printedCounts, printed, splitOn_append_cons first, splitOn_append_cons second,
    List.getD_cons_succ, List.getD_cons_zero]
  apply map_trim_splitOn_intercalate nonempty
  · intro piece member
    obtain ⟨entry, -, rfl⟩ := List.mem_map.1 member
    exact filled_shown entry
  · intro piece member comma
    obtain ⟨entry, -, rfl⟩ := List.mem_map.1 member
    exact (plain_of_mem_shown comma).1 rfl

end Printed

/-! ## Summaries of extractions -/

/-- The summary of an extraction is the one and only whose parts agree with it.  Its counts add up
to the number of the diagnostics, and in print each of them is listed once, the more frequent
formats first. -/
theorem parts_and_listing (extraction : Extraction) :
    let summary := ofExtraction extraction
    summary.Agrees extraction ∧ (∀ other : Summary, other.Agrees extraction → other = summary) ∧
      (summary.byFormat.map Prod.snd).sum = summary.total ∧
      (0 < summary.total → ∃ entries : List (Format × Nat),
        entries.Perm summary.byFormat ∧ entries.Pairwise Outranks ∧
          printedCounts summary.compact =
            entries.map fun entry => entry.1.name ++ ':' :: Numeral.render entry.2) := by
  intro summary
  have agrees := agrees_ofExtraction extraction
  have sum : (summary.byFormat.map Prod.snd).sum = summary.total :=
    (Tally.holds_ofDiagnostics extraction.diagnostics).sum
  refine ⟨agrees, fun other otherAgrees => otherAgrees.unique agrees, sum, ?_⟩
  intro found
  have some : summary.byFormat ≠ [] := by
    intro empty
    rw [empty] at sum
    exact found.ne sum
  exact ⟨summary.ranking, summary.ranking_perm, summary.pairwise_outranks_ranking agrees.inOrder,
    printedCounts_compact some found⟩

/-- Formats and files come by in turns, and two formats are equally frequent. -/
theorem parts_and_listing_interleaved :
    let record := fun uri line => (⟨uri, line, 0, "Unexpected any".toList⟩ : Record)
    let extraction : Extraction :=
      ⟨some .lineScan, [⟨.vue, record "b.vue".toList 4⟩, ⟨.eslint, record "a.ts".toList 7⟩,
        ⟨.jest, record "b.vue".toList 0⟩, ⟨.eslint, record "c.ts".toList 1⟩,
        ⟨.vue, record "a.ts".toList 2⟩]⟩
    let summary := ofExtraction extraction
    summary.files = ["b.vue".toList, "a.ts".toList, "c.ts".toList] ∧
      summary.byFormat = [(.eslint, 2), (.vue, 2), (.jest, 1)] ∧
      0 < summary.total ∧ ∃ entries : List (Format × Nat),
        entries.Perm summary.byFormat ∧ entries.Pairwise Outranks ∧
          printedCounts summary.compact =
            entries.map fun entry => entry.1.name ++ ':' :: Numeral.render entry.2 := by
  intro record extraction summary
  have found : 0 < summary.total := by decide
  obtain ⟨-, -, -, listed⟩ := parts_and_listing extraction
  exact ⟨by decide, by decide, found, listed found⟩

end Summary

end BuildLog

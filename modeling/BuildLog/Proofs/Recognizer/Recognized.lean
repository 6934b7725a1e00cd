import BuildLog.Proofs.Recognizer.Calls
import BuildLog.Proofs.Text.Pieces
import BuildLog.Proofs.Text.Trimming
import BuildLog.Record

/-!
# Records and the calls behind them

Every record comes from a call at some lines, and its texts are pieces of these lines.
-/

set_option autoImplicit false

/-! ## Records and the lines they come from

The texts of a record are pieces of lines.  The file is one piece.  The message is one piece as well,
but for the layouts that join two lines and for the one that shortens a long message.  Neither is
blank and neither has blanks around it.
-/

namespace BuildLog

open Text

def IsPiece (lines : List Text) (t : Text) : Prop :=
  ∃ line ∈ lines, t <:+: line

theorem isPiece_of_mem {lines : List Text} {line : Text} (member : line ∈ lines) :
    IsPiece lines line :=
  ⟨line, member, List.infix_refl line⟩

theorem IsPiece.part {lines : List Text} {t part : Text} (piece : IsPiece lines t)
    (inside : part <:+: t) : IsPiece lines part := by
  obtain ⟨line, member, whole⟩ := piece
  exact ⟨line, member, inside.trans whole⟩

theorem IsPiece.front {lines : List Text} {first second : Text}
    (piece : IsPiece lines (first ++ second)) : IsPiece lines first :=
  piece.part (List.prefix_append first second).isInfix

theorem IsPiece.behind {lines : List Text} {c : Char} {first second : Text}
    (piece : IsPiece lines (first ++ c :: second)) : IsPiece lines second :=
  piece.part ((List.suffix_cons c second).trans (List.suffix_append first _)).isInfix

theorem IsPiece.trim {lines : List Text} {t : Text} (piece : IsPiece lines t) :
    IsPiece lines t.trim :=
  piece.part (trim_isInfix t)

def Joined (lines : List Text) (t : Text) : Prop :=
  ∃ first second, IsPiece lines first ∧ IsPiece lines second ∧ t = trim (spaced first second)

def Shortened (lines : List Text) (t : Text) : Prop :=
  ∃ whole front back, IsPiece lines whole ∧ front <+: whole ∧ back <:+ whole ∧
    t = front ++ "...".toList ++ back

/-- How a format puts the message of a record together from pieces of some lines. -/
def Drawn (lines : List Text) : Format → Text → Prop
  | .xcode, error | .java, error | .esbuild, error => Joined lines error
  | .jasmine, error => IsPiece lines error ∨ Shortened lines error
  | _, error => IsPiece lines error

/-! ### Characters of pieces -/

section Characters
variable {kept : Char → Prop} {lines : List Text} (all : ∀ line ∈ lines, ∀ c ∈ line, kept c)
include all

theorem IsPiece.forall_mem {t : Text} (piece : IsPiece lines t) : ∀ c ∈ t, kept c := by
  obtain ⟨line, member, inside⟩ := piece
  exact fun c within => all line member c (inside.subset within)

theorem Joined.forall_mem (blank : kept ' ') {t : Text} (joined : Joined lines t) :
    ∀ c ∈ t, kept c := by
  obtain ⟨first, second, one, other, rfl⟩ := joined
  intro c within
  rcases List.mem_append.1 ((trim_isInfix _).subset within) with here | there
  · exact one.forall_mem all c here
  · rcases List.mem_cons.1 there with rfl | there
    · exact blank
    · exact other.forall_mem all c there

theorem Shortened.forall_mem (point : kept '.') {t : Text} (shortened : Shortened lines t) :
    ∀ c ∈ t, kept c := by
  obtain ⟨whole, front, back, piece, first, last, rfl⟩ := shortened
  intro c within
  rcases List.mem_append.1 within with before | there
  · rcases List.mem_append.1 before with here | points
    · exact piece.forall_mem all c (first.subset here)
    · rw [show c = '.' by simpa using points]
      exact point
  · exact piece.forall_mem all c (last.subset there)

theorem Drawn.forall_mem (blank : kept ' ') (point : kept '.') {format : Format} {error : Text}
    (drawn : Drawn lines format error) : ∀ c ∈ error, kept c := by
  unfold Drawn at drawn
  split at drawn
  · exact drawn.forall_mem all blank
  · exact drawn.forall_mem all blank
  · exact drawn.forall_mem all blank
  · exact drawn.elim (·.forall_mem all) (·.forall_mem all point)
  · exact drawn.forall_mem all

end Characters

structure Sourced (lines : List Text) (diagnostic : Diagnostic) : Prop where
  filledUri : Filled diagnostic.record.uri
  filledError : Filled diagnostic.record.error
  uri : IsPiece lines diagnostic.record.uri
  error : Drawn lines diagnostic.format diagnostic.record.error

/-! ## The calls that can be made at some lines

One case for each recognizer says which texts a pass cuts from the lines for it.  Which line it is
does not matter for what a recognizer makes of it, so facts about records are proved once for these
cases and hold for every pass.
-/

open Text

/-- The lines of a block stand next to each other; it has them without the carriage returns at their
ends. -/
def BlockOf (lines block : List Text) : Prop :=
  ∃ run, run <:+: lines ∧ block = run.map (dropEndWhile (· = '\r'))

/-- How the texts of a call are cut from some lines. -/
inductive Call.Within (lines : List Text) : Call → Prop
  | entry {format : Format} {header line : Text} (lint : format = .eslint ∨ format = .vue)
      (above : header ∈ lines) (member : line ∈ lines) :
      Within lines (.entry format (trim header) (trim line))
  | report {block : List Text} (inside : BlockOf lines block) : Within lines (.report block)
  | wrapped {line header message : Text} (above : line ∈ lines)
      (marked : after? "TypeScript error in ".toList (trim line) = some header)
      (member : message ∈ lines) : Within lines (.wrapped header message)
  | parenthesized {line place message : Text} (member : line ∈ lines)
      (cut : cut? ": error ".toList line = some (place, message)) :
      Within lines (.parenthesized place message)
  | component {line front place message : Text} (above : line ∈ lines)
      (cut : cutLowered? "error  in ".toList line = some (front, place))
      (member : message ∈ lines) : Within lines (.component place message)
  | labelled {line rest : Text} (member : line ∈ lines)
      (marked : after? "Error: ".toList line = some rest) : Within lines (.labelled line rest)
  | batch {line place rest : Text} (member : line ∈ lines)
      (cut : cut? "- error TS".toList line = some (place, rest)) :
      Within lines (.batch place ("error TS".toList ++ rest))
  | syntaxError {line t : Text} (member : line ∈ lines)
      (marked : after? "SyntaxError:".toList (trim line) = some t) : Within lines (.syntaxError t)
  | java {header below : Text} (above : header ∈ lines) (member : below ∈ lines) :
      Within lines (.java header below)
  | frame {settings : Settings} {header front shown line : Text} (above : header ∈ lines)
      (cut : cut? "Error:".toList header = some (front, shown)) (member : line ∈ lines) :
      Within lines (.frame (TestRunner.shorten settings (CodeLabel.strip shown)) line)
  | title {header suite line : Text} (above : header ∈ lines)
      (marked : after? "FAIL ".toList header = some suite) (member : line ∈ lines) :
      Within lines (.title (cutBefore TestRunner.isTiming (trim suite)) line)
  | nested {header place : Text} (above : header ∈ lines) (member : place ∈ lines) :
      Within lines (.nested (Bundler.headerMessage header) place)
  | block {block : List Text} (inside : BlockOf lines block) : Within lines (.block block)
  | compilation {block : List Text} (inside : BlockOf lines block) :
      Within lines (.compilation block)
  | swift {candidate context : Text} (above : candidate ∈ lines) (member : context ∈ lines) :
      Within lines (.swift candidate (trim context))

/-- An attempt that some lines lead to. -/
def Recognized (lines : List Text) (attempt : Attempt) : Prop :=
  ∃ call : Call, call.Within lines ∧ call.attempt = attempt

theorem BlockOf.widen {lines more block : List Text} (block_of : BlockOf lines block)
    (among : lines <:+: more) : BlockOf more block := by
  obtain ⟨run, inside, stripped⟩ := block_of
  exact ⟨run, inside.trans among, stripped⟩

theorem Call.Within.widen {lines more : List Text} {call : Call} (within : call.Within lines)
    (among : lines <:+: more) : call.Within more := by
  have subset := among.subset
  cases within with
  | entry lint above member => exact .entry lint (subset above) (subset member)
  | report inside => exact .report (inside.widen among)
  | wrapped above marked member => exact .wrapped (subset above) marked (subset member)
  | parenthesized member cut => exact .parenthesized (subset member) cut
  | component above cut member => exact .component (subset above) cut (subset member)
  | labelled member marked => exact .labelled (subset member) marked
  | batch member cut => exact .batch (subset member) cut
  | syntaxError member marked => exact .syntaxError (subset member) marked
  | java above member => exact .java (subset above) (subset member)
  | frame above cut member => exact .frame (subset above) cut (subset member)
  | title above marked member => exact .title (subset above) marked (subset member)
  | nested above member => exact .nested (subset above) (subset member)
  | block inside => exact .block (inside.widen among)
  | compilation inside => exact .compilation (inside.widen among)
  | swift above member => exact .swift (subset above) (subset member)

theorem Recognized.widen {lines more : List Text} {attempt : Attempt}
    (recognized : Recognized lines attempt) (among : lines <:+: more) : Recognized more attempt := by
  obtain ⟨call, within, makes⟩ := recognized
  exact ⟨call, within.widen among, makes⟩

/-! ### Pieces of places -/

section Pieces
variable {lines : List Text}

theorem BlockOf.isPiece {block : List Text} (block_of : BlockOf lines block) :
    ∀ line ∈ block, IsPiece lines line := by
  intro line member
  obtain ⟨run, inside, rfl⟩ := block_of
  obtain ⟨source, here, rfl⟩ := List.mem_map.1 member
  exact (isPiece_of_mem (inside.subset here)).part (dropEndWhile_isPrefix _ source).isInfix

theorem Colons.isInfix {t path : Text} {v w : Nat} (colons : Colons t path v w) : path <:+: t := by
  obtain ⟨split, -⟩ := colons
  have stripped := (dropEndWhile_isPrefix (· = ':') (trim t)).isInfix.trans (trim_isInfix t)
  rw [split, List.append_assoc] at stripped
  exact (List.prefix_append path _).isInfix.trans stripped

theorem Group.isPrefix {separator : Char} {t before : Text} {v w : Nat}
    (group : Group separator t before v w) : before <+: t := by
  obtain ⟨rfl, -⟩ := group
  rw [List.append_assoc]
  exact List.prefix_append before _

/-! ### Messages -/

theorem TestRunner.trim_ellipsis {t front back : Text} (start : front <+: trim t)
    (ending : back <:+ trim t) :
    trim (front ++ "...".toList ++ back) = front ++ "...".toList ++ back := by
  -- where an end is empty, the text starts or stops with a point, which is no blank
  apply trim_eq_self
  · intro c rest split
    cases front with
    | nil =>
        cases split
        decide
    | cons d front =>
        obtain ⟨more, whole⟩ := start
        cases split
        exact not_isBlank_of_trim_eq_cons whole.symm
  · intro init c split
    rcases List.eq_nil_or_concat back with rfl | ⟨before, d, rfl⟩
    · have last := congrArg List.getLast? split
      simp at last
      subst last
      decide
    · obtain ⟨more, whole⟩ := ending
      rw [List.concat_eq_append, ← List.append_assoc] at split whole
      obtain rfl := List.cons.inj (List.append_inj_right' split rfl) |>.1
      exact not_isBlank_of_trim_eq_concat whole.symm

theorem TestRunner.drawn_shorten (settings : Settings) {message : Text}
    (piece : IsPiece lines message) :
    Drawn lines .jasmine (trim (shorten settings message)) := by
  unfold shorten
  dsimp only
  split
  · exact .inl piece.trim.trim
  · have start := List.take_prefix settings.jasmineHead (trim message)
    have ending := List.drop_suffix ((trim message).length - settings.jasmineTail) (trim message)
    exact .inr ⟨trim message, _, _, piece.trim, start, ending, trim_ellipsis start ending⟩

theorem Bundler.headerMessage_isInfix (header : Text) : headerMessage header <:+: header := by
  have marked := (getD_after?_suffix errorMark header.trim).isInfix.trans (trim_isInfix header)
  have untagged := cutBefore_isPrefix isPluginTag ((after? errorMark header.trim).getD header.trim)
  exact (CodeLabel.strip_isInfix _).trans (untagged.isInfix.trans marked)

theorem Bundler.withoutBullet_isInfix (t : Text) : withoutBullet t <:+: t := by
  have bullet : ((after? "x ".toList t.trim).or (after? "×".toList t.trim)).getD t.trim <:+
      t.trim := by
    cases ascii : after? "x ".toList t.trim with
    | none => exact getD_after?_suffix "×".toList t.trim
    | some rest => exact suffix_of_after? ascii
  exact (trim_isInfix _).trans (bullet.isInfix.trans (trim_isInfix t))

theorem Swift.suffix_of_message? {candidate message : Text}
    (found : message? candidate = some message) : message <:+ candidate := by
  obtain ⟨⟨before, _⟩, cut, same⟩ := Option.map_eq_some_iff.1 found
  cases same
  rcases Option.or_eq_some_iff.1 cut with colon | ⟨-, blank⟩
  · exact (sides_of_cutLowered? colon).2
  · exact (sides_of_cutLowered? blank).2

theorem behindDash_suffix (tail : Text) :
    ((cut? " - ".toList tail).map Prod.snd).getD tail <:+ tail := by
  cases again : cut? " - ".toList tail with
  | none => exact List.suffix_refl tail
  | some sides => exact (sides_of_cut? again).2

/-- The message starts inside the mark, at the word `error`. -/
theorem message_suffix_of_batch {line place rest : Text}
    (cut : cut? "- error TS".toList line = some (place, rest)) : "error TS".toList ++ rest <:+ line :=
  ⟨place ++ "- ".toList, by rw [eq_of_cut? cut]; simp⟩

theorem isPiece_firstMessage {messages : List Text} {message : Text}
    (pieces : ∀ t ∈ message :: messages, IsPiece lines t) :
    IsPiece lines ((((message :: messages).map Bundler.withoutBullet).find? (· ≠ [])).getD []) := by
  cases chosen : ((message :: messages).map Bundler.withoutBullet).find? (· ≠ []) with
  | none => exact (pieces message List.mem_cons_self).part List.nil_infix
  | some shown =>
      obtain ⟨t, choice, rfl⟩ := List.mem_map.1 (List.mem_of_find?_eq_some chosen)
      exact (pieces t choice).part (Bundler.withoutBullet_isInfix t)

theorem untargeted_isPrefix (candidate : Text) : untargeted candidate <+: candidate := by
  rw [untargeted]
  cases cut : cut? " (in target ".toList candidate with
  | none => exact List.prefix_refl candidate
  | some sides => exact (sides_of_cut? cut).1

end Pieces

/-! ### Paths and messages

What a call at some lines says, it says in pieces of them.  There is one fact for each recognizer.
-/

section Says
variable {lines : List Text} {path message : Text} {v w : Nat}

theorem Lint.pieces_of_entry {format : Format} {header line : Text} (above : header ∈ lines)
    (member : line ∈ lines)
    (reads : (Call.entry format (trim header) (trim line)).Reads path v w message) :
    IsPiece lines path ∧ IsPiece lines (trim message) := by
  cases reads with
  | entry shown counts =>
      have rest := (isPiece_of_mem member).trim.part shown.suffix.isInfix
      exact ⟨(isPiece_of_mem above).trim, rest.trim⟩

theorem Lint.pieces_of_report {block : List Text} (inside : BlockOf lines block)
    (reads : (Call.report block).Reads path v w message) :
    IsPiece lines path ∧ IsPiece lines (trim message) := by
  cases reads with
  | report label split first counts =>
      have pieces := inside.isPiece
      simp only [List.forall_mem_cons] at pieces
      obtain ⟨-, place, detail, -⟩ := pieces
      exact ⟨place, (detail.trim.part (sides_of_cut? label).2.isInfix).trim⟩

theorem TypeScript.pieces_of_wrapped {line header below : Text} (above : line ∈ lines)
    (marked : after? "TypeScript error in ".toList (trim line) = some header)
    (member : below ∈ lines) (reads : (Call.wrapped header below).Reads path v w message) :
    IsPiece lines path ∧ IsPiece lines (trim message) := by
  cases reads with
  | wrapped group =>
      have headerPiece := (isPiece_of_mem above).trim.part (suffix_of_after? marked).isInfix
      have place := headerPiece.trim.part (dropEndWhile_isPrefix (· = ':') _).isInfix
      have shown := (isPiece_of_mem member).trim.part
        (cutBefore_isPrefix TypeScript.isTrailingCode _).isInfix
      exact ⟨place.part group.isPrefix.isInfix, shown.trim⟩

theorem TypeScript.pieces_of_parenthesized {line place rest : Text} (member : line ∈ lines)
    (cut : cut? ": error ".toList line = some (place, rest))
    (reads : (Call.parenthesized place rest).Reads path v w message) :
    IsPiece lines path ∧ IsPiece lines (trim message) := by
  cases reads with
  | parenthesized group =>
      obtain ⟨front, back⟩ := sides_of_cut? cut
      have shown := ((isPiece_of_mem member).part front.isInfix).trim
      have detail := (isPiece_of_mem member).part back.isInfix
      exact ⟨shown.part group.isPrefix.isInfix, (detail.part (CodeLabel.strip_isInfix _)).trim⟩

theorem TypeScript.pieces_of_component {line front place below : Text} (above : line ∈ lines)
    (cut : cutLowered? "error  in ".toList line = some (front, place)) (member : below ∈ lines)
    (reads : (Call.component place below).Reads path v w message) :
    IsPiece lines path ∧ IsPiece lines (trim message) := by
  cases reads with
  | component colons =>
      have shown := (isPiece_of_mem above).part (sides_of_cutLowered? cut).2.isInfix
      have detail := (isPiece_of_mem member).trim.part (CodeLabel.strip_isInfix _)
      exact ⟨shown.part colons.isInfix, detail.trim⟩

theorem TypeScript.pieces_of_labelled {line rest : Text} (member : line ∈ lines)
    (marked : after? "Error: ".toList line = some rest)
    (reads : (Call.labelled line rest).Reads path v w message) :
    IsPiece lines path ∧ IsPiece lines (trim message) := by
  cases reads with
  | labelled split counts dash =>
      have whole := isPiece_of_mem member
      have shown := (whole.part (suffix_of_after? marked).isInfix).part
        (List.takeWhile_prefix (· ≠ ':')).isInfix
      have detail := whole.part (sides_of_cut? dash).2.isInfix
      have behind := detail.part (behindDash_suffix _).isInfix
      exact ⟨shown, (behind.part (CodeLabel.strip_isInfix _)).trim⟩

theorem TypeScript.pieces_of_batch {line place rest : Text} (member : line ∈ lines)
    (cut : cut? "- error TS".toList line = some (place, rest))
    (reads : (Call.batch place ("error TS".toList ++ rest)).Reads path v w message) :
    IsPiece lines path ∧ IsPiece lines (trim message) := by
  cases reads with
  | batch colons =>
      have whole := isPiece_of_mem member
      have shown := whole.part (sides_of_cut? cut).1.isInfix
      -- the message starts inside the mark, at the word `error`
      have detail := whole.part (message_suffix_of_batch cut).isInfix
      exact ⟨shown.part colons.isInfix, (detail.part (CodeLabel.strip_isInfix _)).trim⟩

theorem Script.pieces_of_syntaxError {line t : Text} (member : line ∈ lines)
    (marked : after? "SyntaxError:".toList (trim line) = some t)
    (reads : (Call.syntaxError t).Reads path v w message) :
    IsPiece lines path ∧ IsPiece lines (trim message) := by
  cases reads with
  | syntaxError split first group =>
      have whole := (isPiece_of_mem member).trim.part (suffix_of_after? marked).isInfix
      rw [split] at whole
      exact ⟨whole.front, (whole.behind.part group.isPrefix.isInfix).trim⟩

theorem Java.pieces_of_header {header below : Text} (above : header ∈ lines)
    (member : below ∈ lines) (reads : (Call.java header below).Reads path v w message) :
    IsPiece lines path ∧ Joined lines (trim message) := by
  cases reads with
  | java label split last counts =>
      obtain ⟨front, back⟩ := sides_of_cut? label
      have shown := ((isPiece_of_mem above).part front.isInfix).trim
      have place := shown.part (dropEndWhile_isPrefix (· = ':') _).isInfix
      have detail := ((isPiece_of_mem above).part back.isInfix).trim
      rw [split] at place
      exact ⟨place.front, _, _, detail, (isPiece_of_mem member).trim, rfl⟩

theorem TestRunner.pieces_of_frame {settings : Settings} {header front detail line : Text}
    (above : header ∈ lines) (cut : cut? "Error:".toList header = some (front, detail))
    (member : line ∈ lines)
    (reads : (Call.frame (shorten settings (CodeLabel.strip detail)) line).Reads path v w message) :
    IsPiece lines path ∧ Drawn lines .jasmine (trim message) := by
  cases reads with
  | frame split closed opened colons =>
      have whole := isPiece_of_mem member
      rw [split] at whole
      have behind := (isPiece_of_mem above).part (sides_of_cut? cut).2.isInfix
      have shown := behind.part (CodeLabel.strip_isInfix _)
      exact ⟨whole.front.behind.part colons.isInfix, drawn_shorten settings shown⟩

theorem TestRunner.pieces_of_title {header suite line : Text} (above : header ∈ lines)
    (marked : after? "FAIL ".toList header = some suite) (member : line ∈ lines)
    (reads : (Call.title (cutBefore isTiming (trim suite)) line).Reads path v w message) :
    IsPiece lines path ∧ IsPiece lines (trim message) := by
  cases reads with
  | title =>
      have behind := (isPiece_of_mem above).part (suffix_of_after? marked).isInfix
      have detail := (isPiece_of_mem member).trim.part (getD_after?_suffix ['●'] _).isInfix
      exact ⟨behind.trim.part (cutBefore_isPrefix _ _).isInfix, detail.trim⟩

theorem Bundler.pieces_of_nested {header place : Text} (above : header ∈ lines)
    (member : place ∈ lines)
    (reads : (Call.nested (headerMessage header) place).Reads path v w message) :
    IsPiece lines path ∧ IsPiece lines (trim message) := by
  cases reads with
  | nested colons =>
      have detail := (isPiece_of_mem above).part (headerMessage_isInfix _)
      exact ⟨(isPiece_of_mem member).part colons.isInfix, detail.trim⟩

theorem Bundler.pieces_of_block {block : List Text} (inside : BlockOf lines block)
    (reads : (Call.block block).Reads path v w message) :
    IsPiece lines path ∧ Joined lines (trim message) := by
  cases reads with
  | block colons =>
      have pieces := inside.isPiece
      simp only [List.forall_mem_cons] at pieces
      obtain ⟨header, more, -, place, -⟩ := pieces
      have detail := header.part (headerMessage_isInfix _)
      exact ⟨place.part colons.isInfix, _, _, detail, more.trim, rfl⟩

theorem Bundler.pieces_of_compilation {block : List Text} (inside : BlockOf lines block)
    (reads : (Call.compilation block).Reads path v w message) :
    IsPiece lines path ∧ IsPiece lines (trim message) := by
  cases reads with
  | compilation label marked colons =>
      have pieces := inside.isPiece
      simp only [List.forall_mem_cons] at pieces
      obtain ⟨-, -, -, header, below⟩ := pieces
      obtain ⟨line, front, rest, rfl, -, here⟩ := marked
      obtain ⟨between, tail⟩ := List.forall_mem_append.1 below
      obtain ⟨marker, -⟩ := List.forall_mem_cons.1 tail
      have place := (marker.part (sides_of_cut? here).2.isInfix).part
        (List.takeWhile_prefix (· ≠ ']')).isInfix
      have detail := header.part (sides_of_cut? label).2.isInfix
      have shown := isPiece_firstMessage (List.forall_mem_cons.2 ⟨detail, between⟩)
      exact ⟨place.part colons.isInfix, shown.trim⟩

theorem Swift.pieces_of_candidate {candidate context : Text} (above : candidate ∈ lines)
    (member : context ∈ lines)
    (reads : (Call.swift candidate (trim context)).Reads path v w message) :
    IsPiece lines path ∧ Joined lines (trim message) := by
  cases reads with
  | swift split counts marked =>
      have whole := (isPiece_of_mem above).part (untargeted_isPrefix _).isInfix
      have shown := whole.part (piece_of_mem_splitOn (split ▸ List.mem_cons_self)).2
      have detail := whole.part (suffix_of_message? marked).isInfix
      exact ⟨shown, _, _, detail.trim, (isPiece_of_mem member).trim.trim, rfl⟩

theorem Call.Within.pieces {call : Call} (within : call.Within lines)
    (reads : call.Reads path v w message) :
    IsPiece lines path ∧ Drawn lines call.format (trim message) := by
  cases within with
  | entry lint above member =>
      have pieces := Lint.pieces_of_entry above member reads
      rcases lint with rfl | rfl
      · exact pieces
      · exact pieces
  | report inside => exact Lint.pieces_of_report inside reads
  | wrapped above marked member => exact TypeScript.pieces_of_wrapped above marked member reads
  | parenthesized member cut => exact TypeScript.pieces_of_parenthesized member cut reads
  | component above cut member => exact TypeScript.pieces_of_component above cut member reads
  | labelled member marked => exact TypeScript.pieces_of_labelled member marked reads
  | batch member cut => exact TypeScript.pieces_of_batch member cut reads
  | syntaxError member marked => exact Script.pieces_of_syntaxError member marked reads
  | java above member => exact Java.pieces_of_header above member reads
  | frame above cut member => exact TestRunner.pieces_of_frame above cut member reads
  | title above marked member => exact TestRunner.pieces_of_title above marked member reads
  | nested above member => exact Bundler.pieces_of_nested above member reads
  | block inside => exact Bundler.pieces_of_block inside reads
  | compilation inside => exact Bundler.pieces_of_compilation inside reads
  | swift above member => exact Swift.pieces_of_candidate above member reads

end Says

/-! ### Records -/

theorem Diagnostic.sourced_of_ofOneBased {lines : List Text} {format : Format} {path message : Text}
    {v w : Nat} {diagnostic : Diagnostic} (pathPiece : IsPiece lines path)
    (drawn : Drawn lines format (trim message))
    (built : ofOneBased format path v w message = .ok diagnostic) : Sourced lines diagnostic := by
  obtain ⟨⟨named, spoken⟩, rfl⟩ := ofOneBased_eq_ok_iff.1 built
  exact ⟨⟨named, trim_trim path⟩, ⟨spoken, trim_trim message⟩, pathPiece.trim, drawn⟩

/-- Whatever the lines lead to has its texts from them. -/
theorem Recognized.sourced {lines : List Text} {diagnostic : Diagnostic}
    (recognized : Recognized lines (.ok diagnostic)) : Sourced lines diagnostic := by
  obtain ⟨call, within, accepted⟩ := recognized
  obtain ⟨path, v, w, message, reads, built⟩ := Call.says_of_accepted accepted
  obtain ⟨pathPiece, drawn⟩ := within.pieces reads
  exact Diagnostic.sourced_of_ofOneBased pathPiece drawn built

end BuildLog

import BuildLog.CommandLine.Arguments
import BuildLog.Proofs.Text.Marks
import Mathlib.Data.List.Nodup

/-!
# What arguments ask for

A list of arguments spells items, which are options with a value and flags, in any order.  A value
stands behind its option or is joined to it.  A list is accepted exactly when its items have values
that they may have and none is given twice, and what it asks for is what its items say.
-/

set_option autoImplicit false

namespace BuildLog

open Text

/-! ## Names -/

def Report.name : Report → Text
  | .text => "text".toList
  | .json => "json".toList

theorem Report.ofName?_eq_some_iff {name : Text} {report : Report} :
    ofName? name = some report ↔ name = report.name := by
  constructor
  · intro found
    unfold ofName? at found
    split_ifs at found with text json
    · cases found
      exact text
    · cases found
      exact json
  · rintro rfl
    cases report <;> rfl

namespace CommandLine

def ValueOption.name : ValueOption → Text
  | .input => "input".toList
  | .folder => "folder".toList
  | .format => "format".toList
  | .config => "config".toList

def Flag.name : Flag → Text
  | .resolve => "resolve".toList
  | .summary => "summary".toList

theorem ValueOption.name_of_ofName? {name : Text} {option : ValueOption}
    (found : ofName? name = some option) : name = option.name := by
  unfold ofName? at found
  split_ifs at found with input folder format config
  · cases found
    exact input
  · cases found
    exact folder
  · cases found
    exact format
  · cases found
    exact config

theorem Flag.name_of_ofName? {name : Text} {flag : Flag} (found : ofName? name = some flag) :
    name = flag.name := by
  unfold ofName? at found
  split_ifs at found with resolve summary
  · cases found
    exact resolve
  · cases found
    exact summary

/-! ## Items -/

inductive Item where
  | value (option : ValueOption) (value : Text)
  | flag (flag : Flag)
  deriving DecidableEq

/-- The ways to write items as arguments.  Two dashes alone may end them. -/
inductive Spells : List Text → List Item → Prop where
  | nil : Spells [] []
  | dashes : Spells ["--".toList] []
  /-- As in `--input=FILE`. -/
  | joined (option : ValueOption) (value : Text) {rest : List Text} {items : List Item}
      (later : Spells rest items) :
      Spells (("--".toList ++ (option.name ++ '=' :: value)) :: rest) (.value option value :: items)
  /-- As in `--input FILE`. -/
  | apart (option : ValueOption) {value : Text} (plain : Arguments.looksLikeOption value = false)
      {rest : List Text} {items : List Item} (later : Spells rest items) :
      Spells (("--".toList ++ option.name) :: value :: rest) (.value option value :: items)
  | flag (flag : Flag) {rest : List Text} {items : List Item} (later : Spells rest items) :
      Spells (("--".toList ++ flag.name) :: rest) (.flag flag :: items)

/-- What an item is about. -/
def Item.subject : Item → ValueOption ⊕ Flag
  | value option _ => .inl option
  | flag name => .inr name

/-- A format is one of those that there are, and a path is not empty. -/
def Item.Acceptable : Item → Prop
  | value .format name => ∃ report : Report, name = report.name
  | value _ path => path ≠ []
  | flag _ => True

namespace Arguments

def value? (arguments : Arguments) : ValueOption → Option Text
  | .input => arguments.input
  | .folder => arguments.folder
  | .format => arguments.report.map Report.name
  | .config => arguments.config

def has (arguments : Arguments) : Flag → Bool
  | .resolve => arguments.resolve
  | .summary => arguments.summary

theorem ext_items {a b : Arguments} (values : ∀ option, a.value? option = b.value? option)
    (flags : ∀ flag, a.has flag = b.has flag) : a = b := by
  have injective : Function.Injective Report.name := by
    intro one other same
    cases one <;> cases other <;> first | rfl | cases same
  have input := values .input
  have folder := values .folder
  have report := Option.map_injective injective (values .format)
  have config := values .config
  have resolve := flags .resolve
  have summary := flags .summary
  cases a
  cases b
  simp_all [value?, has]

end Arguments

structure Settles (items : List Item) (arguments : Arguments) : Prop where
  once : (items.map Item.subject).Nodup
  acceptable : ∀ item ∈ items, item.Acceptable
  value_iff : ∀ option value, arguments.value? option = some value ↔ .value option value ∈ items
  flag_iff : ∀ flag, arguments.has flag = true ↔ .flag flag ∈ items

def Asks (list : List Text) (arguments : Arguments) : Prop :=
  ∃ items, Spells list items ∧ Settles items arguments

/-! ## One item more -/

namespace Arguments

def set (arguments : Arguments) (argument : Text) : Item → Except UsageError Arguments
  | .value option value => arguments.setOption argument value option
  | .flag name => arguments.setFlag argument name

def mentions (arguments : Arguments) : Item → Bool
  | .value option _ => (arguments.value? option).isSome
  | .flag name => arguments.has name

def put (arguments : Arguments) : Item → Arguments
  | .value .input path => { arguments with input := some path }
  | .value .folder path => { arguments with folder := some path }
  | .value .format name => { arguments with report := Report.ofName? name }
  | .value .config path => { arguments with config := some path }
  | .flag .resolve => { arguments with resolve := true }
  | .flag .summary => { arguments with summary := true }

section Step
variable {a b : Arguments} {argument : Text} {item : Item}

theorem bind_path_eq_ok_iff {value : Text} {given : Option Text}
    {next : Option Text → Except UsageError Arguments} :
    (path argument value given >>= next) = .ok b ↔
      given.isSome = false ∧ value ≠ [] ∧ next (some value) = .ok b := by
  unfold path
  cases given with
  | some other => simp [bind, Except.bind]
  | none =>
      by_cases empty : value = []
      · simp [empty, bind, Except.bind]
      · simp [empty, bind, Except.bind]

theorem set_eq_ok_iff :
    a.set argument item = .ok b ↔ a.mentions item = false ∧ item.Acceptable ∧ a.put item = b := by
  cases item with
  | flag name =>
      cases name with
      | resolve | summary =>
          simp only [set, setFlag, mentions, has, Item.Acceptable, put]
          split
          · next given => simp [given]
          · next given => simp [given]
  | value option value =>
      cases option with
      | input | folder | config =>
          simp only [set, setOption, mentions, value?, Item.Acceptable, put, bind_path_eq_ok_iff,
            pure, Except.pure, Except.ok.injEq]
      | format =>
          simp only [set, setOption, mentions, value?, Option.isSome_map, Item.Acceptable, put,
            ← Report.ofName?_eq_some_iff]
          cases a.report with
          | some other => simp
          | none => cases Report.ofName? value <;> simp

theorem value?_put_eq_some_iff (fresh : a.mentions item = false) (acceptable : item.Acceptable)
    {option : ValueOption} {value : Text} :
    (a.put item).value? option = some value ↔
      a.value? option = some value ∨ item = .value option value := by
  cases item with
  | flag other => cases other <;> cases option <;> simp [put, value?]
  | value other given =>
      have unset : a.value? other = none := by simpa [mentions] using fresh
      have set : (a.put (.value other given)).value? other = some given := by
        cases other with
        | input | folder | config => rfl
        | format =>
            obtain ⟨report, rfl⟩ := acceptable
            cases report <;> rfl
      have kept : option ≠ other →
          (a.put (.value other given)).value? option = a.value? option := by
        cases other <;> cases option <;> simp [put, value?]
      by_cases same : option = other
      · subst same
        simp [set, unset]
      · simp [kept same, Ne.symm same]

theorem has_put_iff {name : Flag} :
    (a.put item).has name = true ↔ a.has name = true ∨ item = .flag name := by
  cases item with
  | flag other => cases other <;> cases name <;> simp [put, has]
  | value option value => cases option <;> cases name <;> simp [put, has]

end Step

end Arguments

namespace Settles
variable {items done : List Item} {item : Item} {a b : Arguments}

theorem empty : Settles [] {} where
  once := List.nodup_nil
  acceptable _ member := absurd member List.not_mem_nil
  value_iff option value := by cases option <;> simp [Arguments.value?]
  flag_iff flag := by cases flag <;> simp [Arguments.has]

theorem mentions_iff (settles : Settles items a) :
    a.mentions item = true ↔ item.subject ∈ items.map Item.subject := by
  rw [List.mem_map]
  cases item with
  | value option value =>
      simp only [Arguments.mentions, Option.isSome_iff_exists, settles.value_iff, Item.subject]
      constructor
      · rintro ⟨given, member⟩
        exact ⟨_, member, rfl⟩
      · rintro ⟨⟨other, given⟩ | other, member, same⟩
        · cases same
          exact ⟨given, member⟩
        · cases same
  | flag name =>
      simp only [Arguments.mentions, settles.flag_iff, Item.subject]
      constructor
      · intro member
        exact ⟨_, member, rfl⟩
      · rintro ⟨⟨other, given⟩ | other, member, same⟩
        · cases same
        · cases same
          exact member

theorem put (settles : Settles done a) (fresh : a.mentions item = false)
    (acceptable : item.Acceptable) : Settles (done ++ [item]) (a.put item) where
  once := by
    have new : item.subject ∉ done.map Item.subject := by
      rw [← settles.mentions_iff, fresh]
      exact Bool.false_ne_true
    rw [List.map_append, List.map_singleton, ← List.concat_eq_append]
    exact settles.once.concat new
  acceptable other member := by
    rcases List.mem_append.1 member with earlier | last
    · exact settles.acceptable other earlier
    · rwa [List.mem_singleton.1 last]
  value_iff option value := by
    rw [Arguments.value?_put_eq_some_iff fresh acceptable, settles.value_iff, List.mem_append,
      List.mem_singleton, eq_comm]
  flag_iff name := by
    rw [Arguments.has_put_iff, settles.flag_iff, List.mem_append, List.mem_singleton, eq_comm]

theorem unique (first : Settles items a) (second : Settles items b) : a = b := by
  apply Arguments.ext_items
  · intro option
    apply Option.ext
    intro value
    exact (first.value_iff option value).trans (second.value_iff option value).symm
  · intro flag
    exact Bool.eq_iff_iff.2 ((first.flag_iff flag).trans (second.flag_iff flag).symm)

theorem acceptable_next (settles : Settles (done ++ item :: items) b) : item.Acceptable :=
  settles.acceptable item (by simp)

section Next
variable (settled : Settles done a) (settles : Settles (done ++ item :: items) b)
include settled settles

theorem mentions_next : a.mentions item = false := by
  have once := settles.once
  rw [List.map_append, List.map_cons] at once
  rw [← Bool.not_eq_true, settled.mentions_iff]
  intro known
  exact List.disjoint_of_nodup_append once known List.mem_cons_self

theorem set_next {argument : Text} : a.set argument item = .ok (a.put item) :=
  Arguments.set_eq_ok_iff.2 ⟨settled.mentions_next settles, settles.acceptable_next, rfl⟩

theorem put_next : Settles (done ++ [item]) (a.put item) :=
  settled.put (settled.mentions_next settles) (settles.acceptable_next)

end Next

end Settles

/-! ## Reading a list -/

namespace Arguments
variable {a b : Arguments} {rest : List Text}

theorem readFrom_joined (option : ValueOption) (value : Text) :
    a.readFrom (("--".toList ++ (option.name ++ '=' :: value)) :: rest) = (do
      let next ← a.set ("--".toList ++ (option.name ++ '=' :: value)) (.value option value)
      next.readFrom rest) := by
  cases option <;> rfl

theorem readFrom_apart (option : ValueOption) {value : Text}
    (plain : looksLikeOption value = false) :
    a.readFrom (("--".toList ++ option.name) :: value :: rest) = (do
      let next ← a.set ("--".toList ++ option.name) (.value option value)
      next.readFrom rest) := by
  have read : a.readFrom (("--".toList ++ option.name) :: value :: rest) = (do
      if looksLikeOption value then .error (.missingValue ("--".toList ++ option.name))
      else
        let next ← a.set ("--".toList ++ option.name) (.value option value)
        next.readFrom rest) := by
    cases option <;> rfl
  rw [read, plain]
  rfl

theorem readFrom_flag (flag : Flag) :
    a.readFrom (("--".toList ++ flag.name) :: rest) = (do
      let next ← a.set ("--".toList ++ flag.name) (.flag flag)
      next.readFrom rest) := by
  cases flag <;> rfl

theorem eq_of_nameAndValue_some {body name value : Text}
    (parts : nameAndValue body = (name, some value)) : body = name ++ '=' :: value := by
  unfold nameAndValue at parts
  split at parts
  · next cut =>
      cases parts
      simpa using eq_of_cut? cut
  · cases parts

theorem eq_of_nameAndValue_none {body name : Text} (parts : nameAndValue body = (name, none)) :
    body = name := by
  unfold nameAndValue at parts
  split at parts
  · cases parts
  · cases parts
    rfl

theorem items_of_set {argument : Text} (item : Item) {done : List Item}
    (settled : Settles done a)
    (later : ∀ next : Arguments, next.readFrom rest = .ok b → ∀ done, Settles done next →
      ∃ items, Spells rest items ∧ Settles (done ++ items) b)
    (read : (a.set argument item >>= fun next => next.readFrom rest) = .ok b) :
    ∃ items, Spells rest items ∧ Settles (done ++ item :: items) b := by
  cases set : a.set argument item with
  | error error =>
      rw [set] at read
      cases read
  | ok next =>
      rw [set] at read
      obtain ⟨fresh, acceptable, rfl⟩ := set_eq_ok_iff.1 set
      obtain ⟨items, spells, settles⟩ := later _ read _ (settled.put fresh acceptable)
      rw [List.append_assoc, List.singleton_append] at settles
      exact ⟨items, spells, settles⟩

theorem items_of_readFrom {list : List Text} (read : a.readFrom list = .ok b) (done : List Item)
    (settled : Settles done a) : ∃ items, Spells list items ∧ Settles (done ++ items) b := by
  -- the cases that refuse come last; the others take items in on top of those done
  fun_induction Arguments.readFrom a list generalizing done with
  | case1 a =>
      cases read
      exact ⟨[], .nil, by rwa [List.append_nil]⟩
  | case3 a argument dashes =>
      cases read
      obtain rfl := after?_eq_some_iff.1 dashes
      exact ⟨[], .dashes, by rwa [List.append_nil]⟩
  | case5 a argument rest body filled dashes name option value named parts later =>
      obtain rfl := after?_eq_some_iff.1 dashes
      obtain rfl := eq_of_nameAndValue_some parts
      obtain rfl := ValueOption.name_of_ofName? named
      obtain ⟨items, spells, settles⟩ := items_of_set (.value option value) settled later read
      exact ⟨_, .joined option value spells, settles⟩
  | case8 a argument body filled dashes name option named value rest plain parts later =>
      obtain rfl := after?_eq_some_iff.1 dashes
      obtain rfl := eq_of_nameAndValue_none parts
      obtain rfl := ValueOption.name_of_ofName? named
      obtain ⟨items, spells, settles⟩ := items_of_set (.value option value) settled later read
      exact ⟨_, .apart option (eq_false_of_ne_true plain) spells, settles⟩
  | case9 a argument rest body filled dashes name flag named noOption parts later =>
      obtain rfl := after?_eq_some_iff.1 dashes
      obtain rfl := eq_of_nameAndValue_none parts
      obtain rfl := Flag.name_of_ofName? named
      obtain ⟨items, spells, settles⟩ := items_of_set (.flag flag) settled later read
      exact ⟨_, .flag flag spells, settles⟩
  | case2 | case4 | case6 | case7 | case10 | case11 => cases read

theorem readFrom_of_spells {list : List Text} {items : List Item} (spells : Spells list items)
    {done : List Item} (settled : Settles done a) (settles : Settles (done ++ items) b) :
    a.readFrom list = .ok b := by
  -- whether the next item is new depends on the ones before it, so they are carried along
  induction spells generalizing done a with
  | nil | dashes =>
      rw [List.append_nil] at settles
      exact congrArg Except.ok (settled.unique settles)
  | joined option value later ih =>
      rw [readFrom_joined, settled.set_next settles]
      exact ih (settled.put_next settles) (by rwa [List.append_assoc])
  | apart option plain later ih =>
      rw [readFrom_apart option plain, settled.set_next settles]
      exact ih (settled.put_next settles) (by rwa [List.append_assoc])
  | flag flag later ih =>
      rw [readFrom_flag, settled.set_next settles]
      exact ih (settled.put_next settles) (by rwa [List.append_assoc])

/-- A list is accepted exactly when it asks for something, and then this is what is read. -/
theorem read_eq_ok_iff {list : List Text} {arguments : Arguments} :
    read list = .ok arguments ↔ Asks list arguments := by
  constructor
  · intro ok
    exact items_of_readFrom ok [] .empty
  · rintro ⟨items, spells, settles⟩
    exact readFrom_of_spells spells .empty settles

end Arguments

end CommandLine

end BuildLog

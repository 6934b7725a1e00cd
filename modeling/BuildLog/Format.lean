import BuildLog.Text.Basic

/-!
# Formats and phases

Each diagnostic carries the format it was read from, and each extraction the phase that found
something.  Names are what summaries, failures and JSON documents show; `Format.all` lists the
formats in the order in which they are sorted.
-/

set_option autoImplicit false

namespace BuildLog

inductive Format where
  | nextJs
  | lintStyle
  | esbuild
  | xcode
  | eslint
  | craTypescript
  | viteColon
  | vueTypescript
  | syntaxError
  | java
  | jasmine
  | vue
  | genericError
  | typescriptBatch
  | jest
  | viteBlock
  deriving DecidableEq

namespace Format

def all : List Format :=
  [nextJs, lintStyle, esbuild, xcode, eslint, craTypescript, viteColon, vueTypescript, syntaxError,
    java, jasmine, vue, genericError, typescriptBatch, jest, viteBlock]

theorem mem_all (format : Format) : format ∈ all := by
  cases format <;> decide

def rank (format : Format) : Nat :=
  all.idxOf format

theorem pairwise_rank_all : all.Pairwise fun first second => first.rank < second.rank := by
  decide

def name : Format → Text
  | nextJs => "next_js".toList
  | lintStyle => "lint_style".toList
  | esbuild => "esbuild".toList
  | xcode => "xcode".toList
  | eslint => "eslint".toList
  | craTypescript => "cra_typescript".toList
  | viteColon => "vite_colon".toList
  | vueTypescript => "vue_typescript".toList
  | syntaxError => "syntax_error".toList
  | java => "java".toList
  | jasmine => "jasmine".toList
  | vue => "vue".toList
  | genericError => "generic_error".toList
  | typescriptBatch => "typescript_batch".toList
  | jest => "jest".toList
  | viteBlock => "vite_block".toList

def ofName? (name : Text) : Option Format :=
  all.find? fun format => format.name = name

theorem ofName?_name (format : Format) : ofName? format.name = some format := by
  cases format <;> decide

end Format

/-- The four passes over the output, the first that has something to say ends the run. -/
inductive Phase where
  | xcode
  | wholeBlob
  | lineScan
  | fallback
  deriving DecidableEq

namespace Phase

def all : List Phase :=
  [xcode, wholeBlob, lineScan, fallback]

def name : Phase → Text
  | xcode => "xcode".toList
  | wholeBlob => "whole_blob".toList
  | lineScan => "line_scan".toList
  | fallback => "fallback".toList

def ofName? (name : Text) : Option Phase :=
  all.find? fun phase => phase.name = name

theorem ofName?_name (phase : Phase) : ofName? phase.name = some phase := by
  cases phase <;> decide

end Phase

end BuildLog

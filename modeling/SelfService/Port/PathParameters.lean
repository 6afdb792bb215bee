/-
Path parameters and the segments of the URL.

`buildUrl` substitutes over the whole URL, so a placeholder may stand in the base URL
as well as in the template: a port `:8080` is one.  What stands for a parameter has no
delimiter of a URL, so the segments of the template stay apart; but a value of one or
two dots is taken for a step when the URL is normalised.
-/

import Mathlib.Data.List.TakeWhile
import SelfService.Core.JsText
import SelfService.Core.UriComponent
import SelfService.Port.OutboundIdempotency

namespace SelfService

namespace InternalAdapterBase

/-! ### Placeholders -/

/-- What the regular expression finds in a text: a symbol that it leaves, or a placeholder. -/
inductive Piece
  | symbol (letter : Char)
  | braces (word : List Char)
  | colon (word : List Char)

namespace Piece

def raw : Piece → List Char
  | .symbol letter => [letter]
  | .braces word => '{' :: word ++ ['}']
  | .colon word => ':' :: word

/-- The key of a placeholder. -/
def key : Piece → Option String
  | .symbol _ => none
  | .braces word | .colon word => some (String.ofList word)

def written (platform : HttpPlatform) (params : JsValue) : Piece → List Char
  | .symbol letter => [letter]
  | .braces word => filled platform params word ('{' :: word ++ ['}'])
  | .colon word => filled platform params word (':' :: word)

end Piece

theorem length_dropWhile_lt (symbol : Char) (rest : List Char) :
    (rest.dropWhile wordUnit).length < (symbol :: rest).length := by
  have shorter := (List.dropWhile_suffix wordUnit (l := rest)).length_le
  rw [List.length_cons]
  omega

def lex : List Char → List Piece
  | [] => []
  | symbol :: rest =>
      let word := rest.takeWhile wordUnit
      let after := rest.dropWhile wordUnit
      if word = [] then .symbol symbol :: lex rest
      else if symbol = '{' ∧ after.head? = some '}' then .braces word :: lex after.tail
      else if symbol = ':' then .colon word :: lex after
      else .symbol symbol :: lex rest
termination_by text => text.length
decreasing_by
  · simp
  · have shorter := length_dropWhile_lt symbol rest
    rw [List.length_tail]
    omega
  · exact length_dropWhile_lt symbol rest
  · simp

/-- The keys of the placeholders of a text. -/
def keys (text : List Char) : List String := (lex text).filterMap Piece.key

/-- `substitute`, with as much fuel as the text is long. -/
def expand (platform : HttpPlatform) (params : JsValue) (text : List Char) : List Char :=
  (lex text).flatMap (Piece.written platform params)

theorem substitute_eq (platform : HttpPlatform) (params : JsValue) (fuel : Nat)
    (text : List Char) (enough : text.length ≤ fuel) :
    substitute platform params fuel text = expand platform params text := by
  induction fuel generalizing text with
  | zero =>
      rw [List.length_eq_zero_iff.mp (Nat.le_zero.mp enough), substitute, expand, lex,
        List.flatMap_nil]
  | succ fuel ih =>
      cases text with
      | nil => rw [substitute, expand, lex, List.flatMap_nil]
      | cons symbol rest =>
          rw [List.length_cons] at enough
          have shorter := length_dropWhile_lt symbol rest
          rw [List.length_cons] at shorter
          rw [substitute, expand, lex]
          by_cases empty : rest.takeWhile wordUnit = []
          · rw [if_pos empty, if_pos empty, ih rest (by omega), List.flatMap_cons]
            rfl
          rw [if_neg empty, if_neg empty]
          by_cases brace : symbol = '{' ∧ (rest.dropWhile wordUnit).head? = some '}'
          · rw [if_pos brace, if_pos brace,
              ih _ (by rw [List.length_tail]; omega), List.flatMap_cons]
            rfl
          rw [if_neg brace, if_neg brace]
          by_cases colon : symbol = ':'
          · rw [if_pos colon, if_pos colon, ih _ (by omega), List.flatMap_cons]
            rfl
          · rw [if_neg colon, if_neg colon, ih rest (by omega), List.flatMap_cons]
            rfl

theorem buildUrl_toList (platform : HttpPlatform) (config : InternalAdapterConfig)
    (method : String) (params : JsValue) :
    (buildUrl platform config method params).toList =
      expand platform params (config.baseUrl.toList ++ '/' :: method.toList) := by
  rw [buildUrl, String.toList_ofList, substitute_eq _ _ _ _ (Nat.le_refl _), String.toList_append,
    String.toList_append, List.append_assoc]
  rfl

/-- No placeholder reaches across a barrier. -/
def Barrier (symbol : Char) : Prop :=
  wordUnit symbol = false ∧ symbol ≠ '{' ∧ symbol ≠ '}' ∧ symbol ≠ ':'

instance (symbol : Char) : Decidable (Barrier symbol) := by
  unfold Barrier
  infer_instance

theorem takeWhile_barrier {symbol : Char} (barrier : wordUnit symbol = false)
    (left right : List Char) :
    (left ++ symbol :: right).takeWhile wordUnit = left.takeWhile wordUnit := by
  induction left with
  | nil => rw [List.nil_append, List.takeWhile_cons_of_neg (by simp [barrier]), List.takeWhile_nil]
  | cons first rest ih => rw [List.cons_append, List.takeWhile_cons, List.takeWhile_cons, ih]

theorem dropWhile_barrier {symbol : Char} (barrier : wordUnit symbol = false)
    (left right : List Char) :
    (left ++ symbol :: right).dropWhile wordUnit = left.dropWhile wordUnit ++ symbol :: right := by
  induction left with
  | nil => rw [List.nil_append, List.dropWhile_cons_of_neg (by simp [barrier]), List.dropWhile_nil,
      List.nil_append]
  | cons first rest ih =>
      rw [List.cons_append, List.dropWhile_cons, List.dropWhile_cons, ih]
      split <;> rfl

theorem lex_nil : lex [] = [] := by rw [lex]

theorem lex_outside {symbol : Char} (barrier : Barrier symbol) (rest : List Char) :
    lex (symbol :: rest) = .symbol symbol :: lex rest := by
  obtain ⟨_, noBrace, _, _⟩ := barrier
  rw [lex]
  split
  · rfl
  · simp only [noBrace, false_and, if_false]

theorem lex_barrier {symbol : Char} (barrier : Barrier symbol) (right : List Char) :
    ∀ left : List Char, lex (left ++ symbol :: right) = lex left ++ .symbol symbol :: lex right
  | [] => by rw [List.nil_append, lex_outside barrier, lex_nil, List.nil_append]
  | first :: rest => by
      have noWord := barrier.1
      have noBrace := barrier.2.2.1
      rw [List.cons_append, lex, lex, takeWhile_barrier noWord, dropWhile_barrier noWord]
      by_cases empty : rest.takeWhile wordUnit = []
      · rw [if_pos empty, if_pos empty, lex_barrier barrier right rest, List.cons_append]
      rw [if_neg empty, if_neg empty]
      cases after : rest.dropWhile wordUnit with
      | nil =>
          have head : ¬ (first = '{' ∧ ([] ++ symbol :: right).head? = some '}') := fun brace =>
            noBrace (Option.some.inj brace.2)
          have headless : ¬ (first = '{' ∧ ([] : List Char).head? = some '}') := by simp
          rw [if_neg head, if_neg headless, List.nil_append]
          by_cases colon : first = ':'
          · rw [if_pos colon, if_pos colon, lex_outside barrier, lex_nil, List.cons_append,
              List.nil_append]
          · rw [if_neg colon, if_neg colon, lex_barrier barrier right rest, List.cons_append]
      | cons next others =>
          have shorter : (next :: others).length < (first :: rest).length :=
            after ▸ length_dropWhile_lt first rest
          have tail : others.length < (first :: rest).length :=
            Nat.lt_trans (Nat.lt_succ_self _) shorter
          rw [List.cons_append, List.head?_cons, List.head?_cons, List.tail_cons, List.tail_cons]
          split
          · rw [lex_barrier barrier right others, List.cons_append]
          · split
            · rw [← List.cons_append, lex_barrier barrier right (next :: others), List.cons_append]
            · rw [lex_barrier barrier right rest, List.cons_append]
termination_by left => left.length
decreasing_by
  all_goals first | assumption | simp

theorem raw_lex : ∀ text : List Char, (lex text).flatMap Piece.raw = text
  | [] => by rw [lex_nil, List.flatMap_nil]
  | symbol :: rest => by
      have parts := List.takeWhile_append_dropWhile (p := wordUnit) (l := rest)
      rw [lex]
      split
      · rw [List.flatMap_cons, raw_lex rest]
        rfl
      split
      · next brace =>
          obtain ⟨opened, closed⟩ := brace
          cases after : rest.dropWhile wordUnit with
          | nil =>
              rw [after] at closed
              nomatch closed
          | cons next others =>
              have shorter : others.length < (symbol :: rest).length := by
                have whole := length_dropWhile_lt symbol rest
                rw [after, List.length_cons] at whole
                omega
              rw [after, List.head?_cons] at closed
              rw [List.tail_cons, List.flatMap_cons, raw_lex others]
              rw [after, Option.some.inj closed] at parts
              calc (Piece.braces (rest.takeWhile wordUnit)).raw ++ others
                  = '{' :: (rest.takeWhile wordUnit ++ '}' :: others) := by simp [Piece.raw]
                _ = symbol :: rest := by rw [parts, opened]
      split
      · next colon =>
          have shorter := length_dropWhile_lt symbol rest
          rw [List.flatMap_cons, raw_lex (rest.dropWhile wordUnit), colon]
          exact congrArg (List.cons ':') parts
      · rw [List.flatMap_cons, raw_lex rest]
        rfl
termination_by text => text.length
decreasing_by
  all_goals first | assumption | simp

/-! ### What stands for a parameter -/

/-- The platform with `encodeURIComponent(String(value))`, for a reading of `String`. -/
def withText (platform : HttpPlatform) (text : JsValue → String) : HttpPlatform :=
  { platform with component := fun value => encodeURIComponent (text value) }

def supplied (params : JsValue) (key : String) : Bool := !(params.field key).isNullish

section Expansion

variable {platform : HttpPlatform} {text : JsValue → String} {params : JsValue}

theorem filled_supplied {word placeholder : List Char}
    (given : supplied params (String.ofList word) = true) :
    filled (withText platform text) params word placeholder =
      (encodeURIComponent (text (params.field (String.ofList word)))).toList := by
  rw [supplied, Bool.not_eq_true'] at given
  simp only [filled, given]
  rfl

theorem filled_missing {word placeholder : List Char}
    (missing : supplied params (String.ofList word) = false) :
    filled (withText platform text) params word placeholder = placeholder := by
  rw [supplied, Bool.not_eq_false'] at missing
  simp only [filled, missing, if_true]

theorem written_missing {piece : Piece}
    (missing : ∀ key ∈ piece.key, supplied params key = false) :
    piece.written (withText platform text) params = piece.raw := by
  cases piece with
  | symbol letter => rfl
  | braces word => exact filled_missing (missing _ rfl)
  | colon word => exact filled_missing (missing _ rfl)

theorem written_supplied {piece : Piece} {key : String} (own : piece.key = some key)
    (given : supplied params key = true) :
    piece.written (withText platform text) params =
      (encodeURIComponent (text (params.field key))).toList := by
  cases piece with
  | symbol letter => nomatch own
  | braces word =>
      obtain rfl := Option.some.inj own
      exact filled_supplied given
  | colon word =>
      obtain rfl := Option.some.inj own
      exact filled_supplied given

/-- What is written for a piece stands in the source or is a character of a component. -/
theorem mem_written {piece : Piece} {symbol : Char}
    (member : symbol ∈ piece.written (withText platform text) params) :
    symbol ∈ piece.raw ∨ componentChar symbol = true := by
  cases owned : piece.key with
  | none =>
      rw [written_missing fun key own => nomatch owned.symm.trans own] at member
      exact .inl member
  | some key =>
      cases given : supplied params key with
      | true =>
          rw [written_supplied owned given] at member
          exact .inr (componentChar_encodeURIComponent _ symbol member)
      | false =>
          have missing : ∀ other ∈ piece.key, supplied params other = false := by
            intro other own
            rw [← Option.some.inj (owned.symm.trans own)]
            exact given
          rw [written_missing missing] at member
          exact .inl member

theorem mem_expand {symbol : Char} {source : List Char} (outside : componentChar symbol = false)
    (member : symbol ∈ expand (withText platform text) params source) : symbol ∈ source := by
  obtain ⟨piece, listed, written⟩ := List.mem_flatMap.mp member
  rcases mem_written written with raw | component
  · rw [← raw_lex source]
    exact List.mem_flatMap.mpr ⟨piece, listed, raw⟩
  · exact absurd component (by simp [outside])

theorem expand_barrier {symbol : Char} (barrier : Barrier symbol) (left right : List Char) :
    expand platform params (left ++ symbol :: right) =
      expand platform params left ++ symbol :: expand platform params right := by
  rw [expand, lex_barrier barrier, List.flatMap_append, List.flatMap_cons]
  rfl

/-! ### The base URL -/

/-- The characters that a placeholder begins with. -/
def marker (symbol : Char) : Bool := symbol == '{' || symbol == ':'

theorem markers_component (value : String) :
    (encodeURIComponent value).toList.countP marker = 0 := by
  apply List.countP_eq_zero.mpr
  intro symbol member marked
  have component := componentChar_encodeURIComponent value symbol member
  rcases (Bool.or_eq_true _ _).mp marked with brace | colon
  · rw [eq_of_beq brace] at component
    exact absurd component (by decide)
  · rw [eq_of_beq colon] at component
    exact absurd component (by decide)

theorem markers_raw {piece : Piece} {key : String} (own : piece.key = some key) :
    0 < piece.raw.countP marker := by
  cases piece with
  | symbol letter => nomatch own
  | braces word => exact List.countP_pos_iff.mpr ⟨'{', List.mem_cons_self, rfl⟩
  | colon word => exact List.countP_pos_iff.mpr ⟨':', List.mem_cons_self, rfl⟩

theorem markers_written (piece : Piece) :
    (piece.written (withText platform text) params).countP marker ≤ piece.raw.countP marker := by
  by_cases given : ∃ key, piece.key = some key ∧ supplied params key = true
  · obtain ⟨key, own, given⟩ := given
    rw [written_supplied own given, markers_component]
    exact Nat.zero_le _
  · rw [written_missing]
    intro key own
    rw [← Bool.not_eq_true]
    exact fun supplies => given ⟨key, own, supplies⟩

theorem markers_flatMap (pieces : List Piece) :
    (pieces.flatMap (Piece.written (withText platform text) params)).countP marker ≤
      (pieces.flatMap Piece.raw).countP marker := by
  induction pieces with
  | nil => exact Nat.le_refl _
  | cons piece rest ih =>
      have first := @markers_written platform text params piece
      rw [List.flatMap_cons, List.flatMap_cons, List.countP_append, List.countP_append]
      omega

theorem written_eq_raw_iff (pieces : List Piece) :
    pieces.flatMap (Piece.written (withText platform text) params) = pieces.flatMap Piece.raw ↔
      ∀ key ∈ pieces.filterMap Piece.key, supplied params key = false := by
  constructor
  · -- A parameter that is filled in takes a marker away, and nothing brings one back.
    intro same key member
    obtain ⟨piece, listed, own⟩ := List.mem_filterMap.mp member
    obtain ⟨before, after, rfl⟩ := List.append_of_mem listed
    rw [← Bool.not_eq_true]
    intro given
    have count := congrArg (List.countP marker) same
    have left := @markers_flatMap platform text params before
    have right := @markers_flatMap platform text params after
    have gone := markers_raw own
    simp only [List.flatMap_append, List.flatMap_cons, List.countP_append,
      written_supplied own given, markers_component] at count
    omega
  · intro missing
    rw [List.flatMap_def, List.flatMap_def]
    congr 1
    apply List.map_congr_left
    intro piece listed
    exact written_missing fun key own =>
      missing key (List.mem_filterMap.mpr ⟨piece, listed, own⟩)

theorem expand_eq_iff (source : List Char) :
    expand (withText platform text) params source = source ↔
      ∀ key ∈ keys source, supplied params key = false := by
  have raw := raw_lex source
  rw [keys, ← written_eq_raw_iff, raw, expand]

end Expansion

/-! ### The URL -/

def slash (symbol : Char) : Bool := symbol == '/' || symbol == '\\'

/-- The characters that end the path. -/
def ends (symbol : Char) : Bool := symbol == '?' || symbol == '#'

/-- The path of `scheme://authority/path?query#fragment`. -/
def rawPath (url : List Char) : List Char :=
  let afterScheme := (url.dropWhile fun symbol => symbol != ':').drop 3
  (afterScheme.dropWhile fun symbol => !(slash symbol || ends symbol)).takeWhile
    fun symbol => !ends symbol

/-- The segments of a path, which begins with a slash. -/
def segments (path : List Char) : List (List Char) := (path.splitOnP slash).tail

/-- A dot, and how it may be escaped. -/
def dotSigns : List (List Char) := [".".toList, "%2e".toList, "%2E".toList]

def singleDot (segment : List Char) : Bool := dotSigns.contains segment

def doubleDot (segment : List Char) : Bool :=
  dotSigns.any fun first => dotSigns.any fun second => segment == first ++ second

def dots (segment : List Char) : Bool := singleDot segment || doubleDot segment

/-- A segment that a slash follows. -/
def enter (path : List (List Char)) (segment : List Char) : List (List Char) :=
  if doubleDot segment then path.dropLast
  else if singleDot segment then path
  else path ++ [segment]

/-- The last segment; a step leaves an empty one. -/
def finish (path : List (List Char)) (segment : List Char) : List (List Char) :=
  if doubleDot segment then path.dropLast ++ [[]]
  else if singleDot segment then path ++ [[]]
  else path ++ [segment]

def normalise (raw : List (List Char)) : List (List Char) :=
  match raw.getLast? with
  | none => []
  | some last => finish (raw.dropLast.foldl enter []) last

/-- The segments of the path of a URL after normalisation. -/
def urlSegments (url : List Char) : List (List Char) := normalise (segments (rawPath url))

example : urlSegments "http://host:80/a/./b/../c?d/e".toList = ["a".toList, "c".toList] := by
  decide +kernel

/-- `scheme://authority/path`, without query and fragment. -/
structure BaseUrl where
  scheme : List Char
  authority : List Char
  path : List Char
  schemeEnds : ∀ symbol ∈ scheme, symbol ≠ ':'
  authorityEnds : ∀ symbol ∈ authority, slash symbol = false ∧ ends symbol = false
  rooted : path = [] ∨ ∃ first rest, path = first :: rest ∧ slash first = true
  pathEnds : ∀ symbol ∈ path, ends symbol = false

namespace BaseUrl

def text (base : BaseUrl) : List Char := base.scheme ++ "://".toList ++ base.authority ++ base.path

/-- The segments below which the base URL stands. -/
def directory (base : BaseUrl) : List (List Char) := (segments base.path).foldl enter []

theorem rawPath_text (base : BaseUrl) (rest : List Char) :
    rawPath (base.text ++ '/' :: rest) =
      base.path ++ '/' :: rest.takeWhile fun symbol => !ends symbol := by
  have scheme : ((base.text ++ '/' :: rest).dropWhile fun symbol => symbol != ':').drop 3 =
      base.authority ++ (base.path ++ '/' :: rest) := by
    rw [text, List.append_assoc, List.append_assoc, List.append_assoc, List.dropWhile_append_of_pos]
    · rw [show "://".toList = [':', '/', '/'] from rfl, List.cons_append,
        List.dropWhile_cons_of_neg (by decide)]
      simp
    · intro symbol member
      simp [base.schemeEnds symbol member]
  have authority : (base.authority ++ (base.path ++ '/' :: rest)).dropWhile
      (fun symbol => !(slash symbol || ends symbol)) = base.path ++ '/' :: rest := by
    rw [List.dropWhile_append_of_pos]
    · rcases base.rooted with empty | ⟨first, others, split, stop⟩
      · rw [empty, List.nil_append, List.dropWhile_cons_of_neg (by decide)]
      · rw [split, List.cons_append, List.dropWhile_cons_of_neg (by simp [stop])]
    · intro symbol member
      obtain ⟨noSlash, noEnd⟩ := base.authorityEnds symbol member
      simp [noSlash, noEnd]
  unfold rawPath
  simp only
  rw [scheme, authority, List.takeWhile_append_of_pos, List.takeWhile_cons_of_pos (by decide)]
  intro symbol member
  simp [base.pathEnds symbol member]

theorem segments_append (base : BaseUrl) (rest : List Char) :
    segments (base.path ++ '/' :: rest) = segments base.path ++ rest.splitOnP slash := by
  rw [segments, List.splitOnP_append_cons _ _ (by decide),
    List.tail_append_of_ne_nil (List.splitOnP_ne_nil slash base.path)]
  rfl

end BaseUrl

/-- The segments of a template. -/
def templateSegments (template : List Char) : List (List Char) :=
  (template.takeWhile fun symbol => !ends symbol).splitOnP slash

section Templates

variable {platform : HttpPlatform} {text : JsValue → String} {params : JsValue}

theorem barrier_slash {symbol : Char} (stop : slash symbol = true) : Barrier symbol := by
  rcases (Bool.or_eq_true _ _).mp stop with forward | backward
  · rw [eq_of_beq forward]
    decide
  · rw [eq_of_beq backward]
    decide

theorem barrier_ends {symbol : Char} (stop : ends symbol = true) : Barrier symbol := by
  rcases (Bool.or_eq_true _ _).mp stop with query | fragment
  · rw [eq_of_beq query]
    decide
  · rw [eq_of_beq fragment]
    decide

theorem component_slash {symbol : Char} (stop : slash symbol = true) :
    componentChar symbol = false := by
  rcases (Bool.or_eq_true _ _).mp stop with forward | backward
  · rw [eq_of_beq forward]
    rfl
  · rw [eq_of_beq backward]
    rfl

theorem component_ends {symbol : Char} (stop : ends symbol = true) :
    componentChar symbol = false := by
  rcases (Bool.or_eq_true _ _).mp stop with query | fragment
  · rw [eq_of_beq query]
    rfl
  · rw [eq_of_beq fragment]
    rfl

/-- A text has no stop, or is split at the first one. -/
theorem split_first (stop : Char → Bool) (source : List Char) :
    (∀ symbol ∈ source, stop symbol = false) ∨
      ∃ left symbol right, source = left ++ symbol :: right ∧ stop symbol = true ∧
        ∀ other ∈ left, stop other = false := by
  induction source with
  | nil => exact .inl fun symbol member => absurd member List.not_mem_nil
  | cons first rest ih =>
      cases stops : stop first with
      | true =>
          refine .inr ⟨[], first, rest, rfl, stops, fun _ member => ?_⟩
          exact absurd member List.not_mem_nil
      | false =>
          rcases ih with free | ⟨left, symbol, right, rfl, stopped, free⟩
          · refine .inl fun symbol member => ?_
            rcases List.mem_cons.mp member with rfl | inside
            · exact stops
            · exact free symbol inside
          · refine .inr ⟨first :: left, symbol, right, rfl, stopped, fun other member => ?_⟩
            rcases List.mem_cons.mp member with rfl | inside
            · exact stops
            · exact free other inside

theorem free_expand {stop : Char → Bool}
    (outside : ∀ symbol, stop symbol = true → componentChar symbol = false) {source : List Char}
    (free : ∀ symbol ∈ source, stop symbol = false) :
    ∀ symbol ∈ expand (withText platform text) params source, stop symbol = false := by
  intro symbol member
  by_contra stops
  have stopped : stop symbol = true := by simpa using stops
  have inside := mem_expand (outside symbol stopped) member
  rw [free symbol inside] at stopped
  exact Bool.noConfusion stopped

theorem expand_takeWhile (source : List Char) :
    (expand (withText platform text) params source).takeWhile (fun symbol => !ends symbol) =
      expand (withText platform text) params (source.takeWhile fun symbol => !ends symbol) := by
  have keep : ∀ {free : List Char}, (∀ symbol ∈ free, ends symbol = false) →
      ∀ symbol ∈ free, (!ends symbol) = true := by
    intro free none symbol member
    rw [none symbol member]
    rfl
  rcases split_first ends source with free | ⟨left, symbol, right, rfl, stops, free⟩
  · rw [List.takeWhile_eq_self_iff.mpr (keep free),
      List.takeWhile_eq_self_iff.mpr (keep (free_expand (fun _ => component_ends) free))]
  · rw [expand_barrier (barrier_ends stops), List.takeWhile_append_of_pos (keep free),
      List.takeWhile_append_of_pos (keep (free_expand (fun _ => component_ends) free)),
      List.takeWhile_cons_of_neg (by simp [stops]), List.takeWhile_cons_of_neg (by simp [stops]),
      List.append_nil, List.append_nil]

/-- The stops of a text stay, and no value brings one in. -/
theorem expand_splitOnP {stop : Char → Bool}
    (barrier : ∀ symbol, stop symbol = true → Barrier symbol)
    (outside : ∀ symbol, stop symbol = true → componentChar symbol = false)
    (source : List Char) :
    (expand (withText platform text) params source).splitOnP stop =
      (source.splitOnP stop).map (expand (withText platform text) params) := by
  induction size : source.length using Nat.strong_induction_on generalizing source with
  | _ bound ih =>
      rcases split_first stop source with free | ⟨left, symbol, right, rfl, stops, free⟩
      · rw [List.splitOnP_eq_singleton free,
          List.splitOnP_eq_singleton (free_expand outside free)]
        rfl
      · have shorter : right.length < bound := by
          rw [← size, List.length_append, List.length_cons]
          omega
        rw [expand_barrier (barrier symbol stops), List.splitOnP_append_cons _ _ stops,
          List.splitOnP_append_cons _ _ stops, List.splitOnP_eq_singleton free,
          List.splitOnP_eq_singleton (free_expand outside free),
          ih right.length shorter right rfl]
        rfl

theorem templateSegments_expand (template : List Char) :
    templateSegments (expand (withText platform text) params template) =
      (templateSegments template).map (expand (withText platform text) params) := by
  rw [templateSegments, expand_takeWhile,
    expand_splitOnP (fun _ => barrier_slash) fun _ => component_slash]
  rfl

theorem urlSegments_base (base : BaseUrl) (template : List Char) :
    urlSegments (base.text ++ '/' :: expand (withText platform text) params template) =
      normalise (segments base.path ++
        (templateSegments template).map (expand (withText platform text) params)) := by
  rw [urlSegments, base.rawPath_text, base.segments_append, ← templateSegments_expand]
  rfl

end Templates

/-! ### Steps -/

section Steps

variable {directory inner : List (List Char)} {last : List Char}

theorem enter_plain {segment : List Char} (plain : dots segment = false)
    (path : List (List Char)) : enter path segment = path ++ [segment] := by
  obtain ⟨notSingle, notDouble⟩ := Bool.or_eq_false_iff.mp plain
  simp only [enter, notSingle, notDouble, Bool.false_eq_true, if_false]

theorem enter_length (path : List (List Char)) (segment : List Char) :
    (enter path segment).length ≤ path.length + 1 ∧
      ((enter path segment).length = path.length + 1 → dots segment = false) := by
  cases plain : dots segment with
  | false =>
      rw [enter_plain plain, List.length_append]
      exact ⟨Nat.le_refl _, fun _ => rfl⟩
  | true =>
      have shorter : (enter path segment).length ≤ path.length := by
        unfold enter
        split
        · rw [List.length_dropLast]
          omega
        · next notDouble =>
            have single : singleDot segment = true := by
              simpa [dots, notDouble] using plain
            rw [if_pos single]
      constructor
      · omega
      · intro longer
        omega

theorem foldl_enter_plain (plain : ∀ segment ∈ inner, dots segment = false)
    (path : List (List Char)) : inner.foldl enter path = path ++ inner := by
  induction inner generalizing path with
  | nil => rw [List.foldl_nil, List.append_nil]
  | cons segment rest ih =>
      rw [List.foldl_cons, enter_plain (plain segment List.mem_cons_self),
        ih fun other member => plain other (List.mem_cons_of_mem segment member), List.append_assoc]
      rfl

theorem foldl_enter_length (inner path : List (List Char)) :
    (inner.foldl enter path).length ≤ path.length + inner.length ∧
      ((inner.foldl enter path).length = path.length + inner.length →
        ∀ segment ∈ inner, dots segment = false) := by
  induction inner generalizing path with
  | nil => exact ⟨Nat.le_refl _, fun _ segment member => absurd member List.not_mem_nil⟩
  | cons first rest ih =>
      obtain ⟨short, same⟩ := enter_length path first
      obtain ⟨bound, plain⟩ := ih (enter path first)
      rw [List.foldl_cons, List.length_cons]
      refine ⟨by omega, fun full segment member => ?_⟩
      rcases List.mem_cons.mp member with rfl | inside
      · exact same (by omega)
      · exact plain (by omega) segment inside

/-- What is left of a last segment. -/
def remains (segment : List Char) : List Char := if dots segment then [] else segment

theorem finish_length (path : List (List Char)) (segment : List Char) :
    (finish path segment).length ≤ path.length + 1 ∧
      ((finish path segment).length = path.length + 1 → doubleDot segment = true → path = []) := by
  unfold finish
  split
  · rw [List.length_append, List.length_dropLast, List.length_singleton]
    refine ⟨by omega, fun full _ => List.length_eq_zero_iff.mp (by omega)⟩
  · next notDouble =>
      split <;>
      · rw [List.length_append, List.length_singleton]
        exact ⟨Nat.le_refl _, fun _ double => absurd double notDouble⟩

theorem finish_remains {path : List (List Char)}
    (top : doubleDot last = true → path = []) : finish path last = path ++ [remains last] := by
  unfold finish remains dots
  cases double : doubleDot last with
  | true =>
      rw [top double]
      simp
  | false =>
      cases single : singleDot last <;> simp

theorem normalise_append (before inner : List (List Char)) (last : List Char) :
    normalise (before ++ (inner ++ [last])) =
      finish (inner.foldl enter (before.foldl enter [])) last := by
  unfold normalise
  rw [← List.append_assoc, List.getLast?_concat, List.dropLast_concat, List.foldl_append]

/-- As many segments are left as there were exactly if none of them is a step, but for a last one
that leads nowhere. -/
theorem kept_iff :
    (finish (inner.foldl enter directory) last).length = directory.length + (inner.length + 1) ↔
      (∀ segment ∈ inner, dots segment = false) ∧
        (doubleDot last = true → directory = [] ∧ inner = []) := by
  constructor
  · intro full
    obtain ⟨bound, plain⟩ := foldl_enter_length inner directory
    obtain ⟨short, top⟩ := finish_length (inner.foldl enter directory) last
    have all := plain (by omega)
    refine ⟨all, fun double => ?_⟩
    have empty := top (by omega) double
    rw [foldl_enter_plain all] at empty
    exact List.append_eq_nil_iff.mp empty
  · intro fits
    obtain ⟨plain, top⟩ := fits
    rw [foldl_enter_plain plain, finish_remains, List.length_append, List.length_append,
      List.length_singleton, Nat.add_assoc]
    intro double
    obtain ⟨rfl, rfl⟩ := top double
    rfl

theorem kept_segments (plain : ∀ segment ∈ inner, dots segment = false)
    (top : doubleDot last = true → directory = [] ∧ inner = []) :
    finish (inner.foldl enter directory) last = directory ++ (inner ++ [remains last]) := by
  rw [foldl_enter_plain plain, finish_remains, List.append_assoc]
  intro double
  obtain ⟨rfl, rfl⟩ := top double
  rfl

end Steps

/-! ### Values of dots -/

/-- An encoded value is a step only if the value is. -/
theorem dots_encodeURIComponent (value : String) :
    dots (encodeURIComponent value).toList = true ↔ value = "." ∨ value = ".." := by
  constructor
  · intro steps
    have decoded : value =
        decodeURIComponent (String.ofList (encodeURIComponent value).toList) := by
      rw [String.ofList_toList, decodeURIComponent_encodeURIComponent]
    rcases (Bool.or_eq_true _ _).mp steps with single | double
    · have known : ∀ sign ∈ dotSigns, decodeURIComponent (String.ofList sign) = "." := by
        decide +kernel
      rw [decoded]
      exact .inl (known _ (List.contains_iff_mem.mp single))
    · have known : ∀ first ∈ dotSigns, ∀ second ∈ dotSigns,
          decodeURIComponent (String.ofList (first ++ second)) = ".." := by
        decide +kernel
      obtain ⟨first, listed, rest⟩ := List.any_eq_true.mp double
      obtain ⟨second, also, same⟩ := List.any_eq_true.mp rest
      rw [decoded, eq_of_beq same]
      exact .inr (known first listed second also)
  · intro step
    rcases step with rfl | rfl <;> decide +kernel

/-! ### Templates -/

/-- A segment that consists of one placeholder. -/
def Placeholder (word segment : List Char) : Prop :=
  word ≠ [] ∧ (∀ symbol ∈ word, wordUnit symbol = true) ∧
    (segment = '{' :: word ++ ['}'] ∨ segment = ':' :: word)

/-- The URL of a template below a base URL. -/
def templateUrl (platform : HttpPlatform) (config : InternalAdapterConfig) (base : BaseUrl)
    (template : String) (params : JsValue) : List Char :=
  (buildUrl platform { config with baseUrl := String.ofList base.text } template params).toList

section Placement

variable (platform : HttpPlatform) (text : JsValue → String) (config : InternalAdapterConfig)
variable (base : BaseUrl) (template : String) (params : JsValue)

/-- Only the template is filled in; the path of the URL, normalised, is that of the base URL and
one segment for each of the template, and a placeholder's segment decodes to the value. -/
structure StaysInPlace : Prop where
  baseKept : templateUrl (withText platform text) config base template params =
    base.text ++ '/' :: expand (withText platform text) params template.toList
  placed : ∃ rest,
    urlSegments (templateUrl (withText platform text) config base template params) =
      base.directory ++ rest ∧
    rest.length = (templateSegments template.toList).length ∧
    ∀ pair ∈ (templateSegments template.toList).zip rest, ∀ word, Placeholder word pair.1 →
      supplied params (String.ofList word) = true →
      decodeURIComponent (String.ofList pair.2) = text (params.field (String.ofList word))

/-- No parameter is named by the base URL, and none of the segments is a step: a placeholder has
no value of one or two dots, and another segment does not come out as one, but for a last segment
that leads nowhere. -/
structure Harmless : Prop where
  named : ∀ key ∈ keys base.text, supplied params key = false
  values : ∀ segment ∈ templateSegments template.toList, ∀ word, Placeholder word segment →
    supplied params (String.ofList word) = true →
    text (params.field (String.ofList word)) ≠ "." ∧
      text (params.field (String.ofList word)) ≠ ".."
  inner : ∀ segment ∈ (templateSegments template.toList).dropLast,
    dots (expand (withText platform text) params segment) = false
  last : ∀ segment ∈ (templateSegments template.toList).getLast?,
    doubleDot (expand (withText platform text) params segment) = true →
      base.directory = [] ∧ (templateSegments template.toList).length = 1

variable {platform text config base template params}

theorem templateUrl_eq :
    templateUrl platform config base template params =
      expand platform params base.text ++ '/' :: expand platform params template.toList := by
  rw [templateUrl, buildUrl_toList, String.toList_ofList, expand_barrier (by decide)]

theorem lex_placeholder {word segment : List Char} (placeholder : Placeholder word segment) :
    ∃ piece, lex segment = [piece] ∧ piece.key = some (String.ofList word) := by
  obtain ⟨some_, letters, form⟩ := placeholder
  rcases form with braces | colon
  · refine ⟨.braces word, ?_, rfl⟩
    have word_ : (word ++ ['}']).takeWhile wordUnit = word := by
      rw [takeWhile_barrier (by decide), List.takeWhile_eq_self_iff.mpr letters]
    have after : (word ++ ['}']).dropWhile wordUnit = ['}'] := by
      rw [dropWhile_barrier (by decide), List.dropWhile_eq_nil_iff.mpr letters, List.nil_append]
    rw [braces, List.cons_append, lex, word_, after, if_neg some_, if_pos ⟨rfl, rfl⟩,
      List.tail_cons, lex_nil]
  · refine ⟨.colon word, ?_, rfl⟩
    have after : word.dropWhile wordUnit = [] := List.dropWhile_eq_nil_iff.mpr letters
    rw [colon, lex, List.takeWhile_eq_self_iff.mpr letters, after, if_neg some_,
      if_neg (by decide), if_pos rfl, lex_nil]

theorem expand_placeholder {word segment : List Char} (placeholder : Placeholder word segment)
    (given : supplied params (String.ofList word) = true) :
    expand (withText platform text) params segment =
      (encodeURIComponent (text (params.field (String.ofList word)))).toList := by
  obtain ⟨piece, lexed, own⟩ := lex_placeholder placeholder
  rw [expand, lexed, List.flatMap_singleton, written_supplied own given]

theorem mem_zip_map {α β : Type} {f : α → β} {pair : α × β} {items : List α}
    (member : pair ∈ items.zip (items.map f)) : pair.1 ∈ items ∧ pair.2 = f pair.1 := by
  induction items with
  | nil => exact absurd member List.not_mem_nil
  | cons first rest ih =>
      rw [List.map_cons, List.zip_cons_cons, List.mem_cons] at member
      rcases member with rfl | inside
      · exact ⟨List.mem_cons_self, rfl⟩
      · obtain ⟨listed, same⟩ := ih inside
        exact ⟨List.mem_cons_of_mem first listed, same⟩

theorem dots_placeholder {word segment : List Char} (placeholder : Placeholder word segment)
    (given : supplied params (String.ofList word) = true) :
    dots (expand (withText platform text) params segment) = false ↔
      text (params.field (String.ofList word)) ≠ "." ∧
        text (params.field (String.ofList word)) ≠ ".." := by
  rw [expand_placeholder placeholder given, ← Bool.not_eq_true, dots_encodeURIComponent, not_or]

theorem decodes_placeholder {word segment : List Char} (placeholder : Placeholder word segment)
    (given : supplied params (String.ofList word) = true) :
    decodeURIComponent (String.ofList (expand (withText platform text) params segment)) =
      text (params.field (String.ofList word)) := by
  rw [expand_placeholder placeholder given, String.ofList_toList,
    decodeURIComponent_encodeURIComponent]

theorem templateSegments_split (template : List Char) : ∃ inner last,
    templateSegments template = inner ++ [last] := by
  rcases List.eq_nil_or_concat (templateSegments template) with empty | ⟨inner, last, whole⟩
  · exact absurd empty (List.splitOnP_ne_nil slash _)
  · exact ⟨inner, last, whole.trans List.concat_eq_append⟩

theorem baseKept_iff :
    templateUrl (withText platform text) config base template params =
        base.text ++ '/' :: expand (withText platform text) params template.toList ↔
      ∀ key ∈ keys base.text, supplied params key = false := by
  rw [templateUrl_eq, List.append_cancel_right_eq, expand_eq_iff]

/-- The segments of the template are filled in one by one, and the last one ends the path. -/
theorem urlSegments_filled {inner : List (List Char)} {last : List Char}
    (split : templateSegments template.toList = inner ++ [last]) :
    urlSegments (base.text ++ '/' :: expand (withText platform text) params template.toList) =
      finish ((inner.map (expand (withText platform text) params)).foldl enter base.directory)
        (expand (withText platform text) params last) := by
  rw [urlSegments_base, split, List.map_append, List.map_singleton, normalise_append]
  rfl

theorem StaysInPlace.harmless (stays : StaysInPlace platform text config base template params) :
    Harmless platform text base template params := by
  let fill := expand (withText platform text) params
  obtain ⟨inner, last, split⟩ := templateSegments_split template.toList
  obtain ⟨rest, ended, counted, decodes⟩ := stays.placed
  rw [stays.baseKept, urlSegments_filled split] at ended
  rw [split] at counted decodes
  have full : (finish ((inner.map fill).foldl enter base.directory) (fill last)).length =
      base.directory.length + ((inner.map fill).length + 1) := by
    rw [ended, List.length_append, counted, List.length_map, List.length_append,
      List.length_singleton]
  obtain ⟨plain, top⟩ := kept_iff.mp full
  rw [kept_segments plain top, List.append_cancel_left_eq] at ended
  have inside : ∀ segment ∈ inner, dots (fill segment) = false := fun segment member =>
    plain _ (List.mem_map_of_mem member)
  refine ⟨baseKept_iff.mp stays.baseKept, ?_, ?_, ?_⟩
  · intro segment member word placeholder given
    rw [split, List.mem_append, List.mem_singleton] at member
    rcases member with early | rfl
    · exact (dots_placeholder placeholder given).mp (inside segment early)
    · -- The segment of a value of dots would be left empty, and not decode to the value.
      apply (dots_placeholder placeholder given).mp
      have pair : (segment, remains (fill segment)) ∈ (inner ++ [segment]).zip rest := by
        rw [← ended, List.zip_append (List.length_map fill).symm]
        exact List.mem_append_right _ List.mem_cons_self
      have decoded := decodes _ pair word placeholder given
      by_contra noStep
      have steps : dots (fill segment) = true := by simpa using noStep
      rw [remains, if_pos steps] at decoded
      have value : text (params.field (String.ofList word)) = "" := decoded.symm
      have outcome := (@dots_placeholder platform text params word segment placeholder
        given).mpr (by rw [value]; decide)
      exact Bool.noConfusion (steps.symm.trans outcome)
  · intro segment member
    rw [split, List.dropLast_concat] at member
    exact inside segment member
  · intro segment member double
    rw [split, List.getLast?_concat] at member
    obtain rfl := Option.some.inj member
    obtain ⟨root, alone⟩ := top double
    refine ⟨root, ?_⟩
    rw [split, List.map_eq_nil_iff.mp alone]
    rfl

theorem Harmless.staysInPlace (harmless : Harmless platform text base template params) :
    StaysInPlace platform text config base template params := by
  let fill := expand (withText platform text) params
  obtain ⟨inner, last, split⟩ := templateSegments_split template.toList
  have plain : ∀ segment ∈ inner.map fill, dots segment = false := by
    intro segment member
    obtain ⟨source, listed, rfl⟩ := List.mem_map.mp member
    exact harmless.inner source (by rw [split, List.dropLast_concat]; exact listed)
  have top : doubleDot (fill last) = true → base.directory = [] ∧ inner.map fill = [] := by
    intro double
    obtain ⟨root, one⟩ := harmless.last last (by rw [split, List.getLast?_concat]; rfl) double
    rw [split, List.length_append, List.length_singleton] at one
    rw [List.length_eq_zero_iff.mp (show inner.length = 0 by omega)]
    exact ⟨root, rfl⟩
  have kept := (@baseKept_iff platform text config base template params).mpr harmless.named
  refine ⟨kept, inner.map fill ++ [remains (fill last)], ?_, ?_, ?_⟩
  · rw [kept, urlSegments_filled split, kept_segments plain top]
  · rw [split, List.length_append, List.length_append, List.length_map]
    rfl
  · intro pair member word placeholder given
    rw [split, List.zip_append (List.length_map fill).symm, List.mem_append] at member
    rcases member with early | final
    · obtain ⟨_, same⟩ := mem_zip_map early
      rw [same]
      exact decodes_placeholder placeholder given
    · have same : pair = (last, remains (fill last)) := by simpa using final
      subst same
      have listed : last ∈ templateSegments template.toList := by
        rw [split]
        exact List.mem_append_right inner List.mem_cons_self
      have noStep := (@dots_placeholder platform text params word last placeholder
        given).mpr (harmless.values last listed word placeholder given)
      have written : remains (fill last) = fill last := by
        rw [remains, noStep]
        rfl
      rw [written]
      exact decodes_placeholder placeholder given

theorem path_stays_iff :
    StaysInPlace platform text config base template params ↔
      Harmless platform text base template params :=
  ⟨StaysInPlace.harmless, Harmless.staysInPlace⟩

end Placement

/-! ### A value that climbs, and a port -/

def invoicesBase : BaseUrl where
  scheme := "http".toList
  authority := "localhost:8080".toList
  path := "/invoices".toList
  schemeEnds := by
    have all : ("http".toList.all fun symbol => symbol != ':') = true := by decide
    intro symbol member
    exact bne_iff_ne.mp (List.all_eq_true.mp all symbol member)
  authorityEnds := by
    have all : ("localhost:8080".toList.all fun symbol => !slash symbol && !ends symbol) = true := by
      decide
    intro symbol member
    have free := List.all_eq_true.mp all symbol member
    rwa [Bool.and_eq_true, Bool.not_eq_true', Bool.not_eq_true'] at free
  rooted := .inr ⟨'/', "invoices".toList, rfl, rfl⟩
  pathEnds := by
    have all : ("/invoices".toList.all fun symbol => !ends symbol) = true := by decide
    intro symbol member
    have free := List.all_eq_true.mp all symbol member
    rwa [Bool.not_eq_true'] at free

def shownText : JsValue → String := NumberTexts.plain.stringOf JsValue.toISOString

/-- `{id}/detail` for the id `..`, and for a parameter that is named as the port. -/
theorem leaves_segment :
    ¬ StaysInPlace paymentPlatform shownText paymentAdapter invoicesBase "{id}/detail"
        (.obj [("id", .str "..")]) ∧
      ¬ StaysInPlace paymentPlatform shownText paymentAdapter invoicesBase "{id}/detail"
        (.obj [("id", .str "INV-1"), ("8080", .str "x")]) := by
  constructor
  · intro stays
    obtain ⟨rest, path, _⟩ := stays.placed
    have climbed : urlSegments (templateUrl (withText paymentPlatform shownText) paymentAdapter
        invoicesBase "{id}/detail" (.obj [("id", .str "..")])) = ["detail".toList] := by
      decide +kernel
    have below : invoicesBase.directory = ["invoices".toList] := by decide +kernel
    rw [climbed, below, List.cons_append] at path
    exact absurd (List.cons.inj path).1 (by decide)
  · intro stays
    have begins : invoicesBase.text <+: templateUrl (withText paymentPlatform shownText)
        paymentAdapter invoicesBase "{id}/detail"
        (.obj [("id", .str "INV-1"), ("8080", .str "x")]) := ⟨_, stays.baseKept.symm⟩
    exact absurd begins (by decide +kernel)

end InternalAdapterBase

end SelfService

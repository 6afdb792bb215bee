/-
What the two cache services share.

Both services prefix their keys, keep a value with an optional expiry, and
delete by glob pattern.  They differ in what a value becomes when it is stored,
in when it counts as expired and in the pattern dialect.
-/

import SelfService.Core.JsValue
import SelfService.Data.Glob
import SelfService.Data.OrderedMap
import Mathlib.Tactic.Common

namespace SelfService

open Data

/-- The options of both constructors, defaults resolved. -/
structure CacheOptions where
  defaultTtl : Nat
  keyPrefix : String
  maxEntries : Nat
  deriving DecidableEq, Repr

/-- The defaults `defaultTtl || 300`, `keyPrefix || ''` and `maxEntries || 1000`. -/
def CacheOptions.resolve (defaultTtl : Option Nat) (keyPrefix : Option String)
    (maxEntries : Option Nat) : CacheOptions where
  defaultTtl := if defaultTtl.getD 0 = 0 then 300 else defaultTtl.getD 0
  keyPrefix := keyPrefix.getD ""
  maxEntries := if maxEntries.getD 0 = 0 then 1000 else maxEntries.getD 0

def getFullKey (options : CacheOptions) (key : String) : String :=
  if options.keyPrefix = "" then key else options.keyPrefix ++ ":" ++ key

theorem getFullKey_injective (options : CacheOptions) {left right : String}
    (same : getFullKey options left = getFullKey options right) : left = right := by
  unfold getFullKey at same
  split at same
  · exact same
  · exact String.append_right_inj _ |>.mp same

/-- What stands before every key. -/
def keyBase (options : CacheOptions) : String :=
  if options.keyPrefix = "" then "" else options.keyPrefix ++ ":"

theorem getFullKey_eq (options : CacheOptions) (key : String) :
    getFullKey options key = keyBase options ++ key := by
  unfold getFullKey keyBase
  split
  · exact String.empty_append.symm
  · rfl

theorem getFullKey_append (options : CacheOptions) (key rest : String) :
    getFullKey options (key ++ rest) = getFullKey options key ++ rest := by
  rw [getFullKey_eq, getFullKey_eq, String.append_assoc]

/-- A stored value; `expiry` is an instant in milliseconds. -/
structure CacheEntry where
  value : JsValue
  expiry : Option Nat
  deriving DecidableEq

abbrev Store := OrderedMap String CacheEntry

/-- Both services let an entry live up to and including its expiry. -/
def CacheEntry.expired (entry : CacheEntry) (now : Nat) : Bool :=
  entry.expiry.any fun expiry => expiry < now

theorem CacheEntry.expired_mono {entry : CacheEntry} {now later : Nat} (order : now ≤ later)
    (expired : entry.expired now = true) : entry.expired later = true := by
  obtain ⟨value, expiry⟩ := entry
  cases expiry with
  | none => simp [CacheEntry.expired] at expired
  | some expiry =>
      simp only [CacheEntry.expired, Option.any_some, decide_eq_true_eq] at expired ⊢
      omega

/-! ### Pattern dialects -/

/-- The code units a JavaScript regular expression reads. -/
def utf16 (symbol : Char) : List Nat :=
  if symbol.toNat < 65536 then [symbol.toNat]
  else [55296 + (symbol.toNat - 65536) / 1024, 56320 + (symbol.toNat - 65536) % 1024]

/-- The bytes Redis reads. -/
def utf8 (symbol : Char) : List Nat :=
  let code := symbol.toNat
  if code < 128 then [code]
  else if code < 2048 then [192 + code / 64, 128 + code % 64]
  else if code < 65536 then [224 + code / 4096, 128 + code / 64 % 64, 128 + code % 64]
  else [240 + code / 262144, 128 + code / 4096 % 64, 128 + code / 64 % 64, 128 + code % 64]

def encode (units : Char → List Nat) (text : String) : List Nat := text.toList.flatMap units

def encodeURIComponent (text : String) : String :=
  let digits := "0123456789ABCDEF".toList
  let escaped (byte : Nat) : List Char :=
    ['%', digits.getD (byte / 16) '0', digits.getD (byte % 16) '0']
  String.ofList (text.toList.flatMap fun symbol =>
    if symbol.isAlphanum || "-_.!~*'()".toList.contains symbol then [symbol]
    else (utf8 symbol).flatMap escaped)

example : encodeURIComponent "a b/đ" = "a%20b%2F%C4%91" := by decide

theorem encode_append (units : Char → List Nat) (left right : String) :
    encode units (left ++ right) = encode units left ++ encode units right := by
  rw [encode, String.toList_append, List.flatMap_append, encode, encode]

theorem encode_head {units : Char → List Nat} {key : String} {symbol : Char} {text : List Char}
    (begins : key.toList = symbol :: text) (single : units symbol = [symbol.toNat]) :
    encode units key = symbol.toNat :: text.flatMap units := by
  rw [encode, begins, List.flatMap_cons, single, List.singleton_append]

/-- The `.` of a regular expression without flags: anything but a line terminator. -/
def dot (unit : Nat) : Bool := unit != 10 && unit != 13 && unit != 8232 && unit != 8233

/-- In `MemoryCacheService.globToRegex`, `*` and `?` are wild, and everything else,
brackets included, is escaped. -/
def globToRegex (pattern : List Nat) : List (GlobToken Nat) :=
  pattern.map fun unit =>
    if unit = 42 then .many dot else if unit = 63 then .one dot else .literal unit

/-- Where a Redis pattern is being read: outside brackets, or inside a class that
accepts `members` so far. -/
inductive GlobPosition : Type
  | outside
  | inside (negated : Bool) (members : Nat → Bool)

/-- The pattern language of the Redis `KEYS` command: `*`, `?`, `[...]`, `[^...]`
and the backslash. -/
def redisGlob : GlobPosition → List Nat → List (GlobToken Nat)
  | .outside, [] => []
  | .inside negated members, [] => [.one fun unit => xor negated (members unit)]
  | .outside, unit :: rest =>
      if unit = 42 then .many (fun _ => true) :: redisGlob .outside rest
      else if unit = 63 then .one (fun _ => true) :: redisGlob .outside rest
      else if unit = 92 then
        match rest with
        | [] => [.literal unit]
        | escaped :: rest => .literal escaped :: redisGlob .outside rest
      else if unit = 91 then
        match rest with
        | 94 :: rest => redisGlob (.inside true fun _ => false) rest
        | rest => redisGlob (.inside false fun _ => false) rest
      else .literal unit :: redisGlob .outside rest
  | .inside negated members, unit :: rest =>
      if unit = 93 then
        .one (fun other => xor negated (members other)) :: redisGlob .outside rest
      else if unit = 92 then
        match rest with
        | [] => redisGlob (.inside negated fun other => members other || other = unit) []
        | escaped :: rest =>
            redisGlob (.inside negated fun other => members other || other = escaped) rest
      else
        match rest with
        | 45 :: last :: rest =>
            redisGlob (.inside negated fun other =>
              members other || (min unit last ≤ other && other ≤ max unit last)) rest
        | rest => redisGlob (.inside negated fun other => members other || other = unit) rest

/-- No symbol of the text means anything special in either dialect. -/
def plainText (text : String) : Bool :=
  text.toList.all fun symbol => !(['*', '?', '[', '\\'].contains symbol)

theorem plainText_append (left right : String) :
    plainText (left ++ right) = (plainText left && plainText right) := by
  rw [plainText, String.toList_append, List.all_append, plainText, plainText]

theorem plainText_keyBase {options : CacheOptions}
    (plainPrefix : plainText options.keyPrefix = true) : plainText (keyBase options) = true := by
  unfold keyBase
  split
  · decide
  · rw [plainText_append, plainPrefix]
    decide

theorem plainText_getFullKey {options : CacheOptions} {key : String}
    (plainPrefix : plainText options.keyPrefix = true) (plain : plainText key = true) :
    plainText (getFullKey options key) = true := by
  rw [getFullKey_eq, plainText_append, plainText_keyBase plainPrefix, plain, Bool.true_and]

theorem plain_of_mem {text : String} (plain : plainText text = true) {symbol : Char}
    (member : symbol ∈ text.toList) :
    symbol ≠ '*' ∧ symbol ≠ '?' ∧ symbol ≠ '[' ∧ symbol ≠ '\\' := by
  have checked := List.all_eq_true.mp plain symbol member
  simpa using checked

/-- A code unit that neither dialect treats specially. -/
def Ordinary (unit : Nat) : Prop := unit ≠ 42 ∧ unit ≠ 63 ∧ unit ≠ 91 ∧ unit ≠ 92

theorem ordinary_code {symbol : Char}
    (plain : symbol ≠ '*' ∧ symbol ≠ '?' ∧ symbol ≠ '[' ∧ symbol ≠ '\\') :
    Ordinary symbol.toNat := by
  obtain ⟨star, question, bracket, backslash⟩ := plain
  constructor
  · intro same
    exact star (Char.toNat_inj.mp same)
  constructor
  · intro same
    exact question (Char.toNat_inj.mp same)
  constructor
  · intro same
    exact bracket (Char.toNat_inj.mp same)
  · intro same
    exact backslash (Char.toNat_inj.mp same)

theorem utf16_ordinary {text : String} (plain : plainText text = true) :
    ∀ unit ∈ encode utf16 text, Ordinary unit := by
  intro unit member
  obtain ⟨symbol, inText, inUnits⟩ := List.mem_flatMap.mp member
  have ordinary := ordinary_code (plain_of_mem plain inText)
  unfold utf16 at inUnits
  split at inUnits
  · rw [List.mem_singleton.mp inUnits]
    exact ordinary
  · simp only [List.mem_cons, List.not_mem_nil, or_false] at inUnits
    unfold Ordinary
    rcases inUnits with high | low <;> omega

theorem utf8_ordinary {text : String} (plain : plainText text = true) :
    ∀ unit ∈ encode utf8 text, Ordinary unit := by
  intro unit member
  obtain ⟨symbol, inText, inUnits⟩ := List.mem_flatMap.mp member
  have ordinary := ordinary_code (plain_of_mem plain inText)
  unfold utf8 at inUnits
  simp only at inUnits
  split at inUnits
  · rw [List.mem_singleton.mp inUnits]
    exact ordinary
  · unfold Ordinary
    split at inUnits
    · simp only [List.mem_cons, List.not_mem_nil, or_false] at inUnits
      omega
    · split at inUnits
      · simp only [List.mem_cons, List.not_mem_nil, or_false] at inUnits
        omega
      · simp only [List.mem_cons, List.not_mem_nil, or_false] at inUnits
        omega

theorem globToRegex_append (left right : List Nat) :
    globToRegex (left ++ right) = globToRegex left ++ globToRegex right := List.map_append

theorem globToRegex_word {word : List Nat} (ordinary : ∀ unit ∈ word, Ordinary unit) :
    globToRegex word = word.map GlobToken.literal := by
  apply List.map_congr_left
  intro unit member
  obtain ⟨star, question, -, -⟩ := ordinary unit member
  rw [if_neg star, if_neg question]

/-- The shape every pattern of the program has: a plain text and one star. -/
theorem globToRegex_plain {word : List Nat} (ordinary : ∀ unit ∈ word, Ordinary unit) :
    globToRegex (word ++ [42]) = word.map GlobToken.literal ++ [.many dot] := by
  rw [globToRegex_append, globToRegex_word ordinary]
  rfl

theorem redisGlob_append {word : List Nat} (ordinary : ∀ unit ∈ word, Ordinary unit)
    (rest : List Nat) :
    redisGlob .outside (word ++ rest) =
      word.map GlobToken.literal ++ redisGlob .outside rest := by
  induction word with
  | nil => rfl
  | cons unit word ih =>
      have head := ordinary unit (by simp)
      have tail := ih fun other member => ordinary other (List.mem_cons_of_mem unit member)
      rw [List.cons_append, redisGlob.eq_def]
      simp only [if_neg head.1, if_neg head.2.1, if_neg head.2.2.1, if_neg head.2.2.2, tail]
      rfl

theorem redisGlob_plain {word : List Nat} (ordinary : ∀ unit ∈ word, Ordinary unit) :
    redisGlob .outside (word ++ [42]) =
      word.map GlobToken.literal ++ [.many fun _ => true] := by
  rw [redisGlob_append ordinary]
  rfl

end SelfService

/-
Glob patterns over an arbitrary alphabet.

A compiled pattern is a list of tokens: `one` consumes a single symbol that it
accepts, `many` consumes any run of symbols that it accepts.  How a dialect
writes them down is not decided here.
-/

import Mathlib.Data.List.Basic

namespace Data

inductive GlobToken (α : Type) : Type
  | one (accepts : α → Bool)
  | many (accepts : α → Bool)

namespace GlobToken

variable {α : Type}

/-- Some split of the text into an accepted run and a rest that `rest` takes. -/
def takesRun (accepts : α → Bool) (rest : List α → Bool) : List α → Bool
  | [] => rest []
  | symbol :: text =>
      rest (symbol :: text) || (accepts symbol && takesRun accepts rest text)

def covers : List (GlobToken α) → List α → Bool
  | [], text => text.isEmpty
  | .one _ :: _, [] => false
  | .one accepts :: tokens, symbol :: text => accepts symbol && covers tokens text
  | .many accepts :: tokens, text => takesRun accepts (covers tokens) text

theorem takesRun_iff (accepts : α → Bool) (rest : List α → Bool) (text : List α) :
    takesRun accepts rest text = true ↔
      ∃ run tail, text = run ++ tail ∧ (∀ symbol ∈ run, accepts symbol = true) ∧
        rest tail = true := by
  induction text with
  | nil =>
      constructor
      · intro taken
        exact ⟨[], [], rfl, by simp, taken⟩
      · rintro ⟨run, tail, same, -, taken⟩
        obtain ⟨rfl, rfl⟩ := List.append_eq_nil_iff.mp same.symm
        exact taken
  | cons symbol text ih =>
      rw [takesRun, Bool.or_eq_true, Bool.and_eq_true, ih]
      constructor
      · rintro (taken | ⟨accepted, run, tail, rfl, all, taken⟩)
        · exact ⟨[], symbol :: text, rfl, by simp, taken⟩
        · refine ⟨symbol :: run, tail, rfl, ?_, taken⟩
          intro other member
          rcases List.mem_cons.mp member with rfl | later
          · exact accepted
          · exact all other later
      · rintro ⟨run, tail, same, all, taken⟩
        cases run with
        | nil =>
            left
            rw [same]
            exact taken
        | cons head run =>
            right
            obtain ⟨rfl, rfl⟩ := List.cons.inj same
            exact ⟨all symbol (by simp), run, tail, rfl,
              fun other member => all other (List.mem_cons_of_mem symbol member), taken⟩

variable [DecidableEq α]

/-- The token of an ordinary symbol. -/
def literal (symbol : α) : GlobToken α := .one fun other => other = symbol

theorem covers_literals_append (word : List α) (tokens : List (GlobToken α)) (text : List α) :
    covers (word.map literal ++ tokens) (word ++ text) = covers tokens text := by
  induction word with
  | nil => rfl
  | cons symbol word ih => simp [covers, literal, ih]

/-- A pattern that begins with other literals than the text does not cover it. -/
theorem covers_literal_ne {symbol other : α} (different : other ≠ symbol)
    (tokens : List (GlobToken α)) (text : List α) :
    covers (literal symbol :: tokens) (other :: text) = false := by
  simp [covers, literal, different]

/-- The pattern `word*`. -/
theorem covers_word_many (word : List α) (accepts : α → Bool) (text : List α) :
    covers (word.map literal ++ [.many accepts]) text = true ↔
      ∃ rest, text = word ++ rest ∧ ∀ symbol ∈ rest, accepts symbol = true := by
  induction word generalizing text with
  | nil =>
      rw [List.map_nil, List.nil_append, covers, takesRun_iff]
      constructor
      · rintro ⟨run, tail, rfl, all, empty⟩
        rw [covers, List.isEmpty_iff] at empty
        subst empty
        exact ⟨run, by simp, all⟩
      · rintro ⟨rest, same, all⟩
        exact ⟨rest, [], by simpa using same, all, rfl⟩
  | cons symbol word ih =>
      cases text with
      | nil => simp [covers, literal]
      | cons head text =>
          by_cases same : head = symbol
          · subst same
            have step : covers ((head :: word).map literal ++ [.many accepts]) (head :: text) =
                covers (word.map literal ++ [.many accepts]) text := by
              simp [covers, literal]
            rw [step, ih]
            simp
          · have missed : covers ((symbol :: word).map literal ++ [.many accepts])
                (head :: text) = false := covers_literal_ne same _ _
            rw [missed]
            simp [same]

end GlobToken

end Data

/-
Two conventions for the names of methods.

The adapter tells reads from writes by how a name begins, to choose the HTTP verb;
the registry does so with a list of its own, to choose what it caches.
-/

import SelfService.Port.OutboundIdempotency

namespace SelfService

open PortRegistry InternalAdapterBase

/-- What the adapter sends as PUT or DELETE the registry takes for a mutation, and what it
sends as GET for a read. -/
def ConventionsAgree (config : InternalAdapterConfig) (method : String) : Prop :=
  (resolveHttpMethod config method = .put ∨ resolveHttpMethod config method = .delete →
      isMutationMethod method = true) ∧
    (resolveHttpMethod config method = .get → isMutationMethod method = false)

/-- No name begins both ways. -/
def exclude (starts others : List String) : Bool :=
  starts.all fun start => others.all fun other =>
    !startsWith start other && !startsWith other start

theorem isMutationMethod_eq (method : String) :
    isMutationMethod method = mutationVerbs.any (startsWith method) := rfl

theorem startsWith_iff {method start : String} :
    startsWith method start = true ↔ start.toList <+: method.toList :=
  List.isPrefixOf_iff_prefix

theorem any_of_startsWith {method start : String} {starts : List String}
    (begins : startsWith method start = true) (listed : start ∈ starts) :
    starts.any (startsWith method) = true :=
  List.any_eq_true.mpr ⟨start, listed, begins⟩

/-- A name that begins one way does not begin the other. -/
theorem none_of_exclude {starts others : List String} (apart : exclude starts others = true)
    {method : String} (begins : starts.any (startsWith method) = true) :
    others.any (startsWith method) = false := by
  obtain ⟨start, listed, first⟩ := List.any_eq_true.mp begins
  rw [List.any_eq_false]
  intro other otherListed second
  have never := List.all_eq_true.mp (List.all_eq_true.mp apart start listed) other otherListed
  rw [startsWith_iff] at first second
  rcases List.prefix_or_prefix_of_prefix first second with within | within
  · simp [startsWith_iff.mpr within] at never
  · simp [startsWith_iff.mpr within] at never

section Conventions

variable {config : InternalAdapterConfig} {method : String}
  (unmapped : config.methodMap.lookup method = none)
include unmapped

theorem resolve_get (sent : resolveHttpMethod config method = .get) :
    ["get-", "search", "list"].any (startsWith method) = true := by
  simp only [resolveHttpMethod, unmapped] at sent
  split at sent
  · assumption
  · split at sent
    · cases sent
    · split at sent
      · cases sent
      · cases sent

theorem resolve_put (sent : resolveHttpMethod config method = .put) :
    ["update", "edit"].any (startsWith method) = true := by
  simp only [resolveHttpMethod, unmapped] at sent
  split at sent
  · cases sent
  · split at sent
    · assumption
    · split at sent
      · cases sent
      · cases sent

theorem resolve_delete (sent : resolveHttpMethod config method = .delete) :
    ["delete", "remove", "cancel"].any (startsWith method) = true := by
  simp only [resolveHttpMethod, unmapped] at sent
  split at sent
  · cases sent
  · split at sent
    · cases sent
    · split at sent
      · assumption
      · cases sent

/-- What begins with `edit` is sent as PUT. -/
theorem resolve_edit (edits : startsWith method "edit" = true) :
    resolveHttpMethod config method = .put := by
  have listed : ["update", "edit"].any (startsWith method) = true :=
    any_of_startsWith edits (by decide)
  have unread : ["get-", "search", "list"].any (startsWith method) = false :=
    none_of_exclude (by decide) listed
  simp only [resolveHttpMethod, unmapped, unread, listed, if_true, Bool.false_eq_true, if_false]

/-- The conventions agree on every name without an entry of its own that does not begin with
`edit`, and on no other. -/
theorem conventions_agree_iff :
    ConventionsAgree config method ↔ startsWith method "edit" = false := by
  constructor
  · intro agree
    by_contra edits
    rw [Bool.not_eq_false] at edits
    have mutates := agree.1 (Or.inl (resolve_edit unmapped edits))
    have reads : mutationVerbs.any (startsWith method) = false :=
      none_of_exclude (by decide) (any_of_startsWith edits (List.mem_singleton.mpr rfl))
    rw [isMutationMethod_eq, reads] at mutates
    cases mutates
  · intro other
    constructor
    · rintro (put | delete)
      · have begins := resolve_put unmapped put
        simp only [List.any_cons, other, List.any_nil, Bool.or_false] at begins
        exact any_of_startsWith begins (by decide)
      · obtain ⟨start, listed, begins⟩ := List.any_eq_true.mp (resolve_delete unmapped delete)
        exact any_of_startsWith begins
          ((by decide : ["delete", "remove", "cancel"] ⊆ mutationVerbs) listed)
    · intro get
      exact none_of_exclude (by decide) (resolve_get unmapped get)

end Conventions

/-- An adapter without a method map. -/
def plainAdapter : InternalAdapterConfig := ⟨"incident", "http://incident", 3000, []⟩

theorem conventions_agree_iff_update :
    ConventionsAgree plainAdapter "update-incident-status" ↔
      startsWith "update-incident-status" "edit" = false :=
  conventions_agree_iff rfl

/-- A PUT that is cached. -/
theorem edit_disagrees : resolveHttpMethod plainAdapter "edit-contract" = .put ∧
    isMutationMethod "edit-contract" = false ∧ ¬ ConventionsAgree plainAdapter "edit-contract" := by
  have put : resolveHttpMethod plainAdapter "edit-contract" = .put := by decide
  have read : isMutationMethod "edit-contract" = false := by decide
  refine ⟨put, read, ?_⟩
  intro agree
  have mutates := agree.1 (Or.inl put)
  rw [read] at mutates
  cases mutates

end SelfService

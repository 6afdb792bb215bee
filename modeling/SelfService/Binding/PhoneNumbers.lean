/-
The normal form of phone numbers.

A subscriber number is written with a leading zero or after the country code, with anything but
digits between its digits.  Both mocks strip the country code before the zeros, so a number that
begins with 84 keeps it after a zero.
-/

import SelfService.Binding.CustomerIds

namespace SelfService

open MockCustomerServiceClient

/-- From `normalizePhone` of the profile mock, a copy of the one of the binding mock. -/
def MockCustomerProfileAdapter.normalizePhone (phone : String) : String :=
  let digits := phone.toList.filter Char.isDigit
  let national := if ['8', '4'] <+: digits then digits.drop 2 else digits
  String.ofList (national.dropWhile fun digit => digit = '0')

structure SubscriberNumber where
  digits : List Char
  nonempty : digits ≠ []
  allDigits : ∀ symbol ∈ digits, symbol.isDigit = true
  noZero : digits.head? ≠ some '0'

/-- The text with characters put in that are no digits. -/
inductive Interspersed : List Char → List Char → Prop
  | done : Interspersed [] []
  | keep (symbol : Char) {source text : List Char} (rest : Interspersed source text) :
      Interspersed (symbol :: source) (symbol :: text)
  | insert (symbol : Char) (noDigit : symbol.isDigit = false) {source text : List Char}
      (rest : Interspersed source text) : Interspersed source (symbol :: text)

namespace SubscriberNumber

def text (number : SubscriberNumber) : String := String.ofList number.digits

/-- A zero or the country code, with or without its plus sign, leads the number. -/
def Spells (number : SubscriberNumber) (phone : String) : Prop :=
  ∃ lead ∈ ["0", "84", "+84"], Interspersed (lead.toList ++ number.digits) phone.toList

theorem text_injective {number other : SubscriberNumber} (same : number.text = other.text) :
    number = other := by
  obtain ⟨digits, _, _, _⟩ := number
  obtain ⟨digits', _, _, _⟩ := other
  have equal : digits = digits' := by
    have lists := congrArg String.toList same
    rw [text, text, String.toList_ofList, String.toList_ofList] at lists
    exact lists
  subst equal
  rfl

theorem filter_digits (number : SubscriberNumber) :
    number.digits.filter Char.isDigit = number.digits :=
  List.filter_eq_self.mpr number.allDigits

theorem dropWhile_digits (number : SubscriberNumber) :
    (number.digits.dropWhile fun digit => digit = '0') = number.digits := by
  have first := number.noZero
  cases digits : number.digits with
  | nil => rfl
  | cons symbol rest =>
      rw [digits, List.head?_cons] at first
      apply List.dropWhile_cons_of_neg
      rw [decide_eq_true_eq]
      exact fun zero => first (congrArg some zero)

end SubscriberNumber

theorem Interspersed.filter {source text : List Char} (spread : Interspersed source text) :
    text.filter Char.isDigit = source.filter Char.isDigit := by
  induction spread with
  | done => rfl
  | keep symbol rest ih => rw [List.filter_cons, List.filter_cons, ih]
  | insert symbol noDigit rest ih => rw [List.filter_cons, noDigit, ih]; rfl

theorem interspersed_filter (text : List Char) :
    Interspersed (text.filter Char.isDigit) text := by
  induction text with
  | nil => exact .done
  | cons symbol rest ih =>
      rw [List.filter_cons]
      split
      · exact .keep symbol ih
      · rename_i noDigit
        exact .insert symbol (Bool.eq_false_iff.mpr noDigit) ih

/-- The digits of a spelling are those of the number, behind a zero or behind the country code. -/
theorem spells_iff {number : SubscriberNumber} {phone : String} :
    number.Spells phone ↔ phone.toList.filter Char.isDigit = '0' :: number.digits ∨
      phone.toList.filter Char.isDigit = '8' :: '4' :: number.digits := by
  constructor
  · intro spelled
    obtain ⟨lead, member, spread⟩ := spelled
    rw [spread.filter, List.filter_append, number.filter_digits]
    simp only [List.mem_cons, List.not_mem_nil, or_false] at member
    rcases member with rfl | rfl | rfl
    · exact .inl rfl
    · exact .inr rfl
    · exact .inr rfl
  · intro digits
    have spread := interspersed_filter phone.toList
    rcases digits with zero | country
    · rw [zero] at spread
      exact ⟨"0", by decide, spread⟩
    · rw [country] at spread
      exact ⟨"84", by decide, spread⟩

theorem normalizePhone_of_spelling {number : SubscriberNumber} {phone : String}
    (spelled : number.Spells phone) : normalizePhone phone = number.text := by
  unfold normalizePhone
  rcases spells_iff.mp spelled with zero | country
  · -- a zero is no country code, so a number that begins with 84 is left whole
    have local_ : ¬ ['8', '4'] <+: '0' :: number.digits := by
      rw [List.cons_prefix_cons]
      exact fun both => absurd both.1 (by decide)
    rw [zero]
    dsimp only
    rw [if_neg local_, List.dropWhile_cons_of_pos (by decide), number.dropWhile_digits]
    rfl
  · have abroad : ['8', '4'] <+: '8' :: '4' :: number.digits := List.prefix_append ['8', '4'] _
    rw [country]
    dsimp only
    rw [if_pos abroad]
    exact congrArg String.ofList number.dropWhile_digits

/-- Every spelling of a number is mapped to the number, by both copies of the function; so two
spellings get one key exactly if they are spellings of one number. -/
theorem phone_normal_form :
    (∀ (number : SubscriberNumber) (phone : String), number.Spells phone →
      normalizePhone phone = number.text) ∧
    (∀ (number other : SubscriberNumber) (phone twin : String), number.Spells phone →
      other.Spells twin → (normalizePhone phone = normalizePhone twin ↔ number = other)) ∧
    ∀ phone, MockCustomerProfileAdapter.normalizePhone phone = normalizePhone phone := by
  refine ⟨fun number phone => normalizePhone_of_spelling, ?_, fun phone => rfl⟩
  intro number other phone twin spelled spelledToo
  rw [normalizePhone_of_spelling spelled, normalizePhone_of_spelling spelledToo]
  constructor
  · exact SubscriberNumber.text_injective
  · exact congrArg SubscriberNumber.text

/-- A number that begins with the digits of the country code. -/
def codeLike : SubscriberNumber :=
  ⟨"845123456".toList, by decide, List.all_eq_true.mp (by decide), by decide⟩

theorem phone_normal_form_codeLike :
    normalizePhone "0845 123 456" = "845123456" ∧
      normalizePhone "0845 123 456" = normalizePhone "+84 845.123.456" := by
  have national : codeLike.Spells "0845 123 456" := spells_iff.mpr (by decide +kernel)
  have abroad : codeLike.Spells "+84 845.123.456" := spells_iff.mpr (by decide +kernel)
  obtain ⟨mapped, keys, -⟩ := phone_normal_form
  exact ⟨mapped codeLike _ national, (keys codeLike codeLike _ _ national abroad).mpr rfl⟩

/-- The binding mock does not tell the spellings of a number apart. -/
theorem same_customer {number : SubscriberNumber} {phone twin : String}
    (spelled : number.Spells phone) (spelledToo : number.Spells twin)
    (store : MockCustomerServiceClient) (profile : CreateCustomerRequest) :
    store.resolve phone = store.resolve twin ∧ store.create phone profile =
      store.create twin profile := by
  have same : normalizePhone phone = normalizePhone twin :=
    (normalizePhone_of_spelling spelled).trans (normalizePhone_of_spelling spelledToo).symm
  constructor
  · rw [resolve, resolve, matching, matching, same]
  · rw [create, create, same]

/-- The profile mock keeps the key that the binding mock looks for. -/
theorem phone_profileRow (customerId : String) (params : CustomerStore.ProfileRequest) :
    (CustomerStore.profileRow customerId params).phone = (params.phone.filter fun phone =>
      phone ≠ "").map MockCustomerProfileAdapter.normalizePhone := rfl

end SelfService

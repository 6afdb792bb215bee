/-
The parameters of a GET in its query string.

Every parameter is written as the text that `String` gives of its value.  The names
and the texts can be read back from the query, and from the URL; the values can as far
as their texts tell them apart.  A nested object has the same text as any other.
-/

import SelfService.Port.PathParameters

namespace SelfService

open InternalAdapterBase

namespace PortHttpClient

/-- The values that services pass: no arrays and no dates. -/
def passed : JsValue → Bool
  | .arr _ | .date _ => false
  | _ => true

/-- `String` throws for an object with a property `toString` of its own: none that is passed can
be called. -/
def unreadable : JsValue → Bool
  | .obj fields => (fields.lookup "toString").isSome
  | _ => false

/-- The parameters of a call. -/
structure Params where
  fields : List (String × JsValue)
  distinct : (fields.map Prod.fst).Nodup
  values : ∀ field ∈ fields, passed field.2 = true

/-- What is left when `null` and `undefined` are dropped. -/
def Params.present (params : Params) : List (String × JsValue) :=
  params.fields.filter fun field => !field.2.isNullish

/-- A method of an adapter that goes out as a GET. -/
structure GetOperation where
  config : InternalAdapterConfig
  method : String
  get : resolveHttpMethod config method = .get

section Requests

variable (numbers : NumberTexts) (dates : Nat → String) (platform : HttpPlatform)

def written : HttpPlatform := withText platform (numbers.stringOf dates)

/-- The query string of a request, if every value has a text. -/
def queryOf (params : Params) : Option String :=
  if params.present.any fun field => unreadable field.2 then none
  else some (queryString (written numbers dates platform) (.obj params.fields))

/-- The URL of a request. -/
def urlOf (operation : GetOperation) (params : Params) : Option String :=
  if params.present.any fun field => unreadable field.2 then none
  else some (finalUrl (written numbers dates platform)
    (portRequest (written numbers dates platform) operation.config operation.method
      (.obj params.fields)))

/-- The names of the parameters, with their texts. -/
def texts (params : Params) : List (String × String) :=
  params.present.map fun field => (field.1, numbers.stringOf dates field.2)

def pairText (pair : String × String) : List Char :=
  (encodeURIComponent pair.1).toList ++ '=' :: (encodeURIComponent pair.2).toList

def readPair (piece : List Char) : String × String :=
  (decodeURIComponent (String.ofList (piece.takeWhile fun symbol => symbol != '=')),
    decodeURIComponent (String.ofList (piece.dropWhile fun symbol => symbol != '=').tail))

/-- The names and texts of a query. -/
def readQuery (query : String) : List (String × String) :=
  if query = "" then [] else (query.toList.splitOn '&').map readPair

variable {numbers dates platform}

theorem readPair_pairText (pair : String × String) : readPair (pairText pair) = pair := by
  have free : ∀ symbol ∈ (encodeURIComponent pair.1).toList, (symbol != '=') = true := by
    intro symbol member
    rw [bne_iff_ne]
    rintro rfl
    exact not_mem_component (by decide) pair.1 member
  rw [readPair, pairText, List.takeWhile_append_of_pos free, List.dropWhile_append_of_pos free,
    List.takeWhile_cons_of_neg (by decide), List.dropWhile_cons_of_neg (by decide),
    List.append_nil, List.tail_cons, String.ofList_toList, String.ofList_toList,
    decodeURIComponent_encodeURIComponent, decodeURIComponent_encodeURIComponent]

theorem not_mem_pairText (pair : String × String) : '&' ∉ pairText pair := by
  intro member
  rcases List.mem_append.mp member with name | value
  · exact not_mem_component (by decide) pair.1 name
  · rcases List.mem_cons.mp value with equals | value
    · exact absurd equals (by decide)
    · exact not_mem_component (by decide) pair.2 value

theorem queryString_toList (params : Params) :
    (queryString (written numbers dates platform) (.obj params.fields)).toList =
      List.intercalate ['&'] ((texts numbers dates params).map pairText) := by
  rw [queryString, String.toList_intercalate, texts, Params.present, List.map_map, List.map_map]
  have separator : "&".toList = ['&'] := rfl
  rw [separator]
  apply congrArg (List.intercalate ['&'])
  apply List.map_congr_left
  intro field _
  rw [Function.comp_apply, String.toList_append, String.toList_append, List.append_assoc]
  rfl

/-- The query is empty only if there is nothing to be written. -/
theorem queryString_eq_empty (params : Params) :
    queryString (written numbers dates platform) (.obj params.fields) = "" ↔
      texts numbers dates params = [] := by
  rw [← String.toList_inj, queryString_toList]
  cases texts numbers dates params with
  | nil => exact iff_of_true rfl rfl
  | cons pair rest =>
      refine iff_of_false (fun empty => ?_) (List.cons_ne_nil pair rest)
      have size := congrArg List.length empty
      cases rest with
      | nil => simp [pairText] at size
      | cons next others => simp [pairText] at size

/-- Names and texts survive. -/
theorem readQuery_queryString (params : Params) :
    readQuery (queryString (written numbers dates platform) (.obj params.fields)) =
      texts numbers dates params := by
  rw [readQuery]
  split
  · next empty => exact ((queryString_eq_empty params).mp empty).symm
  · next some_ =>
      have listed : (texts numbers dates params).map pairText ≠ [] := by
        intro none
        exact some_ ((queryString_eq_empty params).mpr (List.map_eq_nil_iff.mp none))
      rw [queryString_toList, List.splitOn_intercalate '&' _ listed, List.map_map]
      · calc (texts numbers dates params).map (readPair ∘ pairText)
            = (texts numbers dates params).map id :=
              List.map_congr_left fun pair _ => readPair_pairText pair
          _ = texts numbers dates params := List.map_id _
      · intro piece member
        obtain ⟨pair, _, rfl⟩ := List.mem_map.mp member
        exact not_mem_pairText pair

/-! ### The URL -/

/-- The base URL and the method, as `buildUrl` puts them together. -/
def GetOperation.source (operation : GetOperation) : List Char :=
  operation.config.baseUrl.toList ++ '/' :: operation.method.toList

/-- The character before the query. -/
def GetOperation.separator (operation : GetOperation) : Char :=
  if '?' ∈ operation.source then '&' else '?'

def tail (separator : Char) (query : String) : List Char :=
  if query = "" then [] else separator :: query.toList

theorem separator_stop (operation : GetOperation) {symbol : Char}
    (stop : (symbol == operation.separator) = true) : symbol = '&' ∨ symbol = '?' := by
  rw [eq_of_beq stop, GetOperation.separator]
  split
  · exact .inl rfl
  · exact .inr rfl

theorem mem_expand_iff {fields : JsValue} (source : List Char) :
    '?' ∈ expand (written numbers dates platform) fields source ↔ '?' ∈ source := by
  constructor
  · exact mem_expand (by decide)
  · intro member
    obtain ⟨left, right, rfl⟩ := List.append_of_mem member
    rw [expand_barrier (by decide)]
    exact List.mem_append_right _ List.mem_cons_self

theorem finalUrl_toList (operation : GetOperation) (params : Params) :
    (finalUrl (written numbers dates platform)
      (portRequest (written numbers dates platform) operation.config operation.method
        (.obj params.fields))).toList =
      expand (written numbers dates platform) (.obj params.fields) operation.source ++
        tail operation.separator
          (queryString (written numbers dates platform) (.obj params.fields)) := by
  have marked : (buildUrl (written numbers dates platform) operation.config operation.method
      (.obj params.fields)).toList.contains '?' = decide ('?' ∈ operation.source) := by
    rw [buildUrl_toList, List.contains_eq_mem]
    exact decide_eq_decide.mpr (mem_expand_iff _)
  simp only [finalUrl, portRequest, operation.get, if_true]
  unfold tail
  split
  · rw [buildUrl_toList, List.append_nil]
    rfl
  · rw [marked, String.toList_append, String.toList_append, buildUrl_toList, List.append_assoc]
    unfold GetOperation.separator
    by_cases query : '?' ∈ operation.source
    · simp only [query, decide_true, if_true]
      rfl
    · simp only [query, decide_false, if_false, Bool.false_eq_true]
      rfl

theorem length_splitOn_expand (operation : GetOperation) (fields : JsValue) :
    ((expand (written numbers dates platform) fields operation.source).splitOn
      operation.separator).length = (operation.source.splitOn operation.separator).length := by
  rw [List.splitOn_eq_splitOnP, written, expand_splitOnP, List.length_map,
    List.splitOn_eq_splitOnP]
  · intro symbol stop
    rcases separator_stop operation stop with rfl | rfl <;> decide
  · intro symbol stop
    rcases separator_stop operation stop with rfl | rfl <;> rfl

theorem splitOn_append_cons {separator : Char} (left right : List Char) :
    (left ++ separator :: right).splitOn separator =
      left.splitOn separator ++ right.splitOn separator := by
  rw [List.splitOn_eq_splitOnP, List.splitOn_eq_splitOnP, List.splitOn_eq_splitOnP]
  exact List.splitOnP_append_cons left right (beq_self_eq_true separator)

/-- What stands before the query has the same number of separators for all parameters, so that
the URL shows where the query begins. -/
theorem tail_inj {separator : Char} {left right : List Char} {query other : String}
    (counted : (left.splitOn separator).length = (right.splitOn separator).length)
    (same : left ++ tail separator query = right ++ tail separator other) : query = other := by
  have parts : ∀ {rest : String}, rest ≠ "" → ∀ before : List Char,
      (before ++ tail separator rest).splitOn separator =
        before.splitOn separator ++ rest.toList.splitOn separator := by
    intro rest some_ before
    rw [tail, if_neg some_, splitOn_append_cons]
  have longer : ∀ rest : String, 0 < (rest.toList.splitOn separator).length := fun rest =>
    List.length_pos_iff.mpr (List.splitOn_ne_nil separator rest.toList)
  have split := congrArg (List.splitOn separator) same
  by_cases empty : query = ""
  · by_cases also : other = ""
    · exact empty.trans also.symm
    · rw [parts also, tail, if_pos empty, List.append_nil] at split
      have sizes := congrArg List.length split
      rw [List.length_append] at sizes
      have positive := longer other
      omega
  · by_cases also : other = ""
    · rw [parts empty, tail, if_pos also, List.append_nil] at split
      have sizes := congrArg List.length split
      rw [List.length_append] at sizes
      have positive := longer query
      omega
    · rw [parts empty, parts also] at split
      have rest := (List.append_inj split counted).2
      apply String.toList_inj.mp
      calc query.toList
          = [separator].intercalate (query.toList.splitOn separator) :=
            (List.intercalate_splitOn separator).symm
        _ = other.toList := by rw [rest, List.intercalate_splitOn]

/-! ### Equal URLs -/

theorem lookup_present (key : String) : ∀ fields : List (String × JsValue),
    (fields.map Prod.fst).Nodup →
    (fields.filter fun field => !field.2.isNullish).lookup key =
      if supplied (.obj fields) key then some ((JsValue.obj fields).field key) else none
  | [], _ => rfl
  | (name, value) :: rest, distinct => by
      have ih := lookup_present key rest (List.nodup_cons.mp distinct).2
      rw [supplied, JsValue.field_obj] at ih ⊢
      rw [List.lookup_cons]
      by_cases own : key = name
      · rw [own, beq_self_eq_true]
        cases nullish : value.isNullish with
        | true =>
            have gone : (rest.filter fun field => !field.2.isNullish).lookup name = none := by
              rw [List.lookup_eq_none_iff]
              intro field member
              rw [bne_iff_ne]
              rintro rfl
              exact (List.nodup_cons.mp distinct).1
                (List.mem_map.mpr ⟨field, (List.mem_filter.mp member).1, rfl⟩)
            rw [List.filter_cons_of_neg (by simp [nullish]), gone]
            simp [nullish]
        | false =>
            rw [List.filter_cons_of_pos (by simp [nullish]), List.lookup_cons_self]
            simp [nullish]
      · have other : (key == name) = false := beq_eq_false_iff_ne.mpr own
        rw [other]
        simp only
        rw [← ih]
        cases nullish : value.isNullish with
        | true => rw [List.filter_cons_of_neg (by simp [nullish])]
        | false => rw [List.filter_cons_of_pos (by simp [nullish]), List.lookup_cons, other]

theorem lookup_texts (params : Params) (key : String) :
    (texts numbers dates params).lookup key =
      if supplied (.obj params.fields) key then
        some (numbers.stringOf dates ((JsValue.obj params.fields).field key))
      else none := by
  have mapped : ∀ fields : List (String × JsValue),
      (fields.map fun field => (field.1, numbers.stringOf dates field.2)).lookup key =
        (fields.lookup key).map (numbers.stringOf dates) := by
    intro fields
    induction fields with
    | nil => rfl
    | cons field rest ih =>
        rw [List.map_cons, List.lookup_cons, List.lookup_cons, ih]
        split <;> rfl
  rw [texts, Params.present, mapped, lookup_present key params.fields params.distinct]
  split <;> rfl

/-- The placeholders, too, are filled from the texts. -/
theorem expand_texts {params other : Params}
    (same : texts numbers dates params = texts numbers dates other) (source : List Char) :
    expand (written numbers dates platform) (.obj params.fields) source =
      expand (written numbers dates platform) (.obj other.fields) source := by
  have piece : ∀ piece : Piece,
      piece.written (withText platform (numbers.stringOf dates)) (.obj params.fields) =
        piece.written (withText platform (numbers.stringOf dates)) (.obj other.fields) := by
    intro piece
    cases owned : piece.key with
    | none =>
        have fixed : ∀ fields : JsValue, ∀ key ∈ piece.key, supplied fields key = false :=
          fun _ _ own => nomatch owned.symm.trans own
        exact (written_missing (fixed _)).trans (written_missing (fixed _)).symm
    | some key =>
        have here := @lookup_texts numbers dates params key
        rw [same, lookup_texts] at here
        have only : ∀ {fields : JsValue}, supplied fields key = false →
            ∀ name ∈ piece.key, supplied fields name = false := by
          intro fields missing name own
          rw [← Option.some.inj (owned.symm.trans own)]
          exact missing
        cases given : supplied (.obj params.fields) key <;>
          cases also : supplied (.obj other.fields) key <;>
            simp only [given, also, if_true, if_false, Bool.false_eq_true, reduceCtorEq] at here
        · rw [written_missing (only given), written_missing (only also)]
        · rw [written_supplied owned given, written_supplied owned also, Option.some.inj here]
  rw [expand, expand, List.flatMap_def, List.flatMap_def]
  congr 1
  exact List.map_congr_left fun other _ => piece other

theorem finalUrl_eq_iff (operation : GetOperation) (params other : Params) :
    finalUrl (written numbers dates platform)
        (portRequest (written numbers dates platform) operation.config operation.method
          (.obj params.fields)) =
      finalUrl (written numbers dates platform)
        (portRequest (written numbers dates platform) operation.config operation.method
          (.obj other.fields)) ↔
      texts numbers dates params = texts numbers dates other := by
  rw [← String.toList_inj, finalUrl_toList, finalUrl_toList]
  constructor
  · intro same
    have queries := tail_inj ((length_splitOn_expand operation _).trans
      (length_splitOn_expand operation _).symm) same
    rw [← @readQuery_queryString numbers dates platform, queries, readQuery_queryString]
  · intro same
    have queries : queryString (written numbers dates platform) (.obj params.fields) =
        queryString (written numbers dates platform) (.obj other.fields) := by
      rw [← String.toList_inj, queryString_toList, queryString_toList, same]
    rw [expand_texts same, queries]

end Requests

/-! ### Values of one text -/

/-- Two values that the query does not tell apart: nested objects, whatever they hold, and a
string that spells a number, a truth value or `[object Object]`. -/
def Alike (numbers : NumberTexts) : JsValue → JsValue → Prop
  | .obj _, .obj _ => True
  | .obj _, .str text | .str text, .obj _ => text = NumberTexts.objectText
  | .num value, .str text | .str text, .num value => text = numbers.text value
  | .bool value, .str text | .str text, .bool value => text = NumberTexts.boolText value
  | value, other => value = other

theorem boolText_inj {value other : Bool}
    (same : NumberTexts.boolText value = NumberTexts.boolText other) : value = other := by
  cases value <;> cases other
  · rfl
  · exact absurd same (by decide)
  · exact absurd same (by decide)
  · rfl

theorem boolText_ne_object (value : Bool) :
    NumberTexts.boolText value ≠ NumberTexts.objectText := by
  cases value <;> decide

section Values

variable {numbers : NumberTexts} {dates : Nat → String} {platform : HttpPlatform}

theorem alike_iff {value other : JsValue} (passes : passed value = true)
    (present : value.isNullish = false) (alsoPasses : passed other = true)
    (alsoPresent : other.isNullish = false) :
    Alike numbers value other ↔
      numbers.stringOf dates value = numbers.stringOf dates other := by
  cases value with
  | undefined | null => exact Bool.noConfusion present
  | date _ | arr _ => exact Bool.noConfusion passes
  | bool value =>
      cases other with
      | undefined | null => exact Bool.noConfusion alsoPresent
      | date _ | arr _ => exact Bool.noConfusion alsoPasses
      | bool other =>
          simp only [Alike, NumberTexts.stringOf, JsValue.bool.injEq]
          exact ⟨congrArg _, boolText_inj⟩
      | num other =>
          simp only [Alike, NumberTexts.stringOf, reduceCtorEq, false_iff]
          exact fun same => numbers.text_ne_bool other value same.symm
      | str other =>
          simp only [Alike, NumberTexts.stringOf]
          exact eq_comm
      | obj _ =>
          simp only [Alike, NumberTexts.stringOf, reduceCtorEq, false_iff]
          exact boolText_ne_object value
  | num value =>
      cases other with
      | undefined | null => exact Bool.noConfusion alsoPresent
      | date _ | arr _ => exact Bool.noConfusion alsoPasses
      | bool other =>
          simp only [Alike, NumberTexts.stringOf, reduceCtorEq, false_iff]
          exact numbers.text_ne_bool value other
      | num other =>
          simp only [Alike, NumberTexts.stringOf, JsValue.num.injEq]
          exact ⟨congrArg _, fun same => numbers.injective same⟩
      | str other =>
          simp only [Alike, NumberTexts.stringOf]
          exact eq_comm
      | obj _ =>
          simp only [Alike, NumberTexts.stringOf, reduceCtorEq, false_iff]
          exact numbers.text_ne_object value
  | str value =>
      cases other with
      | undefined | null => exact Bool.noConfusion alsoPresent
      | date _ | arr _ => exact Bool.noConfusion alsoPasses
      | bool other => simp only [Alike, NumberTexts.stringOf]
      | num other => simp only [Alike, NumberTexts.stringOf]
      | str other => simp only [Alike, NumberTexts.stringOf, JsValue.str.injEq]
      | obj _ => simp only [Alike, NumberTexts.stringOf]
  | obj _ =>
      cases other with
      | undefined | null => exact Bool.noConfusion alsoPresent
      | date _ | arr _ => exact Bool.noConfusion alsoPasses
      | bool other =>
          simp only [Alike, NumberTexts.stringOf, reduceCtorEq, false_iff]
          exact (boolText_ne_object other).symm
      | num other =>
          simp only [Alike, NumberTexts.stringOf, reduceCtorEq, false_iff]
          exact (numbers.text_ne_object other).symm
      | str other =>
          simp only [Alike, NumberTexts.stringOf]
          exact eq_comm
      | obj _ => simp only [Alike, NumberTexts.stringOf]

theorem present_mem {params : Params} {field : String × JsValue}
    (member : field ∈ params.present) :
    passed field.2 = true ∧ field.2.isNullish = false := by
  obtain ⟨listed, present⟩ := List.mem_filter.mp member
  exact ⟨params.values field listed, by simpa using present⟩

/-- The same names in the same order, with values of the same texts. -/
def Confused (numbers : NumberTexts) (params other : Params) : Prop :=
  List.Forall₂ (fun field also => field.1 = also.1 ∧ Alike numbers field.2 also.2)
    params.present other.present

theorem texts_eq_iff (params other : Params) :
    texts numbers dates params = texts numbers dates other ↔ Confused numbers params other := by
  have lists : ∀ left right : List (String × JsValue),
      (∀ field ∈ left, passed field.2 = true ∧ field.2.isNullish = false) →
      (∀ field ∈ right, passed field.2 = true ∧ field.2.isNullish = false) →
      ((left.map fun field => (field.1, numbers.stringOf dates field.2)) =
          (right.map fun field => (field.1, numbers.stringOf dates field.2)) ↔
        List.Forall₂ (fun field also => field.1 = also.1 ∧ Alike numbers field.2 also.2)
          left right) := by
    intro left
    induction left with
    | nil =>
        intro right _ _
        cases right with
        | nil => exact iff_of_true rfl .nil
        | cons field rest => exact iff_of_false (fun same => nomatch same) (fun all => nomatch all)
    | cons field rest ih =>
        intro right here there
        cases right with
        | nil => exact iff_of_false (fun same => nomatch same) (fun all => nomatch all)
        | cons also others =>
            obtain ⟨passes, present⟩ := here field List.mem_cons_self
            obtain ⟨alsoPasses, alsoPresent⟩ := there also List.mem_cons_self
            rw [List.map_cons, List.map_cons, List.cons.injEq, Prod.mk.injEq,
              List.forall₂_cons, alike_iff passes present alsoPasses alsoPresent,
              ih others (fun other member => here other (List.mem_cons_of_mem field member))
                fun other member => there other (List.mem_cons_of_mem also member)]
  exact lists _ _ (fun _ => present_mem) fun _ => present_mem

/-! ### What is recovered -/

/-- The parameters can be decoded from the query string. -/
def Recovered (numbers : NumberTexts) (dates : Nat → String) (platform : HttpPlatform)
    (calls : Set Params) : Prop :=
  ∃ decode : String → List (String × JsValue), ∀ params ∈ calls,
    (queryOf numbers dates platform params).map decode = some params.present

/-- Parameters that differ make requests of different URLs. -/
def Distinguished (numbers : NumberTexts) (dates : Nat → String) (platform : HttpPlatform)
    (operation : GetOperation) (calls : Set Params) : Prop :=
  (∀ params ∈ calls, (urlOf numbers dates platform operation params).isSome = true) ∧
    ∀ params ∈ calls, ∀ other ∈ calls, params.present ≠ other.present →
      urlOf numbers dates platform operation params ≠ urlOf numbers dates platform operation other

/-- Every value has a text, and no two different parameters are confused. -/
def Legible (numbers : NumberTexts) (calls : Set Params) : Prop :=
  (∀ params ∈ calls, ∀ field ∈ params.present, unreadable field.2 = false) ∧
    ∀ params ∈ calls, ∀ other ∈ calls, Confused numbers params other →
      params.present = other.present

theorem readable_iff (params : Params) :
    (params.present.any fun field => unreadable field.2) = false ↔
      ∀ field ∈ params.present, unreadable field.2 = false := by
  rw [List.any_eq_false]
  simp only [Bool.not_eq_true]

theorem query_eq_iff (params other : Params) :
    queryString (written numbers dates platform) (.obj params.fields) =
        queryString (written numbers dates platform) (.obj other.fields) ↔
      Confused numbers params other := by
  rw [← @texts_eq_iff numbers dates]
  constructor
  · intro same
    rw [← @readQuery_queryString numbers dates platform, same, readQuery_queryString]
  · intro same
    rw [← String.toList_inj, queryString_toList, queryString_toList, same]

theorem recovered_iff (calls : Set Params) :
    Recovered numbers dates platform calls ↔ Legible numbers calls := by
  constructor
  · rintro ⟨decode, decodes⟩
    have readable : ∀ params ∈ calls,
        (params.present.any fun field => unreadable field.2) = false := by
      intro params member
      by_contra blind
      have decoded := decodes params member
      rw [queryOf, if_pos (by simpa using blind)] at decoded
      exact nomatch decoded
    have read : ∀ params ∈ calls,
        decode (queryString (written numbers dates platform) (.obj params.fields)) =
          params.present := by
      intro params member
      have decoded := decodes params member
      rw [queryOf, if_neg (by simp [readable params member])] at decoded
      exact Option.some.inj decoded
    refine ⟨fun params member => (readable_iff params).mp (readable params member), ?_⟩
    intro params member other also confused
    rw [← read params member, ← read other also, (query_eq_iff params other).mpr confused]
  · rintro ⟨readable, apart⟩
    classical
    -- A query is decoded to the parameters it was written for.
    let decode (query : String) : List (String × JsValue) :=
      if known : ∃ params ∈ calls,
          queryString (written numbers dates platform) (.obj params.fields) = query then
        (Classical.choose known).present
      else []
    refine ⟨decode, fun params member => ?_⟩
    have known : ∃ other ∈ calls,
        queryString (written numbers dates platform) (.obj other.fields) =
          queryString (written numbers dates platform) (.obj params.fields) :=
      ⟨params, member, rfl⟩
    obtain ⟨chosen, same⟩ := Classical.choose_spec known
    have clear : ¬ (params.present.any fun field => unreadable field.2) = true := by
      rw [(readable_iff params).mpr (readable params member)]
      exact Bool.false_ne_true
    rw [queryOf, if_neg clear, Option.map_some]
    have decoded : decode (queryString (written numbers dates platform) (.obj params.fields)) =
        (Classical.choose known).present := dif_pos known
    rw [decoded, apart _ chosen params member ((query_eq_iff _ _).mp same)]

theorem distinguished_iff (operation : GetOperation) (calls : Set Params) :
    Distinguished numbers dates platform operation calls ↔ Legible numbers calls := by
  have url : ∀ params : Params,
      (params.present.any fun field => unreadable field.2) = false →
      urlOf numbers dates platform operation params =
        some (finalUrl (written numbers dates platform)
          (portRequest (written numbers dates platform) operation.config operation.method
            (.obj params.fields))) := by
    intro params clear
    rw [urlOf, if_neg (by simp [clear])]
  constructor
  · rintro ⟨readable, apart⟩
    have clear : ∀ params ∈ calls,
        (params.present.any fun field => unreadable field.2) = false := by
      intro params member
      by_contra blind
      have some_ := readable params member
      rw [urlOf, if_pos (by simpa using blind)] at some_
      exact Bool.noConfusion some_
    refine ⟨fun params member => (readable_iff params).mp (clear params member), ?_⟩
    intro params member other also confused
    by_contra different
    apply apart params member other also different
    rw [url params (clear params member), url other (clear other also),
      (finalUrl_eq_iff operation params other).mpr ((texts_eq_iff params other).mpr confused)]
  · rintro ⟨readable, apart⟩
    have clear : ∀ params ∈ calls,
        (params.present.any fun field => unreadable field.2) = false :=
      fun params member => (readable_iff params).mpr (readable params member)
    constructor
    · intro params member
      rw [url params (clear params member)]
      rfl
    · intro params member other also different same
      rw [url params (clear params member), url other (clear other also)] at same
      exact different (apart params member other also
        ((texts_eq_iff params other).mp
          ((finalUrl_eq_iff operation params other).mp (Option.some.inj same))))

/-- For the parameters that a service passes to an operation. -/
theorem parameters_survive_iff (operation : GetOperation) (calls : Set Params) :
    (Recovered numbers dates platform calls ↔ Legible numbers calls) ∧
      (Distinguished numbers dates platform operation calls ↔ Legible numbers calls) :=
  ⟨recovered_iff calls, distinguished_iff operation calls⟩

end Values

/-! ### Two pages -/

def getPaymentHistory : GetOperation where
  config := paymentAdapter
  method := "get-payment-history"
  get := by decide

/-- `{ customerId, filters: { page, limit } }`. -/
def historyPage (page : Nat) : Params where
  fields := [("customerId", .str "KH-1"),
    ("filters", .obj [("page", .num page), ("limit", .num 10)])]
  distinct := by
    change ["customerId", "filters"].Nodup
    decide
  values := by
    intro field member
    rcases List.mem_cons.mp member with rfl | member
    · rfl
    · obtain rfl := List.mem_singleton.mp member
      rfl

/-- The first and the second page of the payment history have one URL. -/
theorem pages_confused :
    (historyPage 1).present ≠ (historyPage 2).present ∧
      urlOf .plain JsValue.toISOString paymentPlatform getPaymentHistory (historyPage 1) =
        some ("http://localhost:3001/payments/get-payment-history" ++
          "?customerId=KH-1&filters=%5Bobject%20Object%5D") ∧
      urlOf .plain JsValue.toISOString paymentPlatform getPaymentHistory (historyPage 2) =
        some ("http://localhost:3001/payments/get-payment-history" ++
          "?customerId=KH-1&filters=%5Bobject%20Object%5D") ∧
      ¬ Distinguished .plain JsValue.toISOString paymentPlatform getPaymentHistory
        {historyPage 1, historyPage 2} ∧
      ¬ Recovered .plain JsValue.toISOString paymentPlatform {historyPage 1, historyPage 2} := by
  have different : (historyPage 1).present ≠ (historyPage 2).present := by
    decide +kernel
  have first : urlOf .plain JsValue.toISOString paymentPlatform getPaymentHistory
      (historyPage 1) = some ("http://localhost:3001/payments/get-payment-history" ++
        "?customerId=KH-1&filters=%5Bobject%20Object%5D") := by decide +kernel
  have second : urlOf .plain JsValue.toISOString paymentPlatform getPaymentHistory
      (historyPage 2) = some ("http://localhost:3001/payments/get-payment-history" ++
        "?customerId=KH-1&filters=%5Bobject%20Object%5D") := by decide +kernel
  have illegible : ¬ Legible .plain {historyPage 1, historyPage 2} := by
    intro legible
    apply different
    apply legible.2 _ (Or.inl rfl) _ (Or.inr rfl)
    exact .cons ⟨rfl, rfl⟩ (.cons ⟨rfl, trivial⟩ .nil)
  exact ⟨different, first, second, fun apart => illegible ((distinguished_iff _ _).mp apart),
    fun decoded => illegible ((recovered_iff _).mp decoded)⟩

end PortHttpClient

end SelfService

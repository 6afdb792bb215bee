/-
Loading the endpoint configuration.

`loadConfig` reads the file, fills in the environment variables, parses the YAML text and validates
the result.  Only then the map of the services is replaced, by one that has been built before.  So
after any loads it holds the services of the last file that was accepted.
-/

import SelfService.Data.MapBuilding
import SelfService.Port.World

namespace SelfService

open Data

/-! ### The schema of the file -/

/-- One service of the file with the fields that adapters read. -/
structure ServiceConfig extends PortEndpointConfig where
  baseUrl : Option String
  description : Option String
  methods : Option (List String)
  deriving DecidableEq, Repr

namespace ApiEndpoints

def optional {α : Type} (read : JsValue → Option α) : JsValue → Option (Option α)
  | .undefined => some none
  | value => (read value).map some

def withDefault {α : Type} (default : α) (read : JsValue → Option α) : JsValue → Option α
  | .undefined => some default
  | value => read value

def string : JsValue → Option String
  | .str text => some text
  | _ => none

/-- A whole number of at least `least`, at most `most` and within the safe integers. -/
def int (least : Nat) (most : Option Nat) : JsValue → Option Nat
  | .num number =>
      if number.den = 1 ∧ (least : Int) ≤ number.num ∧ number.num ≤ 9007199254740991 ∧
          most.all fun bound => number.num ≤ bound then
        some number.num.toNat
      else none
  | _ => none

def oneOf {α : Type} (options : List (String × α)) : JsValue → Option α
  | .str text => options.lookup text
  | _ => none

def stringArray : JsValue → Option (List String)
  | .arr items => items.mapM string
  | _ => none

def CacheTierSchema : JsValue → Option CacheTier :=
  oneOf [("static", .static), ("dynamic", .dynamic), ("transaction", .transaction)]

def QueuePolicySchema : JsValue → Option QueuePolicy :=
  oneOf [("never", .never), ("on-cache-miss", .onCacheMiss), ("always", .always)]

def PortCircuitBreakerConfigSchema : JsValue → Option PortCircuitBreakerConfig
  | .obj fields => do
      let value := JsValue.obj fields
      let errorThreshold ← withDefault 50 (int 1 (some 100)) (value.field "errorThreshold")
      let resetTimeout ← withDefault 10000 (int 1 none) (value.field "resetTimeout")
      let minRequests ← withDefault 5 (int 0 none) (value.field "minRequests")
      return { errorThreshold, resetTimeout, minRequests }
  | _ => none

def PortEndpointConfigSchema : JsValue → Option ServiceConfig
  | .obj fields => do
      let value := JsValue.obj fields
      let adapter ← oneOf [("mock", AdapterKind.mock), ("live", .live)] (value.field "adapter")
      let baseUrl ← optional string (value.field "baseUrl")
      let timeout ← withDefault 3000 (int 1 none) (value.field "timeout")
      let cacheTier ← CacheTierSchema (value.field "cacheTier")
      let cacheTtl ← optional (int 0 none) (value.field "cacheTtl")
      let queuePolicy ← optional QueuePolicySchema (value.field "queuePolicy")
      let circuitBreaker ← optional PortCircuitBreakerConfigSchema (value.field "circuitBreaker")
      let description ← optional string (value.field "description")
      let methods ← optional stringArray (value.field "methods")
      return { adapter, timeout, cacheTier, cacheTtl, queuePolicy, circuitBreaker, baseUrl,
               description, methods }
  | _ => none

def record {α : Type} (read : JsValue → Option α) : JsValue → Option (List (String × α))
  | .obj fields => fields.mapM fun field => (read field.2).map fun value => (field.1, value)
  | _ => none

/-- The `ApiEndpointsSchema`; its only field is `services`. -/
def services : JsValue → Option (List (String × ServiceConfig))
  | .obj fields => record PortEndpointConfigSchema ((JsValue.obj fields).field "services")
  | _ => none

theorem record_names {α : Type} {read : JsValue → Option α} {fields : List (String × JsValue)}
    {valid : List (String × α)} (accepted : record read (.obj fields) = some valid) :
    valid.map Prod.fst = fields.map Prod.fst := by
  rw [record] at accepted
  induction fields generalizing valid with
  | nil =>
      have none : [] = valid := by simpa using accepted
      rw [← none]
      rfl
  | cons field fields ih =>
      rw [List.mapM_cons] at accepted
      cases first : read field.2 with
      | none => simp [first] at accepted
      | some value =>
          cases later : fields.mapM fun field =>
              (read field.2).map fun value => (field.1, value) with
          | none => simp [first, later] at accepted
          | some values =>
              have joined : (field.1, value) :: values = valid := by
                simpa [first, later] using accepted
              rw [← joined, List.map_cons, List.map_cons, ih later]

end ApiEndpoints

/-! ### Environment variables -/

namespace EndpointConfigService

abbrev Environment := String → Option String

/-- A match of the expression `\$\{([^}]+)\}` at the start of a text: the name of the variable and
what follows. -/
def placeholder : List Char → Option (List Char × List Char)
  | '$' :: '\x7b' :: rest =>
      match rest.dropWhile (· != '\x7d') with
      | [] => none
      | _ :: after =>
          let varName := rest.takeWhile (· != '\x7d')
          if varName = [] then none else some (varName, after)
  | _ => none

def missingVariable (varName : String) : String :=
  "Required environment variable not set: " ++ varName ++ ". " ++
    "Check your .env file or container environment configuration."

/-- The fuel is the length of the text. -/
def substitute (environment : Environment) : Nat → List Char → Except String (List Char)
  | 0, _ => .ok []
  | fuel + 1, text =>
      match placeholder text with
      | some (varName, after) =>
          match environment (String.ofList varName) with
          | none => .error (missingVariable (String.ofList varName))
          | some value => (substitute environment fuel after).map (value.toList ++ ·)
      | none =>
          match text with
          | [] => .ok []
          | symbol :: rest => (substitute environment fuel rest).map (symbol :: ·)

def resolveEnvVars (environment : Environment) (content : String) : Except String String :=
  (substitute environment content.toList.length content.toList).map String.ofList

def Placed (varName after text : List Char) : Prop :=
  varName ≠ [] ∧ '\x7d' ∉ varName ∧ text = '$' :: '\x7b' :: (varName ++ '\x7d' :: after)

/-- Every placeholder has given way to the value of its variable, and nothing else has changed. -/
inductive Substituted (environment : Environment) : List Char → List Char → Prop
  | done : Substituted environment [] []
  | copied (symbol : Char) (rest resolved : List Char)
      (plain : ¬ ∃ varName after, Placed varName after (symbol :: rest))
      (later : Substituted environment rest resolved) :
      Substituted environment (symbol :: rest) (symbol :: resolved)
  | replaced (varName after text resolved : List Char) (value : String)
      (placed : Placed varName after text)
      (known : environment (String.ofList varName) = some value)
      (later : Substituted environment after resolved) :
      Substituted environment text (value.toList ++ resolved)

theorem takeWhile_closed {varName : List Char} (free : '\x7d' ∉ varName) (after : List Char) :
    (varName ++ '\x7d' :: after).takeWhile (· != '\x7d') = varName ∧
      (varName ++ '\x7d' :: after).dropWhile (· != '\x7d') = '\x7d' :: after := by
  have open_ : ∀ symbol ∈ varName, (symbol != '\x7d') = true := by
    intro symbol member
    rw [bne_iff_ne]
    intro same
    exact free (same ▸ member)
  constructor
  · rw [List.takeWhile_append_of_pos open_]
    simp
  · rw [List.dropWhile_append_of_pos open_]
    simp

theorem placeholder_eq_some_iff {text varName after : List Char} :
    placeholder text = some (varName, after) ↔ Placed varName after text := by
  constructor
  · intro found
    unfold placeholder at found
    split at found
    case h_1 rest =>
      split at found
      case h_1 => cases found
      case h_2 closing tail closed =>
        simp only at found
        split at found
        case isTrue => cases found
        case isFalse named =>
          obtain ⟨rfl, rfl⟩ := Prod.mk.inj (Option.some.inj found)
          have brace : closing = '\x7d' := by
            have stopped := List.head?_dropWhile_not (· != '\x7d') rest
            rw [closed] at stopped
            simpa using stopped
          subst brace
          refine ⟨named, ?_, ?_⟩
          · intro member
            have passed := List.all_eq_true.mp List.all_takeWhile _ member
            simp at passed
          · rw [← closed, List.takeWhile_append_dropWhile]
    case h_2 => cases found
  · intro placed
    obtain ⟨named, free, rfl⟩ := placed
    obtain ⟨taken, dropped⟩ := takeWhile_closed free after
    simp only [placeholder, taken, dropped, if_neg named]

theorem Placed.shorter {varName after text : List Char} (placed : Placed varName after text) :
    after.length < text.length := by
  obtain ⟨_, _, rfl⟩ := placed
  simp
  omega

theorem placeholder_none_iff {text : List Char} :
    placeholder text = none ↔ ¬ ∃ varName after, Placed varName after text := by
  constructor
  · intro none placed
    obtain ⟨varName, after, placed⟩ := placed
    rw [placeholder_eq_some_iff.mpr placed] at none
    cases none
  · intro plain
    cases found : placeholder text with
    | none => rfl
    | some parts => exact absurd ⟨parts.1, parts.2, placeholder_eq_some_iff.mp found⟩ plain

theorem substituted_of_ok {environment : Environment} {fuel : Nat} {text resolved : List Char}
    (enough : text.length ≤ fuel) (ended : substitute environment fuel text = .ok resolved) :
    Substituted environment text resolved := by
  induction fuel generalizing text resolved with
  | zero =>
      have none := List.eq_nil_of_length_eq_zero (Nat.le_zero.mp enough)
      injection ended with ended
      rw [none, ← ended]
      exact .done
  | succ fuel ih =>
      rw [substitute.eq_def] at ended
      cases found : placeholder text with
      | some parts =>
          obtain ⟨varName, after⟩ := parts
          have placed := placeholder_eq_some_iff.mp found
          simp only [found] at ended
          cases known : environment (String.ofList varName) with
          | none => simp [known] at ended
          | some value =>
              simp only [known] at ended
              cases later : substitute environment fuel after with
              | error message => simp [later, Except.map] at ended
              | ok rest =>
                  simp only [later, Except.map, Except.ok.injEq] at ended
                  rw [← ended]
                  have shorter := placed.shorter
                  exact .replaced varName after text rest value placed known (ih (by omega) later)
      | none =>
          simp only [found] at ended
          cases text with
          | nil =>
              injection ended with ended
              rw [← ended]
              exact .done
          | cons symbol rest =>
              cases later : substitute environment fuel rest with
              | error message => simp [later, Except.map] at ended
              | ok copied =>
                  simp only [later, Except.map, Except.ok.injEq] at ended
                  rw [← ended]
                  rw [List.length_cons] at enough
                  exact .copied symbol rest copied (placeholder_none_iff.mp found)
                    (ih (by omega) later)

theorem ok_of_substituted {environment : Environment} {fuel : Nat} {text resolved : List Char}
    (substituted : Substituted environment text resolved) (enough : text.length ≤ fuel) :
    substitute environment fuel text = .ok resolved := by
  induction substituted generalizing fuel with
  | done => cases fuel <;> rfl
  | copied symbol rest resolved plain later ih =>
      cases fuel with
      | zero => cases enough
      | succ fuel =>
          rw [List.length_cons] at enough
          simp only [substitute, placeholder_none_iff.mpr plain, ih (by omega : rest.length ≤ fuel)]
          rfl
  | replaced varName after text resolved value placed known later ih =>
      have shorter := placed.shorter
      cases fuel with
      | zero => omega
      | succ fuel =>
          simp only [substitute, placeholder_eq_some_iff.mpr placed, known,
            ih (by omega : after.length ≤ fuel)]
          rfl

/-- The file is resolved exactly if each of its placeholders names a variable that is set. -/
theorem resolveEnvVars_eq_ok_iff {environment : Environment} {content resolved : String} :
    resolveEnvVars environment content = .ok resolved ↔
      Substituted environment content.toList resolved.toList := by
  unfold resolveEnvVars
  constructor
  · intro ended
    cases symbols : substitute environment content.toList.length content.toList with
    | error message => simp [symbols, Except.map] at ended
    | ok text =>
        simp only [symbols, Except.map, Except.ok.injEq] at ended
        rw [← ended, String.toList_ofList]
        exact substituted_of_ok (Nat.le_refl _) symbols
  · intro substituted
    rw [ok_of_substituted substituted (Nat.le_refl _), Except.map, String.ofList_toList]

example : resolveEnvVars (fun varName => if varName = "BASE" then some "http://b" else none)
    "baseUrl: $\x7bBASE\x7d/auth" = .ok "baseUrl: http://b/auth" := by decide

/-! ### Loads -/

/-- The YAML library and the text of the schema's complaints.  The objects that are parsed have
distinct keys. -/
structure YamlParser where
  parseYaml : String → Except String JsValue
  distinct : ∀ text value fields, parseYaml text = .ok value →
    value.field "services" = .obj fields → (fields.map Prod.fst).Nodup
  issues : JsValue → String

/-- What has started a load: the module, a call or the watcher of the file. -/
inductive Trigger
  | onModuleInit
  | reloadConfig
  | change
  deriving DecidableEq, Repr

/-- A load with what it reads from outside. -/
structure Load where
  trigger : Trigger
  readFile : Except String String
  environment : Environment

abbrev EndpointMap := OrderedMap String ServiceConfig

/-- The new map is built apart from the old one. -/
def newConfig (validated : List (String × ServiceConfig)) : EndpointMap :=
  OrderedMap.ofItems Prod.fst Prod.snd validated

/-- The map after the load, and what the promise comes to. -/
def loadConfig (yaml : YamlParser) (load : Load) (config : EndpointMap) :
    EndpointMap × Except String Unit :=
  match load.readFile with
  | .error message => (config, .error message)
  | .ok rawContent =>
      match resolveEnvVars load.environment rawContent with
      | .error message => (config, .error message)
      | .ok resolvedContent =>
          match yaml.parseYaml resolvedContent with
          | .error message => (config, .error message)
          | .ok rawConfig =>
              match ApiEndpoints.services rawConfig with
              | none =>
                  -- in production the complaint is a warning
                  if load.environment "NODE_ENV" ≠ some "production" then
                    (config,
                      .error ("Invalid api-endpoints.yaml config: " ++ yaml.issues rawConfig))
                  else (config, .ok ())
              | some validated => (newConfig validated, .ok ())

/-- The watcher logs the error of its load. -/
def perform (yaml : YamlParser) (load : Load) (config : EndpointMap) :
    EndpointMap × Except String Unit :=
  let (loaded, result) := loadConfig yaml load config
  match load.trigger with
  | .change => (loaded, .ok ())
  | .onModuleInit | .reloadConfig => (loaded, result)

/-- One load after the other, from the empty map of a new process. -/
def run (yaml : YamlParser) (loads : List Load) : EndpointMap :=
  loads.foldl (fun config load => (perform yaml load config).1) .empty

/-- The file was read, each placeholder was substituted, and the YAML text has these services. -/
def Accepted (yaml : YamlParser) (load : Load) (services : List (String × ServiceConfig)) : Prop :=
  ∃ rawContent resolvedContent rawConfig, load.readFile = .ok rawContent ∧
    Substituted load.environment rawContent.toList resolvedContent.toList ∧
    yaml.parseYaml resolvedContent = .ok rawConfig ∧
    ApiEndpoints.services rawConfig = some services

variable {yaml : YamlParser}

theorem distinct_services {resolvedContent : String} {rawConfig : JsValue}
    {services : List (String × ServiceConfig)}
    (parsed : yaml.parseYaml resolvedContent = .ok rawConfig)
    (valid : ApiEndpoints.services rawConfig = some services) :
    (services.map Prod.fst).Nodup := by
  cases rawConfig with
  | obj fields =>
      rw [ApiEndpoints.services] at valid
      cases listed : (JsValue.obj fields).field "services" with
      | obj entries =>
          rw [listed] at valid
          rw [ApiEndpoints.record_names valid]
          exact yaml.distinct _ _ _ parsed listed
      | _ => rw [listed] at valid; cases valid
  | _ => cases valid

theorem entries_newConfig {services : List (String × ServiceConfig)}
    (distinct : (services.map Prod.fst).Nodup) : (newConfig services).entries = services := by
  rw [newConfig, OrderedMap.entries_ofItems _ _ _ distinct]
  simp

theorem perform_config (load : Load) (config : EndpointMap) :
    (perform yaml load config).1 = (loadConfig yaml load config).1 := by
  unfold perform
  cases load.trigger <;> rfl

/-- An accepted file gives the map, and every failure leaves it. -/
theorem loadConfig_cases (yaml : YamlParser) (load : Load) (config : EndpointMap) :
    (∃ services, Accepted yaml load services ∧
      (loadConfig yaml load config).1.entries = services) ∨
    ((¬ ∃ services, Accepted yaml load services) ∧ (loadConfig yaml load config).1 = config) := by
  unfold loadConfig
  cases read : load.readFile with
  | error message =>
      refine .inr ⟨?_, rfl⟩
      intro accepted
      obtain ⟨services, rawContent, _, _, found, _⟩ := accepted
      rw [read] at found
      cases found
  | ok rawContent =>
      cases resolved : resolveEnvVars load.environment rawContent with
      | error message =>
          refine .inr ⟨?_, by simp only [resolved]⟩
          intro accepted
          obtain ⟨services, other, text, _, found, substituted, _⟩ := accepted
          obtain rfl := Except.ok.inj (read.symm.trans found)
          rw [resolveEnvVars_eq_ok_iff.mpr substituted] at resolved
          cases resolved
      | ok resolvedContent =>
          have only : ∀ services, Accepted yaml load services → ∃ rawConfig,
              yaml.parseYaml resolvedContent = .ok rawConfig ∧
              ApiEndpoints.services rawConfig = some services := by
            intro services accepted
            obtain ⟨other, text, rawConfig, found, substituted, parsed, valid⟩ := accepted
            obtain rfl := Except.ok.inj (read.symm.trans found)
            obtain rfl := Except.ok.inj
              (resolved.symm.trans (resolveEnvVars_eq_ok_iff.mpr substituted))
            exact ⟨rawConfig, parsed, valid⟩
          cases parsed : yaml.parseYaml resolvedContent with
          | error message =>
              refine .inr ⟨?_, by simp only [resolved, parsed]⟩
              intro accepted
              obtain ⟨services, accepted⟩ := accepted
              obtain ⟨rawConfig, found, _⟩ := only services accepted
              rw [parsed] at found
              cases found
          | ok rawConfig =>
              cases valid : ApiEndpoints.services rawConfig with
              | none =>
                  refine .inr ⟨?_, ?_⟩
                  · intro accepted
                    obtain ⟨services, accepted⟩ := accepted
                    obtain ⟨other, found, listed⟩ := only services accepted
                    obtain rfl := Except.ok.inj (parsed.symm.trans found)
                    rw [valid] at listed
                    cases listed
                  · simp only [resolved, parsed, valid]
                    split <;> rfl
              | some validated =>
                  refine .inl ⟨validated, ⟨rawContent, resolvedContent, rawConfig, read,
                    resolveEnvVars_eq_ok_iff.mp resolved, parsed, valid⟩, ?_⟩
                  simp only [resolved, parsed, valid]
                  exact entries_newConfig (distinct_services parsed valid)

theorem run_concat (earlier : List Load) (load : Load) :
    run yaml (earlier ++ [load]) = (loadConfig yaml load (run yaml earlier)).1 := by
  rw [run, List.foldl_concat, perform_config]
  rfl

/-- The map shows the last file that was accepted, if there is one. -/
def ShowsLast (yaml : YamlParser) (loads : List Load) (config : EndpointMap) : Prop :=
  (∃ earlier load later services, loads = earlier ++ load :: later ∧
    Accepted yaml load services ∧ (∀ other ∈ later, ¬ ∃ services, Accepted yaml other services) ∧
    config.entries = services) ∨
  ((∀ load ∈ loads, ¬ ∃ services, Accepted yaml load services) ∧ config = .empty)

theorem run_showsLast (yaml : YamlParser) (loads : List Load) :
    ShowsLast yaml loads (run yaml loads) := by
  induction loads using List.reverseRecOn with
  | nil => exact .inr ⟨fun load member => absurd member List.not_mem_nil, rfl⟩
  | append_singleton loads load ih =>
      rw [run_concat]
      rcases loadConfig_cases yaml load (run yaml loads) with
        ⟨services, accepted, entries⟩ | ⟨refused, same⟩
      · exact .inl ⟨loads, load, [], services, rfl, accepted,
          fun other member => absurd member List.not_mem_nil, entries⟩
      · rw [same]
        have extended : ∀ {others : List Load},
            (∀ other ∈ others, ¬ ∃ services, Accepted yaml other services) →
            ∀ other ∈ others ++ [load], ¬ ∃ services, Accepted yaml other services := by
          intro others all other member
          rcases List.mem_append.mp member with earlier | last
          · exact all other earlier
          · rw [List.mem_singleton.mp last]
            exact refused
        rcases ih with ⟨earlier, last, later, services, split, accepted, quiet, entries⟩ |
          ⟨quiet, empty⟩
        · refine .inl ⟨earlier, last, later ++ [load], services, ?_, accepted, extended quiet,
            entries⟩
          rw [split, List.append_assoc, List.cons_append]
        · exact .inr ⟨extended quiet, empty⟩

end EndpointConfigService

end SelfService

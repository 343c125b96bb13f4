import HubRelay.Configuration.Search
import HubRelay.Proofs.Configuration.Fields
import Mathlib.Data.List.Basic

/-!
Contract: which source each field of a configuration has.

Owns: the variable of a field, that it comes before the file as the file comes before the default,
which warnings come up, and that the first file that loads is the only one that counts.

Does not own: what a file gives for a field.
-/

namespace HubRelay.Configuration

/-! ## Variables -/

namespace Field

/-- The name of the variable that overrides a field, if there is one, and how its text is read. -/
def override? : (field : Field) → Option (String × (String → Except Warning field.Kind))
  | .host => some ("TUNNELHUB_HOST", .ok)
  | .port => some ("TUNNELHUB_PORT", Variables.readPort)
  | .handshakeTimeout => some ("TUNNELHUB_HANDSHAKE_TIMEOUT_MS", Variables.readTimeout)
  | .selection => some ("TUNNELHUB_SELECTION", Variables.readSelection)
  | .level => some ("TUNNELHUB_LOG_LEVEL", .ok)
  | .format => some ("TUNNELHUB_LOG_FORMAT", .ok)
  | .origins | .queueCapacity | .messageLimit | .announcesDepartures => none

variable (environment : String → Option String)

/-- What comes of reading the variable of a field, if it is set. -/
def reading? (field : Field) : Option (Except Warning field.Kind) :=
  field.override?.bind fun (name, read) => (environment name).map read

/-- What the variable of a field stands for, if it is set and stands for something. -/
def voiced? (field : Field) : Option field.Kind :=
  (field.reading? environment).bind Except.toOption

/-- The warning about the variable of a field, if it is set and stands for nothing. -/
def complaint? (field : Field) : Option Warning :=
  match field.reading? environment with
  | some (.error warning) => some warning
  | _ => none

/-- The fields of which a variable may stand for nothing, in the order of the warnings. -/
def fallible : List Field :=
  [.port, .handshakeTimeout, .selection]

theorem complaint?_eq_none {field : Field} (infallible : field ∉ fallible) :
    field.complaint? environment = none := by
  cases field with
  | port | handshakeTimeout | selection => simp [fallible] at infallible
  | host => cases set : environment "TUNNELHUB_HOST" <;> simp [complaint?, reading?, override?, set]
  | level =>
    cases set : environment "TUNNELHUB_LOG_LEVEL" <;> simp [complaint?, reading?, override?, set]
  | format =>
    cases set : environment "TUNNELHUB_LOG_FORMAT" <;> simp [complaint?, reading?, override?, set]
  | origins | queueCapacity | messageLimit | announcesDepartures => rfl

/-- The fields that no variable overrides. -/
def fixed : List Field :=
  [.origins, .queueCapacity, .messageLimit, .announcesDepartures]

theorem voiced?_eq_none {field : Field} (isFixed : field ∈ fixed) :
    field.voiced? environment = none := by
  cases field with
  | origins | queueCapacity | messageLimit | announcesDepartures => rfl
  | host | port | handshakeTimeout | selection | level | format => simp [fixed] at isFixed

end Field

namespace Variables

variable (environment : String → Option String) (configuration : Configuration)

theorem override_eq (field : Field) {name : String} {read : String → Except Warning field.Kind}
    (named : field.override? = some (name, read)) (before : field.Kind) :
    override read (environment name) before =
      ((field.voiced? environment).getD before, (field.complaint? environment).toList) := by
  simp only [override, Field.voiced?, Field.complaint?, Field.reading?, named, Option.bind_some]
  rcases (environment name).map read with _ | _ | _ <;> rfl

theorem get_apply (field : Field) : field.get ((ofEnvironment environment).apply configuration).1 =
    (field.voiced? environment).getD (field.get configuration) := by
  cases field with
  | port => exact congrArg Prod.fst (override_eq environment .port rfl _)
  | handshakeTimeout => exact congrArg Prod.fst (override_eq environment .handshakeTimeout rfl _)
  | selection => exact congrArg Prod.fst (override_eq environment .selection rfl _)
  | host | level | format =>
    simp [apply, Field.get, Field.voiced?, Field.reading?, Field.override?, ofEnvironment,
      Option.bind_map, Function.comp_def, Except.toOption]
  | origins | queueCapacity | messageLimit | announcesDepartures => rfl

theorem warnings_apply : ((ofEnvironment environment).apply configuration).2 =
    Field.fallible.filterMap (Field.complaint? environment) := by
  simp only [apply, ofEnvironment, Field.fallible, override_eq environment .port rfl,
    override_eq environment .handshakeTimeout rfl, override_eq environment .selection rfl,
    List.filterMap_eq_flatMap_toList, List.flatMap_cons, List.flatMap_nil, List.append_assoc,
    List.append_nil]

/-- Applied once more, variables change nothing and warn of the same. -/
theorem apply_apply :
    (ofEnvironment environment).apply ((ofEnvironment environment).apply configuration).1 =
      (ofEnvironment environment).apply configuration := by
  refine Prod.ext (eq_of_get fun field => ?_) ?_
  · simp only [get_apply]
    cases field.voiced? environment <;> rfl
  · simp only [warnings_apply]

end Variables

/-! ## Sources -/

/-- The values in a file: none if there is no file, it is not text or the text is ill-formed. -/
def contents? (file : Option (List UInt8)) : Option (List (String × Toml.Value)) :=
  (file.bind Text.Utf8.decode).bind Toml.read

/-- Whether there is a file with a configuration in it. -/
def Loads (file : Option (List UInt8)) : Prop :=
  ∃ entries, contents? file = some entries ∧ Fits entries

/-- A configuration of which each field has what its variable stands for, or else what a file gives
for it, or else its default; with the warnings about variables that stand for nothing. -/
structure Governed (environment : String → Option String) (entries : List (String × Toml.Value))
    (outcome : Outcome) : Prop where
  fields : ∀ field : Field, field.get outcome.1 =
    (field.voiced? environment).getD ((field.written? entries).getD field.standard)
  warnings : outcome.2 = Field.fallible.filterMap (Field.complaint? environment)

section

variable {environment : String → Option String} {file : Option (List UInt8)}
  {entries : List (String × Toml.Value)} {outcome : Outcome}

theorem apply_eq_iff {configuration : Configuration}
    (given : ∀ field : Field,
      field.get configuration = (field.written? entries).getD field.standard) :
    (Variables.ofEnvironment environment).apply configuration = outcome ↔
      Governed environment entries outcome := by
  constructor
  · rintro rfl
    constructor
    case fields =>
      exact fun field => given field ▸ Variables.get_apply environment configuration field
    case warnings => exact Variables.warnings_apply environment configuration
  · rintro ⟨fields, warnings⟩
    refine Prod.ext (eq_of_get fun field => ?_) ?_
    · rw [Variables.get_apply, given, fields]
    · rw [Variables.warnings_apply, warnings]

theorem load_eq_ok_iff {configuration : Configuration} : load file = .ok configuration ↔
    ∃ entries, contents? file = some entries ∧ Fits entries ∧
      ∀ field : Field, field.get configuration = (field.written? entries).getD field.standard := by
  simp only [← ofToml_eq_some_iff, ← Option.bind_eq_some_iff, load, contents?]
  rcases file.bind Text.Utf8.decode with _ | text
  · simp
  · cases given : (Toml.read text).bind fun entries => ofToml (.table entries) <;> simp [given]

theorem loads_iff : Loads file ↔ ∃ configuration, load file = .ok configuration := by
  simp only [load_eq_ok_iff]
  constructor
  · rintro ⟨entries, contents, fits⟩
    exact ⟨assemble _, entries, contents, fits, get_assemble _⟩
  · rintro ⟨-, entries, contents, fits, -⟩
    exact ⟨entries, contents, fits⟩

theorem loadOverridden_eq_ok_iff {overrides : Variables} :
    loadOverridden overrides file = .ok outcome ↔
      ∃ configuration, load file = .ok configuration ∧ overrides.apply configuration = outcome := by
  unfold loadOverridden
  cases load file <;> simp [Except.map]

theorem overridden_eq_ok_iff :
    loadOverridden (.ofEnvironment environment) file = .ok outcome ↔
      ∃ entries, contents? file = some entries ∧ Fits entries ∧
        Governed environment entries outcome := by
  rw [loadOverridden_eq_ok_iff]
  simp only [load_eq_ok_iff]
  constructor
  · rintro ⟨configuration, ⟨entries, contents, fits, given⟩, applied⟩
    exact ⟨entries, contents, fits, (apply_eq_iff given).mp applied⟩
  · rintro ⟨entries, contents, fits, governed⟩
    have given := get_assemble fun field => (field.written? entries).getD field.standard
    exact ⟨_, ⟨entries, contents, fits, given⟩, (apply_eq_iff given).mpr governed⟩

theorem governed_ofVariables : Governed environment [] (ofVariables (.ofEnvironment environment)) :=
  (apply_eq_iff fun field => by cases field <;> rfl).mp rfl

end

/-! ## Search -/

/-- The configuration in the first candidate that loads, or the standard one. -/
def found (candidates : Candidates) : Configuration :=
  (candidates.toList.findSome? fun file => (load file).toOption).getD .standard

theorem toOption_loadOverridden (overrides : Variables) (file : Option (List UInt8)) :
    (loadOverridden overrides file).toOption = (load file).toOption.map overrides.apply := by
  unfold loadOverridden
  cases load file <;> rfl

theorem search_eq (overrides : Variables) (candidates : Candidates) :
    search overrides candidates = overrides.apply (found candidates) := by
  simp only [search, found, toOption_loadOverridden, ofVariables]
  rw [← Option.getD_map overrides.apply, List.map_findSome?]
  rfl

theorem toOption_load_eq_none_iff {file : Option (List UInt8)} :
    (load file).toOption = none ↔ ¬Loads file := by
  rw [loads_iff]
  cases load file <;> simp [Except.toOption]

/-- Two files that stand for the same in a search: they are the same, or neither loads. -/
def Alike (file file' : Option (List UInt8)) : Prop :=
  file = file' ∨ ¬Loads file ∧ ¬Loads file'

section

variable {candidates one other : Candidates} {before after : List (Option (List UInt8))}
  {file : Option (List UInt8)} {configuration : Configuration}

theorem found_of_first (places : candidates.toList = before ++ file :: after)
    (fails : ∀ earlier ∈ before, ¬Loads earlier) (loaded : load file = .ok configuration) :
    found candidates = configuration := by
  have isFirst : candidates.toList.findSome? (fun file => (load file).toOption) =
      some configuration :=
    List.findSome?_eq_some_iff.mpr ⟨before, file, after, places, by rw [loaded]; rfl,
      fun earlier among => toOption_load_eq_none_iff.mpr (fails earlier among)⟩
  rw [found, isFirst, Option.getD_some]

theorem found_of_none (fails : ∀ file ∈ candidates.toList, ¬Loads file) :
    found candidates = .standard := by
  have isNone : candidates.toList.findSome? (fun file => (load file).toOption) = none :=
    List.findSome?_eq_none_iff.mpr fun file among =>
      toOption_load_eq_none_iff.mpr (fails file among)
  rw [found, isNone, Option.getD_none]

theorem found_of_alike (alike : List.Forall₂ Alike one.toList other.toList) :
    found one = found other := by
  unfold found
  generalize one.toList = files, other.toList = files' at alike
  congr 1
  induction alike with
  | nil => rfl
  | @cons file file' _ _ same _ inductionHypothesis =>
    simp only [List.findSome?_cons, inductionHypothesis]
    obtain rfl | ⟨fails, fails'⟩ := same
    · rfl
    · rw [toOption_load_eq_none_iff.mpr fails, toOption_load_eq_none_iff.mpr fails']

end

/-- Where the fields of a configuration come from under an environment, whichever way it is come
by. -/
structure Precedence (environment : String → Option String) : Prop where
  loaded : ∀ file outcome, loadOverridden (.ofEnvironment environment) file = .ok outcome ↔
    ∃ entries, contents? file = some entries ∧ Fits entries ∧ Governed environment entries outcome
  loads : ∀ file, Loads file ↔
    ∃ outcome, loadOverridden (.ofEnvironment environment) file = .ok outcome
  unfiled : Governed environment [] (ofVariables (.ofEnvironment environment))
  /-- The first candidate that loads is the one that counts. -/
  first : ∀ user machine working before file after outcome,
    [user, machine, working] = before ++ file :: after → (∀ earlier ∈ before, ¬Loads earlier) →
      loadOverridden (.ofEnvironment environment) file = .ok outcome →
        search (.ofEnvironment environment) ⟨user, machine, working⟩ = outcome
  otherwise : ∀ candidates, (∀ file ∈ candidates.toList, ¬Loads file) →
    search (.ofEnvironment environment) candidates = ofVariables (.ofEnvironment environment)
  /-- What is in a candidate that does not load makes no difference. -/
  skipped : ∀ one other : Candidates,
    List.Forall₂ Alike one.toList other.toList →
      search (.ofEnvironment environment) one = search (.ofEnvironment environment) other
  /-- Fields without a variable are the same under any environment. -/
  steady : ∀ field ∈ Field.fixed, ∀ other,
    (∀ file outcome outcome', loadOverridden (.ofEnvironment environment) file = .ok outcome →
      loadOverridden (.ofEnvironment other) file = .ok outcome' →
        field.get outcome.1 = field.get outcome'.1) ∧
    field.get (ofVariables (.ofEnvironment environment)).1 =
      field.get (ofVariables (.ofEnvironment other)).1 ∧
    ∀ candidates, field.get (search (.ofEnvironment environment) candidates).1 =
      field.get (search (.ofEnvironment other) candidates).1
  /-- No other variable can stand for nothing. -/
  sure : ∀ field ∉ Field.fallible, field.complaint? environment = none
  again : ∀ configuration, (Variables.ofEnvironment environment).apply
      ((Variables.ofEnvironment environment).apply configuration).1 =
    (Variables.ofEnvironment environment).apply configuration

theorem get_apply_of_fixed {field : Field} (isFixed : field ∈ Field.fixed)
    (environment : String → Option String) (configuration : Configuration) :
    field.get ((Variables.ofEnvironment environment).apply configuration).1 =
      field.get configuration := by
  rw [Variables.get_apply, Field.voiced?_eq_none environment isFixed, Option.getD_none]

/-- Under every environment, variables come before the file and the file before the defaults, field
by field, and only the first file that loads counts. -/
theorem precedence (environment : String → Option String) : Precedence environment := by
  constructor
  case loaded => exact fun file outcome => overridden_eq_ok_iff
  case loads =>
    intro file
    simp only [loads_iff, loadOverridden_eq_ok_iff]
    constructor
    · rintro ⟨configuration, loaded⟩
      exact ⟨_, configuration, loaded, rfl⟩
    · rintro ⟨-, configuration, loaded, -⟩
      exact ⟨configuration, loaded⟩
  case unfiled => exact governed_ofVariables
  case first =>
    intro user machine working before file after outcome places fails overridden
    obtain ⟨configuration, loaded, rfl⟩ := loadOverridden_eq_ok_iff.mp overridden
    have listed : (Candidates.mk user machine working).toList = before ++ file :: after := places
    rw [search_eq, found_of_first listed fails loaded]
  case otherwise =>
    intro candidates fails
    rw [search_eq, found_of_none fails, ofVariables]
  case skipped =>
    intro one other alike
    rw [search_eq, search_eq, found_of_alike alike]
  case steady =>
    intro field isFixed other
    refine ⟨fun file outcome outcome' overridden overridden' => ?_, ?_, fun candidates => ?_⟩
    · obtain ⟨configuration, loaded, rfl⟩ := loadOverridden_eq_ok_iff.mp overridden
      obtain ⟨_, loaded', rfl⟩ := loadOverridden_eq_ok_iff.mp overridden'
      cases loaded.symm.trans loaded'
      simp only [get_apply_of_fixed isFixed]
    · simp only [ofVariables, get_apply_of_fixed isFixed]
    · simp only [search_eq, get_apply_of_fixed isFixed]
  case sure => exact fun field infallible => Field.complaint?_eq_none environment infallible
  case again => exact Variables.apply_apply environment

end HubRelay.Configuration

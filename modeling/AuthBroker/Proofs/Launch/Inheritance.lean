import AuthBroker.Broker
import AuthBroker.Proofs.Environment

namespace AuthBroker.Launch

/-! What the helper inherits.

Its environment is the restriction of the broker's variables to the names that are configured, and its
arguments are those of its mode.  A request has no part in either.
-/

variable {surrounding : Variables} {name wanted : String} {value : List UInt8} {names others : List String}

/-- Names that a variable of a process can have. -/
def Nameable (names : List String) : Prop :=
  ∀ name ∈ names, name ≠ "" ∧ '=' ∉ name.toList ∧ '\x00' ∉ name.toList

instance (names : List String) : Decidable (Nameable names) :=
  inferInstanceAs (Decidable (∀ name ∈ names, name ≠ "" ∧ '=' ∉ name.toList ∧ '\x00' ∉ name.toList))

theorem isVariableName_iff :
    isVariableName name = true ↔ name ≠ "" ∧ '=' ∉ name.toList ∧ '\x00' ∉ name.toList := by
  simp [isVariableName, and_assoc]

theorem get?_forward_self (surrounding : Variables) (environment : Environment (List UInt8))
    (named : isVariableName name = true) :
    (forward surrounding environment name).get? name =
      (surrounding.value? name).or (environment.get? name) := by
  rw [forward, if_pos named]
  cases surrounding.value? name with
  | none => rfl
  | some value => exact Environment.get?_insert_self

theorem get?_forward_of_ne (surrounding : Variables) (environment : Environment (List UInt8))
    (different : wanted ≠ name) :
    (forward surrounding environment name).get? wanted = environment.get? wanted := by
  unfold forward
  split
  · split
    · exact Environment.get?_insert_of_ne different
    · rfl
  · rfl

theorem restrict_concat (surrounding : Variables) (names : List String) (last : String) :
    restrict surrounding (names ++ [last]) = forward surrounding (restrict surrounding names) last := by
  rw [restrict, List.foldl_append]
  rfl

/-- A variable is in the environment of the helper if its name is listed and it is set. -/
theorem get?_restrict (named : Nameable names) :
    (restrict surrounding names).get? name = some value ↔
      name ∈ names ∧ surrounding.value? name = some value := by
  -- from the last name on, since it is the one that is forwarded to what all others made
  induction names using List.reverseRecOn with
  | nil => simp [restrict]
  | append_singleton names last ih =>
      have before := ih fun name member => named name (List.mem_append_left _ member)
      rw [restrict_concat, List.mem_append, List.mem_singleton]
      by_cases same : name = last
      · rw [← same, get?_forward_self _ _ (isVariableName_iff.mpr (named name (by simp [same])))]
        cases found : surrounding.value? name with
        | none => simp [found, before]
        | some value => simp
      · rw [get?_forward_of_ne _ _ same, before, or_iff_left same]

/-- Neither the order of the names counts nor how often one is given. -/
theorem restrict_congr (named : Nameable names) (same : ∀ name, name ∈ others ↔ name ∈ names) :
    restrict surrounding others = restrict surrounding names := by
  have otherNamed : Nameable others := fun name member => named name ((same name).mp member)
  refine Environment.ext_get? fun name value => ?_
  rw [get?_restrict otherNamed, get?_restrict named, same]

theorem mem_variableOctets_plan {config : Config} (named : Nameable config.forwardEnv) (executable : FilePath)
    (mode : Mode) (text : List UInt8) :
    text ∈ (plan config executable surrounding mode).variableOctets ↔
      ∃ name ∈ config.forwardEnv, ∃ value, surrounding.value? name = some value ∧
        text = Text.Utf8.bytes name ++ equalsSign :: value := by
  rw [variableOctets, List.mem_map]
  constructor
  · intro found
    obtain ⟨⟨name, value⟩, member, rfl⟩ := found
    obtain ⟨listed, present⟩ := (get?_restrict named).mp (Environment.get?_eq_some_iff.mpr member)
    exact ⟨name, listed, value, present, rfl⟩
  · intro found
    obtain ⟨name, listed, value, present, rfl⟩ := found
    have restricted := (get?_restrict named).mpr ⟨listed, present⟩
    exact ⟨(name, value), Environment.get?_eq_some_iff.mp restricted, rfl⟩

theorem launch_attempt (broker : Broker) (surroundings : Surroundings) (request : Request)
    (script : List Helper.Action) (cancellation : Cancellation) :
    (broker.attempt surroundings request script cancellation).launch =
      plan broker.config surroundings.executable surroundings.environment request.mode := by
  unfold Broker.attempt
  dsimp only
  split <;> rfl

/-- What a helper is launched with.  Its environment holds the variables of the broker that are configured, with
their values, and no others, and it is the same for all lists of the same names and for all requests.  Its one
argument is the quiet flag if it is to run a program; else it has none.  Any other request of the mode makes the same
launch. -/
theorem inherits_configured (broker : Broker) (surroundings : Surroundings) (request : Request)
    (script : List Helper.Action) (cancellation : Cancellation) (named : Nameable broker.config.forwardEnv) :
    let launch := (broker.attempt surroundings request script cancellation).launch
    (∀ name value, launch.environment.get? name = some value ↔
      name ∈ broker.config.forwardEnv ∧ surroundings.environment.value? name = some value) ∧
    (∀ text, text ∈ launch.variableOctets ↔
      ∃ name ∈ broker.config.forwardEnv, ∃ value, surroundings.environment.value? name = some value ∧
        text = Text.Utf8.bytes name ++ equalsSign :: value) ∧
    (∀ (other : Broker) (executable : FilePath) (files : FileTree) (request' : Request)
      (script' : List Helper.Action) (cancellation' : Cancellation),
      (∀ name, name ∈ other.config.forwardEnv ↔ name ∈ broker.config.forwardEnv) →
      (other.attempt ⟨executable, files, surroundings.environment⟩ request' script' cancellation').launch.environment =
        launch.environment) ∧
    (request.mode = .run → launch.arguments = ["-q"]) ∧ (request.mode = .probe → launch.arguments = []) ∧
    ∀ (request' : Request) (script' : List Helper.Action) (cancellation' : Cancellation),
      request'.mode = request.mode →
      (broker.attempt surroundings request' script' cancellation').launch = launch := by
  intro launch
  have planned : launch =
      plan broker.config surroundings.executable surroundings.environment request.mode :=
    launch_attempt broker surroundings request script cancellation
  refine ⟨fun name value => ?_, fun text => ?_, ?_, fun mode => ?_, fun mode => ?_, ?_⟩
  · rw [planned]
    exact get?_restrict named
  · rw [planned]
    exact mem_variableOctets_plan named surroundings.executable request.mode text
  · intro other executable files request' script' cancellation' same
    rw [launch_attempt, planned]
    exact restrict_congr named same
  · rw [planned, plan, mode]
    rfl
  · rw [planned, plan, mode]
    rfl
  · intro request' script' cancellation' mode
    rw [launch_attempt, planned, mode]

/-- One name is given twice and one is not set; a value is no text, a variable occurs twice and one is not to be
forwarded.  The request has settings of its own for the names. -/
theorem inherits_configured_repeated :
    let broker := Broker.english { Config.standard with forwardEnv := ["TZ", "A", "TZ", "UNSET"] }
    let environment : Variables := ⟨[(Text.Utf8.bytes "A", [0xFF]), (Text.Utf8.bytes "SECRET", [0x78]),
      (Text.Utf8.bytes "TZ", [0x55]), (Text.Utf8.bytes "TZ", [])]⟩
    let request := Request.run "alice" ⟨"pw"⟩ ["x"] (.ofList [("A", "1"), ("UNSET", "2")])
    let launch := (broker.attempt ⟨.ofString "/opt/broker", ⟨[]⟩, environment⟩ request [] .never).launch
    Nameable broker.config.forwardEnv ∧ launch.environment.get? "A" = some [0xFF] ∧
      launch.environment.get? "TZ" = some [0x55] ∧ launch.environment.get? "SECRET" = none ∧
      launch.environment.get? "UNSET" = none ∧ launch.arguments = ["-q"] := by
  intro broker environment request launch
  have named : Nameable broker.config.forwardEnv := by decide +kernel
  obtain ⟨values, -, -, quiet, -, -⟩ :=
    inherits_configured broker ⟨.ofString "/opt/broker", ⟨[]⟩, environment⟩ request [] .never named
  have missing {name : String} (absent : name ∉ broker.config.forwardEnv ∨ environment.value? name = none) :
      launch.environment.get? name = none := by
    refine Option.eq_none_iff_forall_ne_some.mpr fun value found => ?_
    obtain ⟨listed, present⟩ := (values name value).mp found
    rcases absent with unlisted | unset
    · exact unlisted listed
    · exact nomatch unset.symm.trans present
  refine ⟨named, (values _ _).mpr ⟨by decide, by decide +kernel⟩, (values _ _).mpr ⟨by decide, by decide +kernel⟩,
    missing (.inl (by decide)), missing (.inr (by decide +kernel)), quiet rfl⟩

end AuthBroker.Launch

import ClusterLaunch.Invocation.Request
import ClusterLaunch.Proofs.Attempt
import ClusterLaunch.Proofs.Binary64.Value
import ClusterLaunch.Proofs.Settings.Overlay
import ClusterLaunch.Proofs.Toml.Blank

/-! # What a request is composed of

A request takes its settings from the configuration document, and an option that is given settles
its own field and no other. What is wrong with an invocation is reported in a fixed order. The
options come last in it, so the document is refused for a value that an option would replace.
-/

namespace ClusterLaunch

namespace LaunchRequest

variable {invocation : Invocation}

section

variable {α : Type} {ofName? : String → Option α} {unknown : String → RequestError}
  {before after : α} {option : Option String}

/-- What the name of an option stands for, or what there is already if the option is not given. -/
def choose (ofName? : String → Option α) (unknown : String → RequestError) (before : α) :
    Option String → Except RequestError α
  | none => .ok before
  | some name =>
      match ofName? name with
      | some choice => .ok choice
      | none => .error (unknown name)

/-- An option leads from one value of its field to another. -/
def Leads (ofName? : String → Option α) (option : Option String) (before after : α) : Prop :=
  match option with
  | none => after = before
  | some name => ofName? name = some after

/-- The option, if it is given, names something. -/
def Names (ofName? : String → Option α) (option : Option String) : Prop :=
  ∀ name, option = some name → ∃ choice, ofName? name = some choice

theorem choose_eq_ok_iff :
    choose ofName? unknown before option = .ok after ↔ Leads ofName? option before after := by
  cases option with
  | none => simp [choose, Leads, eq_comm]
  | some name => cases named : ofName? name <;> simp [choose, Leads, named]

private theorem choose_eq_error_iff {error : RequestError} :
    choose ofName? unknown before option = .error error ↔
      ∃ name, option = some name ∧ ofName? name = none ∧ error = unknown name := by
  cases option with
  | none => simp [choose]
  | some name => cases named : ofName? name <;> simp [choose, named, eq_comm]

theorem Leads.names (leads : Leads ofName? option before after) : Names ofName? option := by
  rintro name rfl
  exact ⟨after, leads⟩

theorem Names.exists_leads (names : Names ofName? option) (before : α) :
    ∃ after, Leads ofName? option before after := by
  cases option with
  | none => exact ⟨before, rfl⟩
  | some name => exact names name rfl

end

theorem overridePolicy_eq (settings : Settings) (option : Option String) :
    overridePolicy settings option =
      (choose PeerPolicy.ofName? .unknownPolicy settings.peerPolicy option).map
        fun policy => { settings with peerPolicy := policy } := by
  cases option with
  | none => rfl
  | some name =>
      rw [overridePolicy, choose]
      cases PeerPolicy.ofName? name <;> rfl

theorem overrideFormat_eq (settings : Settings) (option : Option String) :
    overrideFormat settings option =
      (choose PayloadFormat.ofName? .unknownFormat settings.payloadFormat option).map
        fun format => { settings with payloadFormat := format } := by
  cases option with
  | none => rfl
  | some name =>
      rw [overrideFormat, choose]
      cases PayloadFormat.ofName? name <;> rfl

/-- The document that is written on one line, with a plus sign for each newline. -/
def documentText (config : String) : String :=
  String.ofList (config.toList.map fun c => if c = '+' then '\n' else c)

/-- The text holds no character but blanks. -/
def Blank (text : String) : Prop := ∀ c ∈ text.toList, Text.isBlank c = true

/-- The settings that a configuration comes to before the options have their say. -/
def Provides (config : String) (base : Settings) : Prop :=
  Settings.ofDocument (some (documentText config)) = .ok base ∨
    Blank (documentText config) ∧ base = Settings.standard

theorem allBlank_iff {text : String} : Text.allBlank text.toList = true ↔ Blank text := by
  rw [Text.allBlank, List.all_eq_true]
  rfl

theorem documentOf_eq (config : String) :
    documentOf config =
      if Text.allBlank (documentText config).toList then none else some (documentText config) := by
  unfold documentOf documentText
  rw [String.toList_ofList]

private theorem ofDocument_of_blank {text : String} (blank : Blank text) {settings : Settings}
    (read : Settings.ofDocument (some text) = .ok settings) : settings = Settings.standard := by
  rw [Settings.ofDocument] at read
  split at read
  · cases read
  · next table parsed =>
    rw [Toml.read_of_allBlank (allBlank_iff.2 blank) parsed] at read
    cases read
    rfl

theorem ofDocument_eq_ok_iff {config : String} {base : Settings} :
    Settings.ofDocument (documentOf config) = .ok base ↔ Provides config base := by
  rw [documentOf_eq, Provides, ← allBlank_iff]
  split
  · next blank =>
    simp only [blank, true_and]
    constructor
    · intro read
      cases read
      exact .inr rfl
    · rintro (read | rfl)
      · rw [ofDocument_of_blank (allBlank_iff.1 blank) read]
        rfl
      · rfl
  · next visible => simp [visible]

theorem ofDocument_eq_error_iff {config : String} {error : SettingsError} :
    Settings.ofDocument (documentOf config) = .error error ↔
      ¬Blank (documentText config) ∧
        Settings.ofDocument (some (documentText config)) = .error error := by
  rw [documentOf_eq, ← allBlank_iff]
  split
  · next blank =>
    simp only [blank, not_true_eq_false, false_and, iff_false]
    nofun
  · next visible => simp [visible]

/-- There can be so many replicas. -/
def ReplicasInRange (replicas : Int) : Prop := 1 ≤ replicas ∧ replicas ≤ 255

def RateInRange (failRate : Option Binary64) : Prop :=
  ∀ rate, failRate = some rate → rate.InUnitInterval

theorem ReplicasInRange.exists_population {replicas : Int} (counted : ReplicasInRange replicas) :
    ∃ population : UInt8, (population.toNat : Int) = replicas := by
  unfold ReplicasInRange at counted
  refine ⟨UInt8.ofNat replicas.toNat, ?_⟩
  rw [UInt8.toNat_ofNat']
  omega

theorem populationOf_eq_ok_iff {replicas : Int} {population : UInt8} :
    populationOf replicas = .ok population ↔
      ReplicasInRange replicas ∧ (population.toNat : Int) = replicas := by
  unfold populationOf ReplicasInRange
  split
  · next within =>
    simp only [Except.ok.injEq, within, and_self, true_and]
    constructor
    · rintro rfl
      rw [UInt8.toNat_ofNat']
      omega
    · intro same
      rw [← same, Int.toNat_natCast, UInt8.ofNat_toNat]
  · next without =>
    refine iff_of_false nofun ?_
    rintro ⟨within, -⟩
    exact without within

theorem populationOf_eq_error_iff {replicas : Int} {error : RequestError} :
    populationOf replicas = .error error ↔
      ¬ReplicasInRange replicas ∧ error = .replicasOutOfRange replicas := by
  unfold populationOf ReplicasInRange
  split
  · next within => simp [within]
  · next without =>
    rw [Except.error.injEq, eq_comm]
    simp only [without, not_false_eq_true, true_and]

theorem checkRate_eq_ok_iff {failRate : Option Binary64} :
    checkRate failRate = .ok () ↔ RateInRange failRate := by
  cases failRate with
  | none => simp [checkRate, RateInRange]
  | some rate =>
      simp only [checkRate, RateInRange, Option.some.injEq, forall_eq',
        ← Binary64.inUnitInterval_iff]
      cases rate.inUnitInterval <;> simp

theorem checkRate_eq_error_iff {failRate : Option Binary64} {error : RequestError} :
    checkRate failRate = .error error ↔
      ∃ rate, failRate = some rate ∧ ¬rate.InUnitInterval ∧ error = .rateOutOfRange rate := by
  cases failRate with
  | none => simp [checkRate]
  | some rate =>
      simp only [checkRate, Option.some.injEq, exists_eq_left', ← Binary64.inUnitInterval_iff]
      cases rate.inUnitInterval <;> simp [eq_comm]

/-- The request is what the invocation asks for, with settings from the document where no option
    settles them. -/
structure Composes (invocation : Invocation) (request : LaunchRequest) : Prop where
  counted : ReplicasInRange invocation.replicas
  likely : RateInRange invocation.failRate
  population : (request.population.toNat : Int) = invocation.replicas
  failRate : request.failRate = invocation.failRate
  settings : ∃ base policy format, Provides invocation.config base ∧
    Leads PeerPolicy.ofName? invocation.peerPolicy base.peerPolicy policy ∧
    Leads PayloadFormat.ofName? invocation.payloadFormat base.payloadFormat format ∧
    request.settings = { base with peerPolicy := policy, payloadFormat := format }

/-- The error of the first condition that the invocation does not meet. -/
inductive Refuses (invocation : Invocation) : RequestError → Prop where
  | replicas (outside : ¬ReplicasInRange invocation.replicas) :
      Refuses invocation (.replicasOutOfRange invocation.replicas)
  | rate {rate : Binary64} (counted : ReplicasInRange invocation.replicas)
      (given : invocation.failRate = some rate) (outside : ¬rate.InUnitInterval) :
      Refuses invocation (.rateOutOfRange rate)
  | settings {error : SettingsError} (counted : ReplicasInRange invocation.replicas)
      (likely : RateInRange invocation.failRate) (visible : ¬Blank (documentText invocation.config))
      (invalid : Settings.ofDocument (some (documentText invocation.config)) = .error error) :
      Refuses invocation (.settings error)
  | policy {base : Settings} {name : String} (counted : ReplicasInRange invocation.replicas)
      (likely : RateInRange invocation.failRate) (provided : Provides invocation.config base)
      (given : invocation.peerPolicy = some name) (unknown : PeerPolicy.ofName? name = none) :
      Refuses invocation (.unknownPolicy name)
  | format {base : Settings} {name : String} (counted : ReplicasInRange invocation.replicas)
      (likely : RateInRange invocation.failRate) (provided : Provides invocation.config base)
      (policy : Names PeerPolicy.ofName? invocation.peerPolicy)
      (given : invocation.payloadFormat = some name) (unknown : PayloadFormat.ofName? name = none) :
      Refuses invocation (.unknownFormat name)

theorem ofInvocation_eq_ok_iff {request : LaunchRequest} :
    ofInvocation invocation = .ok request ↔ Composes invocation request := by
  unfold ofInvocation
  simp only [bind_eq_ok_iff, mapError_eq_ok_iff, map_eq_ok_iff, populationOf_eq_ok_iff,
    ofDocument_eq_ok_iff, overridePolicy_eq, overrideFormat_eq, choose_eq_ok_iff]
  constructor
  · rintro ⟨population, ⟨counted, same⟩, passed, likely, base, provided, _, ⟨policy, first, rfl⟩,
      _, ⟨format, second, rfl⟩, made⟩
    cases made
    exact ⟨counted, checkRate_eq_ok_iff.1 likely, same, rfl, base, policy, format, provided, first,
      second, rfl⟩
  · rintro ⟨counted, likely, same, rate, base, policy, format, provided, first, second, settings⟩
    obtain ⟨population, _, _⟩ := request
    cases rate
    cases settings
    exact ⟨population, ⟨counted, same⟩, (), checkRate_eq_ok_iff.2 likely, base, provided, _,
      ⟨policy, first, rfl⟩, _, ⟨format, second, rfl⟩, rfl⟩

theorem ofInvocation_eq_error_iff {error : RequestError} :
    ofInvocation invocation = .error error ↔ Refuses invocation error := by
  unfold ofInvocation
  simp only [bind_eq_error_iff, mapError_eq_error_iff, mapError_eq_ok_iff, map_eq_error_iff,
    map_eq_ok_iff, populationOf_eq_error_iff, populationOf_eq_ok_iff, checkRate_eq_error_iff,
    ofDocument_eq_error_iff, ofDocument_eq_ok_iff, overridePolicy_eq, overrideFormat_eq,
    choose_eq_error_iff, choose_eq_ok_iff]
  constructor
  · rintro (⟨outside, rfl⟩ |
      ⟨population, ⟨counted, -⟩, ⟨rate, given, outside, rfl⟩ | ⟨_, rate, later⟩⟩)
    · exact .replicas outside
    · exact .rate counted given outside
    have likely : RateInRange invocation.failRate := checkRate_eq_ok_iff.1 rate
    obtain ⟨cause, ⟨visible, invalid⟩, rfl⟩ | ⟨base, provided, ⟨name, given, unknown, rfl⟩ |
      ⟨_, ⟨policy, leads, -⟩, ⟨name, given, unknown, rfl⟩ | ⟨_, -, made⟩⟩⟩ := later
    · exact .settings counted likely visible invalid
    · exact .policy counted likely provided given unknown
    · exact .format counted likely provided leads.names given unknown
    · cases made
  · intro refuses
    cases refuses with
    | replicas outside => exact .inl ⟨outside, rfl⟩
    | rate counted given outside =>
        obtain ⟨population, same⟩ := counted.exists_population
        exact .inr ⟨population, ⟨counted, same⟩, .inl ⟨_, given, outside, rfl⟩⟩
    | settings counted likely visible invalid =>
        obtain ⟨population, same⟩ := counted.exists_population
        exact .inr ⟨population, ⟨counted, same⟩, .inr ⟨(), checkRate_eq_ok_iff.2 likely,
          .inl ⟨_, ⟨visible, invalid⟩, rfl⟩⟩⟩
    | policy counted likely provided given unknown =>
        obtain ⟨population, same⟩ := counted.exists_population
        exact .inr ⟨population, ⟨counted, same⟩, .inr ⟨(), checkRate_eq_ok_iff.2 likely,
          .inr ⟨_, provided, .inl ⟨_, given, unknown, rfl⟩⟩⟩⟩
    | @format base _ counted likely provided names given unknown =>
        obtain ⟨population, same⟩ := counted.exists_population
        obtain ⟨policy, leads⟩ := names.exists_leads base.peerPolicy
        exact .inr ⟨population, ⟨counted, same⟩, .inr ⟨(), checkRate_eq_ok_iff.2 likely,
          .inr ⟨_, provided, .inr ⟨_, ⟨policy, leads, rfl⟩, .inl ⟨_, given, unknown, rfl⟩⟩⟩⟩⟩

/-- How the request of an invocation is composed, and for what it is refused. -/
structure Composition (invocation : Invocation) : Prop where
  accepted : ∀ request, ofInvocation invocation = .ok request ↔ Composes invocation request
  refused : ∀ error, ofInvocation invocation = .error error ↔ Refuses invocation error
  /-- No option hides a value of the document that does not convert, even if it is that of the
      field that the option settles. -/
  unhidden : ReplicasInRange invocation.replicas → RateInRange invocation.failRate →
    ∀ table, Toml.read? (documentText invocation.config) = some table →
    ∀ field : SettingsField, ¬field.Converts table → ∀ policy format, ∃ error,
      FirstFails table SettingsField.all error ∧
      ofInvocation { invocation with peerPolicy := policy, payloadFormat := format } =
        .error (.settings (.conversion error))

theorem ofInvocation_composition (invocation : Invocation) : Composition invocation := by
  refine ⟨fun request => ofInvocation_eq_ok_iff, fun error => ofInvocation_eq_error_iff, ?_⟩
  intro counted likely table parsed field unconverted policy format
  have visible : ¬Blank (documentText invocation.config) := by
    intro blank
    rw [Toml.read_of_allBlank (allBlank_iff.2 blank) parsed] at unconverted
    exact unconverted nofun
  obtain ⟨error, first⟩ : ∃ error, FirstFails table SettingsField.all error :=
    exists_firstFails field.mem_all unconverted
  have invalid : Settings.ofDocument (some (documentText invocation.config)) =
      .error (.conversion error) := by
    rw [Settings.ofDocument, parsed]
    exact Settings.ofTable_of_fails (Toml.read_keyed parsed) first
  exact ⟨error, first, ofInvocation_eq_error_iff.2 (.settings counted likely visible invalid)⟩

/-- The option settles the policy, and still the document may not name one that there is not. -/
example : ofInvocation
    ⟨3, none, "stagger_ms = 0+peer_policy = 'nobody'", some "include_self", none, false⟩ =
      .error (.settings (.conversion (.unknownVariant "nobody" ["exclude_self", "include_self"]))) := by
  decide +kernel

end LaunchRequest

end ClusterLaunch

import ClusterLaunch.Payload.Arguments
import ClusterLaunch.Proofs.Address.Endpoint
import ClusterLaunch.Proofs.Binary64.Text
import ClusterLaunch.Proofs.Payload.Reading

/-! # Encoding and decoding agree

The text of a configuration spells a row of fields that make up that configuration, so it is
read back from its text; its positional arguments are read back one by one. Only a rate
stands in the way of the positional format, and no decoded configuration of that format has
one.
-/

namespace ClusterLaunch

open Text

namespace Field

def ofEndpoint (label : Label) (endpoint : Endpoint) : Field :=
  ⟨label.name, .quoted (String.ofList endpoint.text)⟩

def ofRate (rate : Binary64) : Field :=
  ⟨Label.failRate.name, .bare (String.ofList rate.text)⟩

private theorem unescapes_quote (value : List Char) :
    Unescapes '\'' (value.flatMap fun c => if c = '\'' ∨ c = '\\' then ['\\', c] else [c])
      value := by
  induction value with
  | nil => exact .nil
  | cons c rest ih =>
      rw [List.flatMap_cons]
      split
      · exact .escaped ih
      · next plain =>
        obtain ⟨inside, unescaped⟩ := not_or.1 plain
        exact .plain unescaped inside ih

theorem name_letters (label : Label) : ∀ c ∈ label.name.toList, isNameChar c = true := by
  apply List.all_eq_true.1
  cases label <;> rfl

theorem name_ne_nil (label : Label) : label.name.toList ≠ [] := by
  cases label <;> exact List.cons_ne_nil _ _

theorem endpointText_spelled (label : Label) (endpoint : Endpoint) :
    Spelled (endpointText label endpoint) (ofEndpoint label endpoint) := by
  have value : FieldValue.Spelled (quote endpoint.text) (.quoted (String.ofList endpoint.text)) :=
    .quoted rfl (unescapes_quote endpoint.text)
  have spelled := Spelled.mk (name_ne_nil label) (name_letters label) (List.forall_mem_nil _) value
  rwa [String.ofList_toList] at spelled

private theorem rateText_spelled (rate : Binary64) : Spelled (rateText rate) (ofRate rate) := by
  have letters : ∀ c ∈ rate.text, isBlank c = false ∧ isQuote c = false := by
    intro c member
    rcases rate.text_inside c member with letter | rfl | rfl
    · refine ⟨isBlank_of_isNameChar (by simp [isNameChar, letter]), ?_⟩
      by_contra quote
      simp only [isQuote, Bool.not_eq_false, Bool.or_eq_true, beq_iff_eq] at quote
      rcases quote with rfl | rfl <;> cases letter
    · decide
    · decide
  obtain ⟨first, rest, whole⟩ := List.exists_cons_of_ne_nil rate.text_ne_nil
  have value : FieldValue.Spelled rate.text (.bare (String.ofList rate.text)) := by
    rw [whole] at letters ⊢
    exact .bare (letters first (List.mem_cons_self ..)).2 fun c member => (letters c member).1
  have spelled := Spelled.mk (name_ne_nil .failRate) (name_letters .failRate)
    (List.forall_mem_nil _) value
  rwa [String.ofList_toList] at spelled

end Field

theorem RowSpelled.blank {text : List Char} {fields : List Field} {c : Char}
    (h : RowSpelled text fields) (blank : isBlank c = true) : RowSpelled (c :: text) fields := by
  cases h with
  | done gap => exact .done (List.forall_mem_cons.2 ⟨blank, gap⟩)
  | field gap spelled apart more =>
      exact .field (List.forall_mem_cons.2 ⟨blank, gap⟩) spelled apart more

theorem rowSpelled_intercalate {texts : List (List Char)} {fields : List Field}
    (spelled : List.Forall₂ Field.Spelled texts fields) :
    RowSpelled ([' '].intercalate texts) fields := by
  induction spelled with
  | nil => exact .done (List.forall_mem_nil _)
  | @cons text field texts fields first rest ih =>
      cases rest with
      | nil =>
          have row := RowSpelled.field (List.forall_mem_nil _) first
            (fun _ further => absurd rfl further) (.done (List.forall_mem_nil _))
          simpa using row
      | cons next others =>
          have row := RowSpelled.field (List.forall_mem_nil _) first
            (fun _ _ => ⟨' ', _, rfl, rfl⟩) (ih.blank rfl)
          simpa [List.intercalate_cons_cons] using row

namespace ReplicaConfig

/-- The fields of a configuration in the order in which they are written. -/
def fields (config : ReplicaConfig) : List Field :=
  [Field.ofEndpoint .client config.client, Field.ofEndpoint .peer config.peer] ++
    config.failRate.toList.map Field.ofRate ++
    config.replicas.map (Field.ofEndpoint .replica)

private theorem fieldTexts_spelled (config : ReplicaConfig) :
    List.Forall₂ Field.Spelled config.fieldTexts config.fields := by
  have rates : List.Forall₂ Field.Spelled (config.failRate.toList.map Field.rateText)
      (config.failRate.toList.map Field.ofRate) := by
    rw [List.forall₂_map_left_iff, List.forall₂_map_right_iff, List.forall₂_same]
    exact fun rate _ => Field.rateText_spelled rate
  have replicas : List.Forall₂ Field.Spelled
      (config.replicas.map (Field.endpointText .replica))
      (config.replicas.map (Field.ofEndpoint .replica)) := by
    rw [List.forall₂_map_left_iff, List.forall₂_map_right_iff, List.forall₂_same]
    exact fun endpoint _ => Field.endpointText_spelled .replica endpoint
  exact .cons (Field.endpointText_spelled .client config.client)
    (.cons (Field.endpointText_spelled .peer config.peer) (List.rel_append rates replicas))

end ReplicaConfig

theorem spellsEndpoint_text (endpoint : Endpoint) :
    SpellsEndpoint (.quoted (String.ofList endpoint.text)) endpoint :=
  ⟨_, rfl, endpoint.parse?_text⟩

theorem spellsRate_text (rate : Binary64) : SpellsRate (.bare (String.ofList rate.text)) rate := by
  refine ⟨_, rfl, ?_⟩
  rw [String.toList_ofList, rate.read_text]

private theorem valuesOf_replicas (label : Label) (replicas : List Endpoint) :
    valuesOf label (replicas.map (Field.ofEndpoint .replica)) =
      if label = .replica then
        replicas.map fun endpoint => .quoted (String.ofList endpoint.text)
      else [] := by
  induction replicas with
  | nil => simp [valuesOf]
  | cons endpoint rest ih =>
      rw [List.map_cons, Field.ofEndpoint, valuesOf_cons, ih]
      cases label <;> simp

namespace ReplicaConfig

private theorem fields_known (config : ReplicaConfig) :
    ∀ field ∈ config.fields, ∃ label : Label, field.name = label.name := by
  simp only [fields, List.forall_mem_append, List.forall_mem_cons, List.forall_mem_map]
  exact ⟨⟨⟨⟨.client, rfl⟩, ⟨.peer, rfl⟩, List.forall_mem_nil _⟩, fun _ _ => ⟨.failRate, rfl⟩⟩,
    fun _ _ => ⟨.replica, rfl⟩⟩

theorem valuesOf_fields (config : ReplicaConfig) (label : Label) :
    valuesOf label config.fields =
      match label with
      | .client => [.quoted (String.ofList config.client.text)]
      | .peer => [.quoted (String.ofList config.peer.text)]
      | .failRate => config.failRate.toList.map fun rate => .bare (String.ofList rate.text)
      | .replica => config.replicas.map fun endpoint => .quoted (String.ofList endpoint.text) := by
  obtain ⟨client, peer, failRate, replicas⟩ := config
  cases label <;> cases failRate <;>
    simp [fields, Field.ofEndpoint, Field.ofRate, valuesOf_cons, valuesOf_replicas]

theorem settles_fields (config : ReplicaConfig) : Settles config.fields config := by
  refine ⟨config.fields_known, ?_, ?_, ?_, ?_⟩
  · exact ⟨_, config.valuesOf_fields .client, spellsEndpoint_text _⟩
  · exact ⟨_, config.valuesOf_fields .peer, spellsEndpoint_text _⟩
  · rw [config.valuesOf_fields .failRate]
    cases config.failRate with
    | none => exact .inl ⟨rfl, rfl⟩
    | some rate => exact .inr ⟨_, rate, rfl, spellsRate_text rate, rfl⟩
  · rw [config.valuesOf_fields .replica, List.forall₂_map_left_iff, List.forall₂_same]
    exact fun endpoint _ => spellsEndpoint_text endpoint

theorem ofText_text (config : ReplicaConfig) : ofText config.text = .ok config :=
  ofText_eq_ok_of_row (rowSpelled_intercalate config.fieldTexts_spelled) config.settles_fields

theorem endpointArgument_toString (endpoint : Endpoint) :
    endpointArgument (toString endpoint) = .ok endpoint := by
  have parsed : Endpoint.parse? (toString endpoint) = some endpoint := endpoint.parse?_text
  simp [endpointArgument, parsed]

theorem ofArguments_positional_eq_ok_iff {client peer : String} {replicas : List String}
    {config : ReplicaConfig} :
    ofArguments .positional (client :: peer :: replicas) = .ok config ↔
      endpointArgument client = .ok config.client ∧ endpointArgument peer = .ok config.peer ∧
      config.failRate = none ∧
      List.Forall₂ (fun argument endpoint => endpointArgument argument = .ok endpoint) replicas
        config.replicas := by
  unfold ofArguments
  simp only [bind_eq_ok_iff, mapM_eq_ok_iff]
  constructor
  · rintro ⟨first, isFirst, second, isSecond, others, areOthers, same⟩
    cases same
    exact ⟨isFirst, isSecond, rfl, areOthers⟩
  · obtain ⟨first, second, rate, others⟩ := config
    rintro ⟨isFirst, isSecond, rfl, areOthers⟩
    exact ⟨first, isFirst, second, isSecond, others, areOthers, rfl⟩

theorem toArguments_eq_error_iff {config : ReplicaConfig} {format : PayloadFormat}
    {fault : PayloadError} :
    config.toArguments format = .error fault ↔
      format = .positional ∧ ∃ rate, config.failRate = some rate ∧ fault = .rateRefused rate := by
  cases format with
  | textFormat => simp [toArguments]
  | positional => cases rated : config.failRate <;> simp [toArguments, rated, eq_comm]

theorem ofArguments_toArguments {config : ReplicaConfig} {format : PayloadFormat}
    {arguments : List String} (encoded : config.toArguments format = .ok arguments) :
    ofArguments format arguments = .ok config := by
  cases format with
  | textFormat =>
      cases encoded
      refine mapError_eq_ok_iff.2 ?_
      rw [toText, String.toList_ofList, config.ofText_text]
  | positional =>
      unfold toArguments at encoded
      cases rated : config.failRate with
      | some rate =>
          rw [rated] at encoded
          cases encoded
      | none =>
          rw [rated] at encoded
          cases encoded
          refine ofArguments_positional_eq_ok_iff.2
            ⟨endpointArgument_toString _, endpointArgument_toString _, rated, ?_⟩
          rw [List.forall₂_map_left_iff, List.forall₂_same]
          exact fun endpoint _ => endpointArgument_toString endpoint

theorem toArguments_of_ofArguments {config : ReplicaConfig} {format : PayloadFormat}
    {arguments : List String} (decoded : ofArguments format arguments = .ok config) :
    ∃ again, config.toArguments format = .ok again ∧ again.length = arguments.length := by
  cases format with
  | textFormat =>
      cases arguments with
      | nil => cases decoded
      | cons argument rest =>
          cases rest with
          | nil => exact ⟨_, rfl, rfl⟩
          | cons => cases decoded
  | positional =>
      cases arguments with
      | nil => cases decoded
      | cons client rest =>
          cases rest with
          | nil => cases decoded
          | cons peer replicas =>
              obtain ⟨-, -, rateless, others⟩ := ofArguments_positional_eq_ok_iff.1 decoded
              refine ⟨(config.client :: config.peer :: config.replicas).map toString, ?_, ?_⟩
              · unfold toArguments
                rw [rateless]
              · simp [others.length_eq]

/-- Encoding fails exactly for a rate in the positional format. What is encoded is decoded as
    the same configuration, and what is decoded can be encoded in as many arguments, which
    are decoded as the same configuration again. -/
theorem roundTrip (config : ReplicaConfig) (format : PayloadFormat) :
    (∀ fault, config.toArguments format = .error fault ↔
      format = .positional ∧ ∃ rate, config.failRate = some rate ∧ fault = .rateRefused rate) ∧
    (∀ arguments, config.toArguments format = .ok arguments →
      ofArguments format arguments = .ok config) ∧
    (∀ arguments, ofArguments format arguments = .ok config →
      ∃ again, config.toArguments format = .ok again ∧ again.length = arguments.length ∧
        ofArguments format again = .ok config) := by
  refine ⟨fun fault => toArguments_eq_error_iff, fun arguments => ofArguments_toArguments, ?_⟩
  intro arguments decoded
  obtain ⟨again, encoded, asMany⟩ := toArguments_of_ofArguments decoded
  exact ⟨again, encoded, asMany, ofArguments_toArguments encoded⟩

theorem roundTrip_mapped_and_scoped :
    let config : ReplicaConfig := {
      client := .v4 ⟨127, 0, 0, 1⟩ 80
      peer := .v6 ⟨[0, 0, 0, 0, 0, 0xFFFF, 0x0102, 0x0304], rfl⟩ 0 81
      failRate := some (.number false ⟨0x3FE0000000000000, by decide⟩)
      replicas := [.v6 ⟨[0, 0, 0, 0, 0, 0, 0, 1], rfl⟩ 3 9] }
    let arguments :=
      ["my_addr:'127.0.0.1:80' my_paxos:'[::ffff:1.2.3.4]:81' fail_rate:0.5 replica:'[::1%3]:9'"]
    config.toArguments .textFormat = .ok arguments ∧
      ofArguments .textFormat arguments = .ok config := by
  intro config arguments
  have encoded : config.toArguments .textFormat = .ok arguments := by decide +kernel
  exact ⟨encoded, (roundTrip config .textFormat).2.1 arguments encoded⟩

end ReplicaConfig

end ClusterLaunch

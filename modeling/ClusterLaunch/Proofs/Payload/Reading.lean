import Mathlib.Tactic.MkIffOfInductiveProp
import ClusterLaunch.Payload.Text
import ClusterLaunch.Proofs.Payload.Row

/-! # What a text payload holds

Which rows of fields make up a configuration: a declarative reading in which the order of
the fields does not matter, but for the order of the peers. The main result is that reading
a text gives a configuration exactly if the text spells such a row.
-/

namespace ClusterLaunch

def valuesOf (label : Label) (fields : List Field) : List FieldValue :=
  (fields.filter (fun field => field.name == label.name)).map Field.value

/-- A value is quoted and its content is an endpoint. -/
def SpellsEndpoint (value : FieldValue) (endpoint : Endpoint) : Prop :=
  ∃ text, value = .quoted text ∧ Endpoint.parse? text = some endpoint

def SpellsRate (value : FieldValue) (rate : Binary64) : Prop :=
  ∃ text, value = .bare text ∧ Binary64.read text.toList = .ok rate

/-- Fields make up a configuration: no other names occur, each endpoint of the replica
    occurs once and the rate at most once, and the values are those of the configuration. -/
structure Settles (fields : List Field) (config : ReplicaConfig) : Prop where
  known : ∀ field ∈ fields, ∃ label : Label, field.name = label.name
  client : ∃ value, valuesOf .client fields = [value] ∧ SpellsEndpoint value config.client
  peer : ∃ value, valuesOf .peer fields = [value] ∧ SpellsEndpoint value config.peer
  failRate :
    (valuesOf .failRate fields = [] ∧ config.failRate = none) ∨
    ∃ value rate, valuesOf .failRate fields = [value] ∧ SpellsRate value rate ∧
      config.failRate = some rate
  replicas : List.Forall₂ SpellsEndpoint (valuesOf .replica fields) config.replicas

namespace FieldValue

theorem endpoint_eq_ok_iff {value : FieldValue} {result : Endpoint} :
    value.endpoint = .ok result ↔ SpellsEndpoint value result := by
  cases value with
  | bare text => simp [endpoint, SpellsEndpoint]
  | quoted text =>
      cases parsed : Endpoint.parse? text <;> simp [endpoint, SpellsEndpoint, parsed]

theorem rate_eq_ok_iff {value : FieldValue} {result : Binary64} :
    value.rate = .ok result ↔ SpellsRate value result := by
  cases value with
  | quoted text => simp [rate, SpellsRate]
  | bare text => cases parsed : Binary64.read text.toList <;> simp [rate, SpellsRate, parsed]

end FieldValue

theorem Label.ofName?_eq_some_iff {name : String} {label : Label} :
    ofName? name = some label ↔ name = label.name := by
  constructor
  · intro h
    unfold ofName? at h
    split at h <;> cases h <;> rfl
  · rintro rfl
    exact ofName?_name label

theorem Label.name_inj {label label' : Label} : label.name = label'.name ↔ label = label' := by
  refine ⟨fun same => ?_, congrArg name⟩
  have := congrArg ofName? same
  simpa [ofName?_name] using this

theorem valuesOf_cons (label label' : Label) (value : FieldValue) (fields : List Field) :
    valuesOf label (⟨label'.name, value⟩ :: fields) =
      if label' = label then value :: valuesOf label fields else valuesOf label fields := by
  by_cases same : label' = label
  · simp [valuesOf, same]
  · have different : label'.name ≠ label.name := fun names => same (Label.name_inj.1 names)
    simp [valuesOf, same, different]

/-- What values for a label that may occur once make of what was settled before. -/
inductive SettledBy {α : Type} (spells : FieldValue → α → Prop) :
    Option α → List FieldValue → Option α → Prop where
  | kept {before : Option α} : SettledBy spells before [] before
  | set {value : FieldValue} {result : α} (spelled : spells value result) :
      SettledBy spells none [value] (some result)

theorem settledBy_cons_iff {α : Type} {spells : FieldValue → α → Prop} {before after : Option α}
    {value : FieldValue} {values : List FieldValue} :
    SettledBy spells before (value :: values) after ↔
      ∃ result, spells value result ∧ before = none ∧
        SettledBy spells (some result) values after := by
  constructor
  · rintro ⟨⟩
    exact ⟨_, ‹_›, rfl, .kept⟩
  · rintro ⟨result, spelled, rfl, rest⟩
    cases rest
    exact .set spelled

namespace ConfigDraft

theorem settleOnce_eq_ok_iff {α : Type} {label : Label} {settled after : Option α} {value : α} :
    settleOnce label settled value = .ok after ↔ settled = none ∧ after = some value := by
  cases settled <;> simp [settleOnce, eq_comm]

/-- A value for a label that may occur once is taken if nothing was settled before. -/
theorem bind_settleOnce_eq_ok_iff {α : Type} {attempt : Except TextFault α} {label : Label}
    {settled : Option α} {update : Option α → ConfigDraft} {next : ConfigDraft} :
    (do
      let value ← attempt
      let after ← settleOnce label settled value
      return update after) = .ok next ↔
      ∃ value, attempt = .ok value ∧ settled = none ∧ next = update (some value) := by
  simp only [bind_eq_ok_iff, settleOnce_eq_ok_iff]
  constructor
  · rintro ⟨value, read, after, ⟨unsettled, rfl⟩, same⟩
    cases same
    exact ⟨value, read, unsettled, rfl⟩
  · rintro ⟨value, read, unsettled, rfl⟩
    exact ⟨value, read, some value, ⟨unsettled, rfl⟩, rfl⟩

/-- What a row of fields makes of a draft. -/
@[mk_iff]
structure Adds (draft : ConfigDraft) (fields : List Field) (after : ConfigDraft) : Prop where
  known : ∀ field ∈ fields, ∃ label : Label, field.name = label.name
  client : SettledBy SpellsEndpoint draft.client (valuesOf .client fields) after.client
  peer : SettledBy SpellsEndpoint draft.peer (valuesOf .peer fields) after.peer
  failRate : SettledBy SpellsRate draft.failRate (valuesOf .failRate fields) after.failRate
  replicas : ∃ more, after.replicas = draft.replicas ++ more ∧
    List.Forall₂ SpellsEndpoint (valuesOf .replica fields) more

theorem adds_nil_iff {draft after : ConfigDraft} : draft.Adds [] after ↔ after = draft := by
  constructor
  · rintro ⟨-, client, peer, failRate, more, replicas, spelled⟩
    cases draft
    cases after
    cases client
    cases peer
    cases failRate
    cases spelled
    simpa using replicas
  · rintro rfl
    exact ⟨nofun, .kept, .kept, .kept, [], by simp, .nil⟩

/-- What one value makes of a draft, by its label. -/
inductive Takes (draft : ConfigDraft) (value : FieldValue) : Label → ConfigDraft → Prop where
  | client {endpoint : Endpoint} (spelled : SpellsEndpoint value endpoint)
      (unsettled : draft.client = none) :
      Takes draft value .client { draft with client := some endpoint }
  | peer {endpoint : Endpoint} (spelled : SpellsEndpoint value endpoint)
      (unsettled : draft.peer = none) :
      Takes draft value .peer { draft with peer := some endpoint }
  | failRate {rate : Binary64} (spelled : SpellsRate value rate)
      (unsettled : draft.failRate = none) :
      Takes draft value .failRate { draft with failRate := some rate }
  | replica {endpoint : Endpoint} (spelled : SpellsEndpoint value endpoint) :
      Takes draft value .replica { draft with replicas := draft.replicas ++ [endpoint] }

theorem add_eq_ok_iff {draft next : ConfigDraft} {field : Field} :
    draft.add field = .ok next ↔
      ∃ label : Label, field.name = label.name ∧ draft.Takes field.value label next := by
  constructor
  · intro added
    unfold add at added
    split at added
    · cases added
    · next named =>
      obtain ⟨result, spelled, unsettled, rfl⟩ := bind_settleOnce_eq_ok_iff.1 added
      exact ⟨_, Label.ofName?_eq_some_iff.1 named,
        .client (FieldValue.endpoint_eq_ok_iff.1 spelled) unsettled⟩
    · next named =>
      obtain ⟨result, spelled, unsettled, rfl⟩ := bind_settleOnce_eq_ok_iff.1 added
      exact ⟨_, Label.ofName?_eq_some_iff.1 named,
        .peer (FieldValue.endpoint_eq_ok_iff.1 spelled) unsettled⟩
    · next named =>
      obtain ⟨result, spelled, unsettled, rfl⟩ := bind_settleOnce_eq_ok_iff.1 added
      exact ⟨_, Label.ofName?_eq_some_iff.1 named,
        .failRate (FieldValue.rate_eq_ok_iff.1 spelled) unsettled⟩
    · next named =>
      obtain ⟨result, spelled, same⟩ := bind_eq_ok_iff.1 added
      cases same
      exact ⟨_, Label.ofName?_eq_some_iff.1 named,
        .replica (FieldValue.endpoint_eq_ok_iff.1 spelled)⟩
  · rintro ⟨label, named, takes⟩
    unfold add
    rw [Label.ofName?_eq_some_iff.2 named]
    cases takes with
    | client spelled unsettled | peer spelled unsettled =>
        exact bind_settleOnce_eq_ok_iff.2
          ⟨_, FieldValue.endpoint_eq_ok_iff.2 spelled, unsettled, rfl⟩
    | failRate spelled unsettled =>
        exact bind_settleOnce_eq_ok_iff.2
          ⟨_, FieldValue.rate_eq_ok_iff.2 spelled, unsettled, rfl⟩
    | replica spelled =>
        exact bind_eq_ok_iff.2 ⟨_, FieldValue.endpoint_eq_ok_iff.2 spelled, rfl⟩

theorem adds_cons_iff {draft after : ConfigDraft} {field : Field} {fields : List Field} :
    draft.Adds (field :: fields) after ↔
      ∃ next, draft.add field = .ok next ∧ next.Adds fields after := by
  simp only [add_eq_ok_iff]
  constructor
  · rintro ⟨known, client, peer, failRate, more, replicas, spelled⟩
    obtain ⟨label, named⟩ := known field (List.mem_cons_self ..)
    have others : ∀ field ∈ fields, ∃ label : Label, field.name = label.name :=
      fun other member => known other (List.mem_cons_of_mem _ member)
    obtain ⟨name, value⟩ := field
    obtain rfl : name = label.name := named
    simp only [valuesOf_cons] at client peer failRate spelled
    cases label with
    | client =>
        simp only [reduceCtorEq, if_true, if_false, settledBy_cons_iff] at client peer failRate spelled
        obtain ⟨endpoint, first, unsettled, rest⟩ := client
        exact ⟨_, ⟨.client, rfl, .client first unsettled⟩, others, rest, peer, failRate, more,
          replicas, spelled⟩
    | peer =>
        simp only [reduceCtorEq, if_true, if_false, settledBy_cons_iff] at client peer failRate spelled
        obtain ⟨endpoint, first, unsettled, rest⟩ := peer
        exact ⟨_, ⟨.peer, rfl, .peer first unsettled⟩, others, client, rest, failRate, more,
          replicas, spelled⟩
    | failRate =>
        simp only [reduceCtorEq, if_true, if_false, settledBy_cons_iff] at client peer failRate spelled
        obtain ⟨rate, first, unsettled, rest⟩ := failRate
        exact ⟨_, ⟨.failRate, rfl, .failRate first unsettled⟩, others, client, peer, rest, more,
          replicas, spelled⟩
    | replica =>
        simp only [reduceCtorEq, if_true, if_false] at client peer failRate spelled
        cases spelled with
        | @cons _ endpoint _ more first rest =>
            exact ⟨_, ⟨.replica, rfl, .replica first⟩, others, client, peer, failRate, more,
              by simpa using replicas, rest⟩
  · rintro ⟨next, ⟨label, named, takes⟩, others, client, peer, failRate, more, replicas, spelled⟩
    have known : ∀ other ∈ field :: fields, ∃ label : Label, other.name = label.name :=
      List.forall_mem_cons.2 ⟨⟨label, named⟩, others⟩
    obtain ⟨name, value⟩ := field
    obtain rfl : name = label.name := named
    rw [adds_iff]
    refine ⟨known, ?_⟩
    simp only [valuesOf_cons]
    cases takes with
    | client first unsettled =>
        simp only [reduceCtorEq, if_true, if_false, settledBy_cons_iff]
        exact ⟨⟨_, first, unsettled, client⟩, peer, failRate, more, replicas, spelled⟩
    | peer first unsettled =>
        simp only [reduceCtorEq, if_true, if_false, settledBy_cons_iff]
        exact ⟨client, ⟨_, first, unsettled, peer⟩, failRate, more, replicas, spelled⟩
    | failRate first unsettled =>
        simp only [reduceCtorEq, if_true, if_false, settledBy_cons_iff]
        exact ⟨client, peer, ⟨_, first, unsettled, failRate⟩, more, replicas, spelled⟩
    | @replica endpoint first =>
        simp only [reduceCtorEq, if_true, if_false]
        exact ⟨client, peer, failRate, endpoint :: more, by simpa using replicas,
          .cons first spelled⟩

theorem addAll_eq_ok_iff {draft after : ConfigDraft} {items : List (Except FieldFault Field)} :
    draft.addAll items = .ok after ↔
      ∃ fields, items = fields.map .ok ∧ draft.Adds fields after := by
  induction items generalizing draft with
  | nil =>
      constructor
      · intro same
        cases same
        exact ⟨[], rfl, adds_nil_iff.2 rfl⟩
      · rintro ⟨fields, empty, adds⟩
        cases List.map_eq_nil_iff.1 empty.symm
        rw [adds_nil_iff.1 adds, addAll]
  | cons item rest ih =>
      cases item with
      | error fault =>
          constructor
          · nofun
          · rintro ⟨_ | ⟨field, fields⟩, same, -⟩ <;> cases same
      | ok field =>
          rw [addAll, bind_eq_ok_iff]
          constructor
          · rintro ⟨next, added, more⟩
            obtain ⟨fields, rfl, adds⟩ := ih.1 more
            exact ⟨field :: fields, rfl, adds_cons_iff.2 ⟨next, added, adds⟩⟩
          · rintro ⟨_ | ⟨first, fields⟩, same, adds⟩
            · cases same
            · simp only [List.map_cons, List.cons.injEq, Except.ok.injEq] at same
              obtain ⟨rfl, rfl⟩ := same
              obtain ⟨next, added, more⟩ := adds_cons_iff.1 adds
              exact ⟨next, added, ih.2 ⟨fields, rfl, more⟩⟩

theorem finish_eq_ok_iff {draft : ConfigDraft} {config : ReplicaConfig} :
    draft.finish = .ok config ↔
      draft = ⟨some config.client, some config.peer, config.failRate, config.replicas⟩ := by
  obtain ⟨client, peer, failRate, replicas⟩ := draft
  obtain ⟨client', peer', failRate', replicas'⟩ := config
  cases client <;> cases peer <;> simp [finish]

/-- From an empty draft, a row makes up a finished one exactly if it settles a
    configuration. -/
theorem adds_empty_iff {fields : List Field} {config : ReplicaConfig} :
    empty.Adds fields ⟨some config.client, some config.peer, config.failRate, config.replicas⟩ ↔
      Settles fields config := by
  constructor
  · rintro ⟨known, client, peer, failRate, more, replicas, spelled⟩
    refine ⟨known, ?_, ?_, ?_, ?_⟩
    · generalize valuesOf .client fields = values at client
      cases client with
      | set spelled => exact ⟨_, rfl, spelled⟩
    · generalize valuesOf .peer fields = values at peer
      cases peer with
      | set spelled => exact ⟨_, rfl, spelled⟩
    · generalize valuesOf .failRate fields = values at failRate
      generalize config.failRate = settled at failRate
      cases failRate with
      | kept => exact .inl ⟨rfl, rfl⟩
      | set spelled => exact .inr ⟨_, _, rfl, spelled, rfl⟩
    · rw [show config.replicas = more from replicas]
      exact spelled
  · rintro ⟨known, ⟨value, client, spelled⟩, ⟨value', peer, spelled'⟩, failRate, replicas⟩
    refine ⟨known, ?_, ?_, ?_, config.replicas, rfl, replicas⟩
    · rw [client]
      exact .set spelled
    · rw [peer]
      exact .set spelled'
    · rcases failRate with ⟨none, same⟩ | ⟨rate, settled, one, spelled, same⟩
      · rw [none, same]
        exact .kept
      · rw [one, same]
        exact .set spelled

end ConfigDraft

namespace ReplicaConfig

theorem ofText_eq_ok_of_row {text : List Char} {fields : List Field} {config : ReplicaConfig}
    (spelled : RowSpelled text fields) (settles : Settles fields config) :
    ofText text = .ok config := by
  refine bind_eq_ok_iff.2 ⟨_, ConfigDraft.addAll_eq_ok_iff.2
    ⟨fields, Field.row_eq_map_ok_iff.2 spelled, ConfigDraft.adds_empty_iff.2 settles⟩, ?_⟩
  exact ConfigDraft.finish_eq_ok_iff.2 rfl

/-- A text is read as a configuration exactly if it spells a row of fields that make up that
    configuration. -/
theorem ofText_eq_ok_iff (text : String) (config : ReplicaConfig) :
    ofText text.toList = .ok config ↔
      ∃ fields, RowSpelled text.toList fields ∧ Settles fields config := by
  constructor
  · intro read
    obtain ⟨draft, added, finished⟩ := bind_eq_ok_iff.1 read
    obtain rfl := ConfigDraft.finish_eq_ok_iff.1 finished
    obtain ⟨fields, row, adds⟩ := ConfigDraft.addAll_eq_ok_iff.1 added
    exact ⟨fields, Field.row_eq_map_ok_iff.1 row, ConfigDraft.adds_empty_iff.1 adds⟩
  · rintro ⟨fields, spelled, settles⟩
    exact ofText_eq_ok_of_row spelled settles

end ReplicaConfig

end ClusterLaunch

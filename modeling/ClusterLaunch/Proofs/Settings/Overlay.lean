import ClusterLaunch.Proofs.Attempt
import ClusterLaunch.Proofs.Text.ByteOrder
import ClusterLaunch.Proofs.Toml.Keys
import ClusterLaunch.Settings.Document

/-! # Settings overlaid by a document

Of a document only its table counts: each field of the settings is the value at its key, if
there is one that converts, and the standard one otherwise. Where that fails, the first field
that does not convert is reported, or else the first of the keys that are no fields. In which
order the document has its keys makes no difference to any of this.
-/

namespace ClusterLaunch

namespace SettingsField

def Content : SettingsField → Type
  | serverExecutable => String
  | bindHost => Host
  | clientPortBase | peerPortBase => UInt16
  | staggerMs => UInt64
  | payloadFormat => PayloadFormat
  | peerPolicy => PeerPolicy
  | reapOnExit => Bool

def convert (value : Toml.Value) : (field : SettingsField) → Except ConversionError field.Content
  | serverExecutable => value.toPlainString
  | bindHost => value.toHost
  | clientPortBase | peerPortBase => value.toUInt16
  | staggerMs => value.toUInt64
  | payloadFormat =>
      value.toVariant ([PayloadFormat.positional, .textFormat].map fun format => (format.name, format))
  | peerPolicy =>
      value.toVariant ([PeerPolicy.excludeSelf, .includeSelf].map fun policy => (policy.name, policy))
  | reapOnExit => value.toBoolean

theorem mem_all (field : SettingsField) : field ∈ all := by
  cases field <;> decide

private theorem nodup_all : all.Nodup := by decide

end SettingsField

namespace Settings

def get (settings : Settings) : (field : SettingsField) → field.Content
  | .serverExecutable => settings.serverExecutable
  | .bindHost => settings.bindHost
  | .clientPortBase => settings.clientPortBase
  | .peerPortBase => settings.peerPortBase
  | .staggerMs => settings.staggerMs
  | .payloadFormat => settings.payloadFormat
  | .peerPolicy => settings.peerPolicy
  | .reapOnExit => settings.reapOnExit

def put (settings : Settings) : (field : SettingsField) → field.Content → Settings
  | .serverExecutable, content => { settings with serverExecutable := content }
  | .bindHost, content => { settings with bindHost := content }
  | .clientPortBase, content => { settings with clientPortBase := content }
  | .peerPortBase, content => { settings with peerPortBase := content }
  | .staggerMs, content => { settings with staggerMs := content }
  | .payloadFormat, content => { settings with payloadFormat := content }
  | .peerPolicy, content => { settings with peerPolicy := content }
  | .reapOnExit, content => { settings with reapOnExit := content }

theorem get_put_same (settings : Settings) (field : SettingsField) (content : field.Content) :
    (settings.put field content).get field = content := by
  cases field <;> rfl

theorem get_put_other (settings : Settings) {field other : SettingsField} (different : other ≠ field)
    (content : field.Content) : (settings.put field content).get other = settings.get other := by
  cases field <;> cases other <;> first | rfl | exact absurd rfl different

end Settings

private theorem bind_return_eq_map {α : Type} (attempt : Except ConversionError α)
    (f : α → Settings) :
    (do return f (← attempt)) = attempt.map f := by
  cases attempt <;> rfl

theorem SettingsField.set_eq (value : Toml.Value) (settings : Settings) (field : SettingsField) :
    field.set value settings = (field.convert value).map (settings.put field) := by
  cases field <;> exact bind_return_eq_map _ _

def SettingsField.Converts (table : Toml.Table) (field : SettingsField) : Prop :=
  ∀ value, (field.key, value) ∈ table → ∃ content, field.convert value = .ok content

/-- The first of some fields whose value in the table does not convert, by its error. -/
inductive FirstFails (table : Toml.Table) : List SettingsField → ConversionError → Prop where
  | here {field : SettingsField} {rest : List SettingsField} {value : Toml.Value}
      {error : ConversionError} (present : (field.key, value) ∈ table)
      (fails : field.convert value = .error error) : FirstFails table (field :: rest) error
  | behind {field : SettingsField} {rest : List SettingsField} {error : ConversionError}
      (converts : field.Converts table) (more : FirstFails table rest error) :
      FirstFails table (field :: rest) error

theorem FirstFails.exists_not_converts {table : Toml.Table} {fields : List SettingsField}
    {error : ConversionError} (fails : FirstFails table fields error) :
    ∃ field ∈ fields, ¬field.Converts table := by
  induction fails with
  | @here field rest value error present fails =>
      refine ⟨field, List.mem_cons_self .., ?_⟩
      intro converts
      obtain ⟨content, converted⟩ := converts value present
      rw [converted] at fails
      cases fails
  | behind _ _ ih =>
      obtain ⟨field, member, fails⟩ := ih
      exact ⟨field, List.mem_cons_of_mem _ member, fails⟩

theorem exists_firstFails {table : Toml.Table} {fields : List SettingsField} {field : SettingsField}
    (member : field ∈ fields) (unconverted : ¬field.Converts table) :
    ∃ error, FirstFails table fields error := by
  induction fields with
  | nil => cases member
  | cons first rest ih =>
      by_cases converts : first.Converts table
      · rcases List.mem_cons.1 member with rfl | behind
        · exact absurd converts unconverted
        · obtain ⟨error, fails⟩ := ih behind
          exact ⟨error, .behind converts fails⟩
      · simp only [SettingsField.Converts, not_forall] at converts
        obtain ⟨value, present, fails⟩ := converts
        cases converted : first.convert value with
        | error error => exact ⟨error, .here present converted⟩
        | ok content => exact absurd ⟨content, converted⟩ fails

/-- What has become of settings in some fields: the converted value where there is one, and
    what was there before elsewhere. -/
structure Overridden (table : Toml.Table) (before : Settings) (fields : List SettingsField)
    (after : Settings) : Prop where
  present : ∀ field ∈ fields, ∀ value, (field.key, value) ∈ table →
    field.convert value = .ok (after.get field)
  absent : ∀ field, field ∉ fields ∨ field.key ∉ table.map Prod.fst →
    after.get field = before.get field

namespace Settings

variable {table : Toml.Table} {settings : Settings} {field : SettingsField}
  {fields : List SettingsField}

theorem override_cons_of_absent (absent : field.key ∉ table.map Prod.fst) :
    override table settings (field :: fields) = override table settings fields := by
  rw [override, Toml.Table.get?, Toml.lookup_eq_none_iff.2 absent]

theorem override_cons_of_present (keyed : Toml.Keyed table) {value : Toml.Value}
    (present : (field.key, value) ∈ table) :
    override table settings (field :: fields) =
      (field.convert value).bind fun content =>
        override table (settings.put field content) fields := by
  rw [override, Toml.Table.get?, (Toml.lookup_eq_some_iff keyed).2 present]
  dsimp only
  rw [SettingsField.set_eq]
  cases field.convert value <;> rfl

theorem exists_value_of_key {name : String} (member : name ∈ table.map Prod.fst) :
    ∃ value, (name, value) ∈ table := by
  obtain ⟨⟨name, value⟩, held, rfl⟩ := List.mem_map.1 member
  exact ⟨value, held⟩

theorem value_unique (keyed : Toml.Keyed table) {name : String} {value value' : Toml.Value}
    (held : (name, value) ∈ table) (held' : (name, value') ∈ table) : value = value' := by
  have found := (Toml.lookup_eq_some_iff keyed).2 held
  rw [(Toml.lookup_eq_some_iff keyed).2 held'] at found
  cases found
  rfl

theorem override_eq_error_iff (keyed : Toml.Keyed table) {error : ConversionError} :
    override table settings fields = .error error ↔ FirstFails table fields error := by
  induction fields generalizing settings with
  | nil => constructor <;> nofun
  | cons field rest ih =>
      by_cases member : field.key ∈ table.map Prod.fst
      · obtain ⟨value, present⟩ := exists_value_of_key member
        rw [override_cons_of_present keyed present]
        cases converted : field.convert value with
        | error first =>
            constructor
            · intro same
              cases same
              exact .here present converted
            · intro fails
              cases fails with
              | here present' fails =>
                  rw [value_unique keyed present' present, converted] at fails
                  exact congrArg Except.error (Except.error.inj fails)
              | behind converts _ =>
                  obtain ⟨content, found⟩ := converts value present
                  rw [converted] at found
                  cases found
        | ok content =>
            change override table (settings.put field content) rest = .error error ↔ _
            rw [ih]
            constructor
            · refine .behind ?_
              intro value' present'
              exact ⟨content, by rw [value_unique keyed present' present, converted]⟩
            · intro fails
              cases fails with
              | here present' fails =>
                  rw [value_unique keyed present' present, converted] at fails
                  cases fails
              | behind _ more => exact more
      · rw [override_cons_of_absent member, ih]
        constructor
        · refine .behind ?_
          intro value present
          exact absurd (List.mem_map_of_mem present) member
        · intro fails
          cases fails with
          | here present _ => exact absurd (List.mem_map_of_mem present) member
          | behind _ more => exact more

private theorem overridden_of_override (keyed : Toml.Keyed table) (distinct : fields.Nodup)
    {after : Settings} (overrides : override table settings fields = .ok after) :
    Overridden table settings fields after := by
  induction fields generalizing settings with
  | nil =>
      cases overrides
      exact ⟨nofun, fun _ _ => rfl⟩
  | cons field rest ih =>
      obtain ⟨fresh, distinct⟩ := List.nodup_cons.1 distinct
      by_cases member : field.key ∈ table.map Prod.fst
      · obtain ⟨value, present⟩ := exists_value_of_key member
        rw [override_cons_of_present keyed present] at overrides
        obtain ⟨content, converted, overrides⟩ := bind_eq_ok_iff.1 overrides
        obtain ⟨others, kept⟩ := ih distinct overrides
        have own : after.get field = content := by
          rw [kept field (.inl fresh), get_put_same]
        refine ⟨List.forall_mem_cons.2 ⟨?_, others⟩, ?_⟩
        · intro value' present'
          rw [value_unique keyed present' present, converted, own]
        · intro other outside
          have different : other ≠ field := by
            rintro rfl
            exact outside.elim (absurd (List.mem_cons_self ..)) (absurd member)
          rw [kept other (outside.imp_left (mt (List.mem_cons_of_mem field))),
            get_put_other settings different]
      · rw [override_cons_of_absent member] at overrides
        obtain ⟨others, kept⟩ := ih distinct overrides
        refine ⟨List.forall_mem_cons.2 ⟨?_, others⟩, ?_⟩
        · intro value present
          exact absurd (List.mem_map_of_mem present) member
        · intro other outside
          by_cases same : other = field
          · exact kept other (.inr (same ▸ member))
          · refine kept other (outside.imp_left ?_)
            intro outside inside
            exact outside (List.mem_cons_of_mem field inside)

private theorem foldl_least (first : String) (rest : List String) :
    let least := rest.foldl (fun least name => if name < least then name else least) first
    least ∈ first :: rest ∧ ∀ name ∈ first :: rest, least ≤ name := by
  induction rest generalizing first with
  | nil => simp
  | cons second rest ih =>
      rw [List.foldl_cons]
      obtain ⟨member, least⟩ := ih (if second < first then second else first)
      generalize rest.foldl _ _ = found at member least ⊢
      split at member
      · next less =>
        rw [if_pos less] at least
        refine ⟨List.mem_cons_of_mem first member, List.forall_mem_cons.2 ⟨?_, least⟩⟩
        have below := least second (List.mem_cons_self ..)
        exact String.le_trans below (String.not_lt.1 (String.lt_asymm less))
      · next notLess =>
        rw [if_neg notLess] at least
        obtain ⟨below, others⟩ := List.forall_mem_cons.1 least
        refine ⟨?_, List.forall_mem_cons.2 ⟨below, List.forall_mem_cons.2 ⟨?_, others⟩⟩⟩
        · rcases List.mem_cons.1 member with same | inside
          · exact same ▸ List.mem_cons_self ..
          · exact List.mem_cons_of_mem first (List.mem_cons_of_mem second inside)
        · exact String.le_trans below (String.not_lt.1 notLess)

theorem least?_eq_some_iff {names : List String} {name : String} :
    least? names = some name ↔ name ∈ names ∧ ∀ other ∈ names, name ≤ other := by
  cases names with
  | nil => simp [least?]
  | cons first rest =>
      obtain ⟨member, least⟩ := foldl_least first rest
      rw [least?, Option.some.injEq]
      constructor
      · rintro rfl
        exact ⟨member, least⟩
      · rintro ⟨inside, below⟩
        exact String.le_antisymm (least name inside) (below _ member)

theorem least?_perm {names names' : List String} (order : names.Perm names') :
    least? names = least? names' := by
  refine Option.ext ?_
  intro name
  simp only [least?_eq_some_iff, order.mem_iff]

end Settings

namespace Toml.Value.Alike

variable {value value' : Toml.Value}

theorem toText_eq (alike : value.Alike value') (expected : String) :
    value.toText expected = value'.toText expected := by
  cases alike <;> rfl

theorem toNatural_eq (alike : value.Alike value') (expected : String) (limit : Nat) :
    value.toNatural expected limit = value'.toNatural expected limit := by
  cases alike <;> rfl

private theorem toBoolean_eq (alike : value.Alike value') : value.toBoolean = value'.toBoolean := by
  cases alike <;> rfl

private theorem toVariant_single_eq {α : Type} (alike : value.Alike value') (name : String)
    (variants : List (String × α)) :
    toVariant variants (.table [(name, value)]) = toVariant variants (.table [(name, value')]) := by
  cases alike with
  | refl => rfl
  | array => rfl
  | @table entries middle entries' order keys values =>
      have lengths := Toml.Table.Alike.length_eq ⟨middle, order, keys, values⟩
      match entries', entries with
      | [], [] => rfl
      | _ :: _, _ :: _ => rfl
      | [], _ :: _ | _ :: _, [] => cases lengths

theorem toVariant_eq {α : Type} (alike : value.Alike value') (variants : List (String × α)) :
    value.toVariant variants = value'.toVariant variants := by
  cases alike with
  | refl => rfl
  | array => rfl
  | @table entries middle entries' order keys values =>
      have alike : Toml.Table.Alike entries entries' := ⟨middle, order, keys, values⟩
      have lengths := alike.length_eq
      match entries', entries with
      | [], [] => rfl
      | _ :: _ :: _, _ :: _ :: _ => rfl
      | [(name', held')], [(name, held)] =>
          cases List.singleton_perm.1 order
          obtain ⟨rfl, -⟩ := List.cons.inj keys
          cases values with
          | cons same _ => exact toVariant_single_eq same name variants
      | [], _ :: _ | _ :: _, [] | [_], _ :: _ :: _ | _ :: _ :: _, [_] => cases lengths

end Toml.Value.Alike

private theorem SettingsField.convert_alike {value value' : Toml.Value} (alike : value.Alike value')
    (field : SettingsField) : field.convert value = field.convert value' := by
  cases field with
  | serverExecutable => exact alike.toText_eq _
  | bindHost => rw [convert, convert, Toml.Value.toHost, Toml.Value.toHost, alike.toText_eq]
  | clientPortBase | peerPortBase =>
      rw [convert, convert, Toml.Value.toUInt16, Toml.Value.toUInt16, alike.toNatural_eq]
  | staggerMs => rw [convert, convert, Toml.Value.toUInt64, Toml.Value.toUInt64, alike.toNatural_eq]
  | payloadFormat => exact alike.toVariant_eq _
  | peerPolicy => exact alike.toVariant_eq _
  | reapOnExit => exact alike.toBoolean_eq

namespace Settings

variable {table table' : Toml.Table}

theorem override_alike (keyed : Toml.Keyed table) (alike : table.Alike table')
    (settings : Settings) (fields : List SettingsField) :
    override table settings fields = override table' settings fields := by
  induction fields generalizing settings with
  | nil => rfl
  | cons field rest ih =>
      have found := alike.get_rel keyed field.key
      rw [override, override]
      generalize table.get? field.key = held at found
      generalize table'.get? field.key = held' at found
      cases found with
      | none => exact ih settings
      | @some value value' same =>
          dsimp only
          rw [SettingsField.set_eq, SettingsField.set_eq, SettingsField.convert_alike same field]
          cases field.convert value' with
          | error error => rfl
          | ok content => exact ih (settings.put field content)

theorem ofTable_alike (keyed : Toml.Keyed table) (alike : table.Alike table') :
    ofTable table = ofTable table' := by
  have beside : (table.keysBeside (SettingsField.all.map SettingsField.key)).Perm
      (table'.keysBeside (SettingsField.all.map SettingsField.key)) :=
    alike.keys_perm.filter _
  rw [ofTable, ofTable, override_alike keyed alike, least?_perm beside]

/-- A key of the table that is none of the fields. -/
def UnknownKey (table : Toml.Table) (name : String) : Prop :=
  name ∈ table.map Prod.fst ∧ ∀ field : SettingsField, name ≠ field.key

theorem mem_keysBeside_iff {name : String} :
    name ∈ table.keysBeside (SettingsField.all.map SettingsField.key) ↔ UnknownKey table name := by
  have known : name ∈ SettingsField.all.map SettingsField.key ↔ ∃ field, name = SettingsField.key field := by
    rw [List.mem_map]
    constructor
    · rintro ⟨field, -, rfl⟩
      exact ⟨field, rfl⟩
    · rintro ⟨field, rfl⟩
      exact ⟨field, field.mem_all, rfl⟩
  simp only [Toml.Table.keysBeside, List.mem_filter, UnknownKey]
  refine and_congr_right fun _ => ?_
  simp [known]

/-- What a document with a table comes to: the answer depends on the keys and values of the
    table, and not on their order. -/
structure Overlays (table : Toml.Table) (answer : Except SettingsError Settings) : Prop where
  order : SettingsField.all.map SettingsField.key =
    ["server_exe", "bind_host", "client_port_base", "peer_port_base", "stagger_ms",
      "payload_format", "peer_policy", "reap_on_exit"]
  accepted : answer.isOk = true ↔
    (∀ name ∈ table.map Prod.fst, ∃ field, name = SettingsField.key field) ∧
      ∀ field : SettingsField, field.Converts table
  settled : ∀ settings, answer = .ok settings → ∀ field : SettingsField,
    (field.key ∉ table.map Prod.fst → settings.get field = standard.get field) ∧
    ∀ value, (field.key, value) ∈ table → field.convert value = .ok (settings.get field)
  /-- A value that does not convert is reported even if there are unknown keys. -/
  conversion : ∀ error, answer = .error (.conversion error) ↔
    FirstFails table SettingsField.all error
  unknown : ∀ name, answer = .error (.unknownField name) ↔
    (∀ field : SettingsField, field.Converts table) ∧ UnknownKey table name ∧
      ∀ other, UnknownKey table other → Text.bytes name ≤ Text.bytes other
  decided : answer ≠ .error .syntaxError
  reordered : ∀ document' table', Toml.read? document' = some table' → table.Alike table' →
    ofDocument (some document') = answer

theorem ofTable_of_fails (keyed : Toml.Keyed table) {error : ConversionError}
    (fails : FirstFails table SettingsField.all error) :
    ofTable table = .error (.conversion error) := by
  rw [ofTable, (override_eq_error_iff keyed).2 fails]

/-- What reading a table comes to. -/
inductive Outcome (table : Toml.Table) : Except SettingsError Settings → Prop where
  | fails {error : ConversionError} (first : FirstFails table SettingsField.all error) :
      Outcome table (.error (.conversion error))
  | unknown {name : String} (converts : ∀ field : SettingsField, field.Converts table)
      (beside : UnknownKey table name) (least : ∀ other, UnknownKey table other → name ≤ other) :
      Outcome table (.error (.unknownField name))
  | settled {settings : Settings} (converts : ∀ field : SettingsField, field.Converts table)
      (known : ∀ name, ¬UnknownKey table name)
      (overridden : Overridden table standard SettingsField.all settings) :
      Outcome table (.ok settings)

private theorem ofTable_outcome (keyed : Toml.Keyed table) : Outcome table (ofTable table) := by
  cases overrides : override table standard SettingsField.all with
  | error error =>
      have first := (override_eq_error_iff keyed).1 overrides
      rw [ofTable_of_fails keyed first]
      exact .fails first
  | ok settings =>
      have overridden := overridden_of_override keyed SettingsField.nodup_all overrides
      have converts : ∀ field : SettingsField, field.Converts table := by
        intro field value present
        exact ⟨_, overridden.present field field.mem_all value present⟩
      rw [ofTable, overrides]
      cases least : least? (table.keysBeside (SettingsField.all.map SettingsField.key)) with
      | none =>
          refine .settled converts ?_ overridden
          intro name unknown
          have member := mem_keysBeside_iff.2 unknown
          generalize table.keysBeside _ = names at least member
          cases names with
          | nil => cases member
          | cons first rest => cases least
      | some name =>
          obtain ⟨member, below⟩ := least?_eq_some_iff.1 least
          refine .unknown converts (mem_keysBeside_iff.1 member) ?_
          intro other unknown
          exact below other (mem_keysBeside_iff.2 unknown)

theorem not_converts_of_fails {error : ConversionError}
    (first : FirstFails table SettingsField.all error) :
    ¬∀ field : SettingsField, field.Converts table := by
  intro converts
  obtain ⟨field, -, unconverted⟩ := first.exists_not_converts
  exact unconverted (converts field)

private theorem ofTable_overlays (keyed : Toml.Keyed table) : Overlays table (ofTable table) := by
  have outcome := ofTable_outcome keyed
  refine ⟨rfl, ?_, ?_, ?_, ?_, ?_, ?_⟩
  · generalize ofTable table = answer at outcome ⊢
    cases outcome with
    | fails first =>
        refine iff_of_false nofun ?_
        rintro ⟨-, converts⟩
        exact not_converts_of_fails first converts
    | unknown _ beside _ =>
        refine iff_of_false nofun ?_
        rintro ⟨known, -⟩
        obtain ⟨field, same⟩ := known _ beside.1
        exact beside.2 field same
    | settled converts known _ =>
        refine iff_of_true rfl ⟨?_, converts⟩
        intro name member
        by_contra unknown
        exact known name ⟨member, not_exists.1 unknown⟩
  · intro settings same field
    rw [same] at outcome
    cases outcome with
    | settled _ _ overridden =>
        refine ⟨?_, overridden.present field field.mem_all⟩
        intro absent
        exact overridden.absent field (.inr absent)
  · intro error
    refine ⟨fun same => ?_, ofTable_of_fails keyed⟩
    rw [same] at outcome
    cases outcome with
    | fails first => exact first
  · intro name
    simp only [Text.bytes_le_iff]
    constructor
    · intro same
      rw [same] at outcome
      cases outcome with
      | unknown converts beside least => exact ⟨converts, beside, least⟩
    · rintro ⟨converts, beside, least⟩
      generalize ofTable table = answer at outcome ⊢
      cases outcome with
      | fails first => exact absurd converts (not_converts_of_fails first)
      | @unknown name' _ beside' least' =>
          rw [String.le_antisymm (least name' beside') (least' name beside)]
      | settled _ known _ => exact absurd beside (known name)
  · intro same
    rw [same] at outcome
    cases outcome
  · intro document' table' parsed alike
    rw [ofDocument, parsed]
    exact (ofTable_alike keyed alike).symm

/-- A document that has a table overlays the standard settings with it. -/
theorem ofDocument_overlays {document : String} {table : Toml.Table}
    (parsed : Toml.read? document = some table) : Overlays table (ofDocument (some document)) := by
  rw [ofDocument, parsed]
  exact ofTable_overlays (Toml.read_keyed parsed)

/-- A pause that does not convert is reported, although an unknown key stands before it. -/
theorem ofDocument_overlays_negative_pause :
    ∃ table, Toml.read? "x=1\nstagger_ms=-2" = some table ∧
      Overlays table (ofDocument (some "x=1\nstagger_ms=-2")) ∧
      FirstFails table SettingsField.all (.wrongValue "integer `-2`" "u64") := by
  obtain ⟨table, parsed⟩ : ∃ table, Toml.read? "x=1\nstagger_ms=-2" = some table :=
    Option.isSome_iff_exists.1 (by decide +kernel)
  have overlays := ofDocument_overlays parsed
  refine ⟨table, parsed, overlays, (overlays.conversion _).1 ?_⟩
  decide +kernel

end Settings

end ClusterLaunch

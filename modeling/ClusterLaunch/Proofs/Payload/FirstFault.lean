import ClusterLaunch.Proofs.Payload.Reading

/-! # Which field is blamed

A text that is no configuration is refused for the first of its fields that is wrong, and
the reader does not look past that field: whatever follows it behind a blank, the refusal is
the same one. Only three faults can go away when more text follows, since they say that
something is not there: a value, a closing quote, or an endpoint of the replica. The last of
these is reported for texts in which nothing is wrong but that it is absent.
-/

namespace ClusterLaunch

open Text

/-- Is something wrong with what is there, so that more text does not mend it? -/
def FieldFault.isLasting : FieldFault → Bool
  | nameExpected _ | colonExpected _ => true
  | valueMissing _ | quoteUnterminated _ => false

def TextFault.isLasting : TextFault → Bool
  | field fault => fault.isLasting
  | quotesExpected _ | quotesRefused _ | endpoint | rate _ | duplicate _ | unknown _ => true
  | missing _ => false

theorem FieldValue.EndsAt.append {value : FieldValue} {left rest : List Char} {blank : Char}
    (ends : value.EndsAt left) (h : isBlank blank = true) :
    value.EndsAt (left ++ blank :: rest) := by
  intro bare c member
  cases left with
  | nil =>
      cases member
      exact h
  | cons d left => exact ends bare c member

namespace Field

private theorem isNameChar_of_isBlank {c : Char} (h : isBlank c = true) : isNameChar c = false := by
  by_contra named
  have solid := isBlank_of_isNameChar (Bool.of_not_eq_false named)
  rw [h] at solid
  cases solid

private theorem ne_colon_of_isBlank {c : Char} (h : isBlank c = true) : c ≠ ':' := by
  rintro rfl
  cases h

private theorem read_append {text left rest : List Char} {field : Field} {blank : Char}
    (found : read text = .ok (field, left)) (h : isBlank blank = true) :
    read (text ++ blank :: rest) = .ok (field, left ++ blank :: rest) := by
  obtain ⟨front, rfl, spelled, ends⟩ := read_eq_ok_iff.1 found
  exact read_eq_ok_iff.2 ⟨front, List.append_assoc .., spelled, ends.append h⟩

private theorem not_isLasting_of_readValue {name : String} {text : List Char} {fault : FieldFault}
    (failed : readValue name text = .error fault) : fault.isLasting = false := by
  unfold readValue at failed
  split at failed
  · cases failed
    rfl
  · split at failed
    · split at failed
      · cases failed
      · cases failed
        rfl
    · cases failed

/-- A blank is no part of a name and no colon, so a name that stops before the text does, or
    with it, stops at the same place when a blank follows. -/
theorem read_lasting {first : Char} {text rest : List Char} {fault : FieldFault} {blank : Char}
    (failed : read (first :: text) = .error fault) (lasting : fault.isLasting = true)
    (h : isBlank blank = true) : read (first :: (text ++ blank :: rest)) = .error fault := by
  have outside : ∀ c ∈ ((first :: text).dropWhile isNameChar ++ blank :: rest).head?,
      isNameChar c = false := by
    intro c member
    cases behind : (first :: text).dropWhile isNameChar with
    | nil =>
        rw [behind] at member
        cases member
        exact isNameChar_of_isBlank h
    | cons d left =>
        rw [behind] at member
        exact head_dropWhile c (by rw [behind]; exact member)
  have inside : ∀ c ∈ (first :: text).takeWhile isNameChar, isNameChar c = true := inside_takeWhile
  obtain ⟨run, behind⟩ := span_run inside outside
  rw [← List.append_assoc, List.takeWhile_append_dropWhile, List.cons_append] at run behind
  unfold read at failed ⊢
  rw [run, behind]
  split at failed
  · next unnamed =>
    rw [if_pos unnamed]
    exact failed
  · next named =>
    rw [if_neg named]
    split at failed
    · have fails := not_isLasting_of_readValue (map_eq_error_iff.1 failed)
      rw [lasting] at fails
      cases fails
    · next uncoloned =>
      split
      · next tail same =>
        cases left : (first :: text).dropWhile isNameChar with
        | nil =>
            rw [left] at same
            cases same
            exact absurd rfl (ne_colon_of_isBlank h)
        | cons d left' =>
            rw [left] at same
            cases same
            exact absurd left (uncoloned left')
      · exact failed

private theorem row_congr {text text' : List Char} (same : skipBlank text = skipBlank text') :
    row text = row text' := by
  cases skipped : skipBlank text' with
  | nil =>
      rw [skipped] at same
      rw [row_blank (forall_isBlank_of_skipBlank same),
        row_blank (forall_isBlank_of_skipBlank skipped)]
  | cons first rest => rw [row_eq skipped, row_eq (same.trans skipped)]

theorem skipBlank_append_of_cons {text more tail : List Char} {first : Char}
    (skipped : skipBlank text = first :: tail) :
    skipBlank (text ++ more) = first :: (tail ++ more) := by
  have solid := isBlank_head_skipBlank skipped
  have whole : text = text.takeWhile isBlank ++ first :: tail := by
    rw [← skipped]
    exact List.takeWhile_append_dropWhile.symm
  rw [whole, List.append_assoc, List.cons_append]
  exact skipBlank_append inside_takeWhile (by simpa using solid)

/-- What a row holds when more follows behind a blank: the same fields, and then either what
    the rest holds or, in place of a fault that lasts, the same fault. -/
inductive Continues (rest : List Char) (row row' : List (Except FieldFault Field)) : Prop where
  | complete (fields : List Field) (before : row = fields.map .ok)
      (after : row' = fields.map .ok ++ Field.row rest)
  | faulty (fields : List Field) {fault : FieldFault} {more : List (Except FieldFault Field)}
      (before : row = fields.map .ok ++ [.error fault]) (after : row' = fields.map .ok ++ more)
      (lasts : fault.isLasting = true → more = [.error fault])

theorem Continues.cons {rest : List Char} {row row' : List (Except FieldFault Field)}
    (continues : Continues rest row row') (field : Field) :
    Continues rest (.ok field :: row) (.ok field :: row') := by
  cases continues with
  | complete fields before after =>
      subst before after
      exact .complete (field :: fields) rfl rfl
  | @faulty fields fault more before after lasts =>
      subst before after
      exact .faulty (field :: fields) rfl rfl lasts

theorem row_append (text rest : List Char) {blank : Char} (h : isBlank blank = true) :
    Continues rest (row text) (row (text ++ blank :: rest)) := by
  fun_induction row text with
  | case1 text skipped =>
      have blanks : ∀ c ∈ text ++ [blank], isBlank c = true :=
        List.forall_mem_append.2 ⟨forall_isBlank_of_skipBlank skipped, by simpa using h⟩
      have same : skipBlank (text ++ blank :: rest) = skipBlank rest := by
        rw [List.append_cons]
        exact List.dropWhile_append_of_pos blanks
      exact .complete [] rfl (row_congr same)
  | case2 text first tail skipped fault faulty =>
      refine .faulty [] rfl rfl ?_
      intro lasting
      rw [row_eq (skipBlank_append_of_cons skipped), read_lasting faulty lasting h]
  | case3 text first tail skipped field left found ih =>
      rw [row_eq (skipBlank_append_of_cons skipped), ← List.cons_append, read_append found h]
      exact ih.cons field

end Field

namespace ConfigDraft

theorem addAll_append (draft : ConfigDraft) (fields : List Field)
    (more : List (Except FieldFault Field)) :
    draft.addAll (fields.map .ok ++ more) =
      draft.addAll (fields.map .ok) >>= fun after => after.addAll more := by
  induction fields generalizing draft with
  | nil => rfl
  | cons field fields ih =>
      simp only [List.map_cons, List.cons_append, addAll]
      cases added : draft.add field with
      | error fault => rfl
      | ok next => exact ih next

theorem finish_eq_error_iff {draft : ConfigDraft} {fault : TextFault} :
    draft.finish = .error fault ↔
      (fault = .missing .client ∧ draft.client = none) ∨
      (fault = .missing .peer ∧ draft.client ≠ none ∧ draft.peer = none) := by
  obtain ⟨client, peer, failRate, replicas⟩ := draft
  cases client <;> cases peer <;> simp [finish, eq_comm]

end ConfigDraft

namespace ReplicaConfig

theorem ofText_lasting {text rest : List Char} {fault : TextFault} {blank : Char}
    (refused : ofText text = .error fault) (lasting : fault.isLasting = true)
    (h : isBlank blank = true) : ofText (text ++ blank :: rest) = .error fault := by
  unfold ofText at refused ⊢
  cases Field.row_append text rest h with
  | complete fields before after =>
      rw [before, bind_eq_error_iff] at refused
      rw [after, ConfigDraft.addAll_append, bind_assoc, bind_eq_error_iff]
      refine refused.imp_right ?_
      rintro ⟨draft, -, incomplete⟩
      rcases ConfigDraft.finish_eq_error_iff.1 incomplete with ⟨rfl, -⟩ | ⟨rfl, -⟩ <;> cases lasting
  | @faulty fields faultyField more before after lasts =>
      rw [before, ConfigDraft.addAll_append, bind_assoc, bind_eq_error_iff] at refused
      rw [after, ConfigDraft.addAll_append, bind_assoc, bind_eq_error_iff]
      refine refused.imp_right ?_
      rintro ⟨draft, added, faulty⟩
      obtain rfl : TextFault.field faultyField = fault := Except.error.inj faulty
      refine ⟨draft, added, ?_⟩
      rw [lasts lasting]
      rfl

end ReplicaConfig

/-- The value is of the kind that the label calls for, and can be read as such. -/
def Label.Fits : Label → FieldValue → Prop
  | failRate, value => ∃ rate, SpellsRate value rate
  | client, value | peer, value | replica, value => ∃ endpoint, SpellsEndpoint value endpoint

def Label.Occurs (label : Label) (fields : List Field) : Prop :=
  ∃ field ∈ fields, field.name = label.name

/-- Each field is a known one with a value that fits, and none occurs a second time, but for
    the peers to connect to. -/
structure Acceptable (fields : List Field) : Prop where
  fits : ∀ field ∈ fields, ∃ label : Label, field.name = label.name ∧ label.Fits field.value
  once : fields.Pairwise fun field other =>
    field.name = other.name → field.name = Label.replica.name

namespace ConfigDraft

/-- Is the label one that may not occur again? -/
def Settled (draft : ConfigDraft) : Label → Prop
  | .client => draft.client ≠ none
  | .peer => draft.peer ≠ none
  | .failRate => draft.failRate ≠ none
  | .replica => False

theorem exists_takes_iff {draft : ConfigDraft} {value : FieldValue} {label : Label} :
    (∃ next, draft.Takes value label next) ↔ label.Fits value ∧ ¬draft.Settled label := by
  constructor
  · rintro ⟨next, takes⟩
    cases takes with
    | client spelled unsettled | peer spelled unsettled | failRate spelled unsettled =>
        exact ⟨⟨_, spelled⟩, not_not.2 unsettled⟩
    | replica spelled => exact ⟨⟨_, spelled⟩, not_false⟩
  · rintro ⟨fits, unsettled⟩
    cases label with
    | client => exact ⟨_, .client fits.choose_spec (not_not.1 unsettled)⟩
    | peer => exact ⟨_, .peer fits.choose_spec (not_not.1 unsettled)⟩
    | failRate => exact ⟨_, .failRate fits.choose_spec (not_not.1 unsettled)⟩
    | replica => exact ⟨_, .replica fits.choose_spec⟩

theorem Takes.settled_iff {draft next : ConfigDraft} {value : FieldValue} {label : Label}
    (takes : draft.Takes value label next) (other : Label) :
    next.Settled other ↔ draft.Settled other ∨ (other = label ∧ label ≠ .replica) := by
  cases takes <;> cases other <;> simp [Settled]

/-- Rows that a draft takes without a fault. -/
structure Accepts (draft : ConfigDraft) (fields : List Field) : Prop extends Acceptable fields where
  unsettled : ∀ field ∈ fields, ∀ label : Label, field.name = label.name → ¬draft.Settled label

private theorem accepts_cons_iff {draft : ConfigDraft} {field : Field} {fields : List Field} :
    draft.Accepts (field :: fields) ↔
      ∃ next, draft.add field = .ok next ∧ next.Accepts fields := by
  simp only [add_eq_ok_iff]
  constructor
  · rintro ⟨⟨fits, once⟩, unsettled⟩
    obtain ⟨⟨label, named, fit⟩, others⟩ := List.forall_mem_cons.1 fits
    obtain ⟨first, apart⟩ := List.pairwise_cons.1 once
    obtain ⟨free, freeOthers⟩ := List.forall_mem_cons.1 unsettled
    obtain ⟨next, takes⟩ := exists_takes_iff.2 ⟨fit, free label named⟩
    refine ⟨next, ⟨label, named, takes⟩, ⟨others, apart⟩, ?_⟩
    intro other member label' named' settled
    rcases (takes.settled_iff label').1 settled with before | ⟨rfl, single⟩
    · exact freeOthers other member label' named' before
    · have again := first other member (named.trans named'.symm)
      exact single (Label.name_inj.1 (named.symm.trans again))
  · rintro ⟨next, ⟨label, named, takes⟩, ⟨others, apart⟩, unsettled⟩
    obtain ⟨fit, free⟩ := exists_takes_iff.1 ⟨next, takes⟩
    refine ⟨⟨List.forall_mem_cons.2 ⟨⟨label, named, fit⟩, others⟩,
      List.pairwise_cons.2 ⟨?_, apart⟩⟩, List.forall_mem_cons.2 ⟨?_, ?_⟩⟩
    · intro other member same
      by_contra single
      refine unsettled other member label (same.symm.trans named) ((takes.settled_iff label).2 ?_)
      exact .inr ⟨rfl, fun isReplica => single (isReplica ▸ named)⟩
    · intro label' named'
      rw [← Label.name_inj.1 (named.symm.trans named')]
      exact free
    · intro other member label' named' before
      exact unsettled other member label' named' ((takes.settled_iff label').2 (.inl before))

theorem exists_adds_iff {draft : ConfigDraft} {fields : List Field} :
    (∃ after, draft.Adds fields after) ↔ draft.Accepts fields := by
  induction fields generalizing draft with
  | nil =>
      refine iff_of_true ⟨draft, adds_nil_iff.2 rfl⟩ ⟨⟨?_, .nil⟩, ?_⟩ <;> intro field member <;>
        cases member
  | cons field fields ih =>
      rw [accepts_cons_iff]
      constructor
      · rintro ⟨after, adds⟩
        obtain ⟨next, added, more⟩ := adds_cons_iff.1 adds
        exact ⟨next, added, ih.1 ⟨after, more⟩⟩
      · rintro ⟨next, added, accepts⟩
        obtain ⟨after, more⟩ := ih.2 accepts
        exact ⟨after, adds_cons_iff.2 ⟨next, added, more⟩⟩

theorem empty_accepts_iff {fields : List Field} : empty.Accepts fields ↔ Acceptable fields := by
  constructor
  · exact Accepts.toAcceptable
  · intro acceptable
    refine ⟨acceptable, ?_⟩
    intro field member label named
    cases label <;> simp [Settled, empty]

theorem valuesOf_eq_nil_iff {label : Label} {fields : List Field} :
    valuesOf label fields = [] ↔ ¬label.Occurs fields := by
  simp [valuesOf, Label.Occurs]

theorem settledBy_eq_none_iff {α : Type} {spells : FieldValue → α → Prop}
    {values : List FieldValue} {after : Option α} (settled : SettledBy spells none values after) :
    after = none ↔ values = [] := by
  cases settled <;> simp

theorem bind_settleOnce_ne_missing {α : Type} {attempt : Except TextFault α} {absent label : Label}
    {settled : Option α} {update : Option α → ConfigDraft}
    (present : attempt ≠ .error (.missing absent)) :
    (do
      let value ← attempt
      let after ← settleOnce label settled value
      return update after) ≠ .error (.missing absent) := by
  cases attempt with
  | error fault => exact fun same => present (congrArg Except.error (Except.error.inj same))
  | ok value => cases settled <;> nofun

private theorem add_ne_missing (draft : ConfigDraft) (field : Field) (label : Label) :
    draft.add field ≠ .error (.missing label) := by
  obtain ⟨name, value⟩ := field
  have endpoints : value.endpoint ≠ .error (.missing label) := by
    unfold FieldValue.endpoint
    split
    · nofun
    · split <;> nofun
  have rates : value.rate ≠ .error (.missing label) := by
    unfold FieldValue.rate
    split
    · nofun
    · split <;> nofun
  unfold add
  split
  · nofun
  · exact bind_settleOnce_ne_missing endpoints
  · exact bind_settleOnce_ne_missing endpoints
  · exact bind_settleOnce_ne_missing rates
  · cases found : value.endpoint with
    | error fault =>
        rw [found] at endpoints
        exact fun same => endpoints (congrArg Except.error (Except.error.inj same))
    | ok endpoint => nofun

private theorem addAll_ne_missing (draft : ConfigDraft) (items : List (Except FieldFault Field))
    (label : Label) : draft.addAll items ≠ .error (.missing label) := by
  induction items generalizing draft with
  | nil => nofun
  | cons item items ih =>
      cases item with
      | error fault => nofun
      | ok field =>
          rw [addAll]
          cases added : draft.add field with
          | error fault =>
              have fine := add_ne_missing draft field label
              rw [added] at fine
              exact fine
          | ok next => exact ih next

end ConfigDraft

/-- The endpoint of the replica that is reported as absent: its client endpoint, and its peer
    endpoint only if the other is there. -/
inductive FirstAbsent (fields : List Field) : Label → Prop where
  | client (absent : ¬Label.client.Occurs fields) : FirstAbsent fields .client
  | peer (present : Label.client.Occurs fields) (absent : ¬Label.peer.Occurs fields) :
      FirstAbsent fields .peer

theorem ConfigDraft.finish_missing_iff {fields : List Field} {draft : ConfigDraft} {label : Label}
    (adds : empty.Adds fields draft) :
    draft.finish = .error (.missing label) ↔ FirstAbsent fields label := by
  have client := (settledBy_eq_none_iff adds.client).trans valuesOf_eq_nil_iff
  have peer := (settledBy_eq_none_iff adds.peer).trans valuesOf_eq_nil_iff
  rw [finish_eq_error_iff, ne_eq, client, peer, not_not]
  constructor
  · rintro (⟨same, absent⟩ | ⟨same, present, absent⟩)
    · cases same
      exact .client absent
    · cases same
      exact .peer present absent
  · rintro (absent | ⟨present, absent⟩)
    · exact .inl ⟨rfl, absent⟩
    · exact .inr ⟨rfl, present, absent⟩

namespace ReplicaConfig

theorem ofText_missing_iff {text : List Char} {label : Label} :
    ofText text = .error (.missing label) ↔
      ∃ fields, RowSpelled text fields ∧ Acceptable fields ∧ FirstAbsent fields label := by
  unfold ofText
  constructor
  · intro refused
    cases added : ConfigDraft.empty.addAll (Field.row text) with
    | error fault =>
        rw [added] at refused
        cases refused
        exact absurd added (ConfigDraft.addAll_ne_missing _ _ _)
    | ok draft =>
        rw [added] at refused
        obtain ⟨fields, row, adds⟩ := ConfigDraft.addAll_eq_ok_iff.1 added
        have acceptable := ConfigDraft.exists_adds_iff.1 ⟨draft, adds⟩
        exact ⟨fields, Field.row_eq_map_ok_iff.1 row, acceptable.toAcceptable,
          (ConfigDraft.finish_missing_iff adds).1 refused⟩
  · rintro ⟨fields, spelled, acceptable, absent⟩
    obtain ⟨draft, adds⟩ :=
      ConfigDraft.exists_adds_iff.2 (ConfigDraft.empty_accepts_iff.2 acceptable)
    have added := ConfigDraft.addAll_eq_ok_iff.2 ⟨fields, Field.row_eq_map_ok_iff.2 spelled, adds⟩
    rw [added]
    exact (ConfigDraft.finish_missing_iff adds).2 absent

/-- How a text that is no configuration is refused. -/
structure Blames (text : String) : Prop where
  lasting : ∀ fault : TextFault, ofText text.toList = .error fault → fault.isLasting = true →
    ∀ (blank : Char) (rest : String), isBlank blank = true →
      ofText (text.push blank ++ rest).toList = .error fault
  missing : ∀ label : Label, ofText text.toList = .error (.missing label) ↔
    ∃ fields, RowSpelled text.toList fields ∧ Acceptable fields ∧ FirstAbsent fields label

/-- A text is refused for its first wrong field, whatever follows it behind a blank, and for an
    absent endpoint only if no field is wrong. -/
theorem ofText_blames (text : String) : Blames text where
  lasting := by
    intro fault refused lasting blank rest h
    have whole : (text.push blank ++ rest).toList = text.toList ++ blank :: rest.toList := by
      simp
    rw [whole]
    exact ofText_lasting refused lasting h
  missing := by
    intro label
    exact ofText_missing_iff

end ReplicaConfig

end ClusterLaunch

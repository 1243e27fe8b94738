import Mathlib.Data.List.Nodup
import ClusterLaunch.Toml.Document

/-! # The keys of a document

However a document is made up of pairs and headers, the table that it stands for has each of
its keys once. So the order in which they are written says nothing, and a value can be named
by its key.
-/

namespace ClusterLaunch.Toml

/-- No key stands in two entries. -/
def Keyed {α : Type} (entries : List (String × α)) : Prop :=
  (entries.map Prod.fst).Nodup

theorem lookup_eq_some_iff {α : Type} {entries : List (String × α)} (keyed : Keyed entries)
    {key : String} {value : α} : entries.lookup key = some value ↔ (key, value) ∈ entries := by
  induction entries with
  | nil => simp
  | cons entry rest ih =>
      obtain ⟨name, held⟩ := entry
      obtain ⟨fresh, restKeyed⟩ := List.nodup_cons.1 keyed
      rw [List.lookup_cons, List.mem_cons]
      by_cases same : key = name
      · subst same
        have absent : (key, value) ∉ rest := by
          intro member
          exact fresh (List.mem_map.2 ⟨_, member, rfl⟩)
        simp [absent, eq_comm]
      · have different : (key == name) = false := beq_eq_false_iff_ne.2 same
        simp only [different, ih restKeyed, Prod.mk.injEq, same, false_and, false_or]

theorem lookup_eq_none_iff {α : Type} {entries : List (String × α)} {key : String} :
    entries.lookup key = none ↔ key ∉ entries.map Prod.fst := by
  rw [List.lookup_eq_none_iff]
  constructor
  · intro different member
    obtain ⟨entry, held, rfl⟩ := List.mem_map.1 member
    simpa using different entry held
  · intro absent entry held
    have different : key ≠ entry.1 := by
      rintro rfl
      exact absent (List.mem_map_of_mem held)
    simpa using different

namespace Branch

theorem set_keyed {branch : Branch} (keyed : Keyed branch.entries) (key : String) (node : Node) :
    Keyed (branch.set key node).entries := by
  unfold set Keyed
  dsimp only
  split
  · -- The keys stay as they are.
    rw [List.map_map, List.map_congr_left]
    · exact keyed
    · intro entry _
      dsimp only [Function.comp_apply]
      split <;> rfl
  · next fresh =>
    have absent : key ∉ branch.entries.map Prod.fst :=
      lookup_eq_none_iff.1 (Option.not_isSome_iff_eq_none.1 fresh)
    rw [List.map_append]
    refine List.nodup_append.2 ⟨keyed, List.nodup_singleton key, ?_⟩
    intro name member other same
    obtain rfl := List.mem_singleton.1 same
    rintro rfl
    exact absent member

private theorem moveToEnd_keyed {branch : Branch} (keyed : Keyed branch.entries) (key : String)
    (node : Node) : Keyed (branch.moveToEnd key node).entries := by
  unfold moveToEnd Keyed
  dsimp only
  rw [List.map_append]
  refine List.nodup_append.2 ⟨?_, List.nodup_singleton key, ?_⟩
  · exact keyed.sublist (List.filter_sublist.map Prod.fst)
  · intro name member other same
    obtain rfl := List.mem_singleton.1 same
    obtain ⟨entry, kept, rfl⟩ := List.mem_map.1 member
    simpa using (List.mem_filter.1 kept).2

/-- A change of a branch that leaves its keys distinct. -/
def Keeps (change : Branch → Option Branch) : Prop :=
  ∀ before after, Keyed before.entries → change before = some after → Keyed after.entries

private theorem setValue_keeps (viaPath : Bool) (key : String) (value : Value) :
    Keeps (setValue viaPath key value) := by
  intro before after keyed changed
  unfold setValue at changed
  split at changed
  · cases changed
  · cases changed
    exact set_keyed keyed key _

private theorem openTable_keeps (key : String) : Keeps (openTable key) := by
  intro before after keyed changed
  unfold openTable at changed
  split at changed
  · cases changed
    exact set_keyed keyed key _
  · cases changed
    exact moveToEnd_keyed keyed key _
  · cases changed

private theorem openRow_keeps (key : String) : Keeps (openRow key) := by
  intro before after keyed changed
  unfold openRow at changed
  split at changed
  · cases changed
    exact set_keyed keyed key _
  · cases changed
    exact set_keyed keyed key _
  · cases changed

theorem change_keeps (dotted : Bool) {change : Branch → Option Branch} (keeps : Keeps change)
    (path : List String) : Keeps (Branch.change dotted change path) := by
  intro before after keyed changed
  cases path with
  | nil => exact keeps before after keyed changed
  | cons key rest =>
      unfold Branch.change at changed
      split at changed
      · obtain ⟨inner, -, same⟩ := Option.bind_eq_some_iff.1 changed
        cases same
        exact set_keyed keyed key _
      · cases changed
      · obtain ⟨last, -, changed⟩ := Option.bind_eq_some_iff.1 changed
        obtain ⟨inner, -, same⟩ := Option.bind_eq_some_iff.1 changed
        cases same
        exact set_keyed keyed key _
      · split at changed
        · cases changed
        · obtain ⟨inner, -, same⟩ := Option.bind_eq_some_iff.1 changed
          cases same
          exact set_keyed keyed key _

end Branch

private theorem addLine_keyed {current current' : List String} {root root' : Branch} {line : Line}
    (keyed : Keyed root.entries) (added : addLine (current, root) line = some (current', root')) :
    Keyed root'.entries := by
  cases line with
  | pair path value =>
      obtain ⟨key, -, added⟩ := Option.bind_eq_some_iff.1 added
      obtain ⟨after, changed, same⟩ := Option.bind_eq_some_iff.1 added
      cases same
      exact Branch.change_keeps false (Branch.change_keeps true
        (Branch.setValue_keeps _ key value) _) current root _ keyed changed
  | header path =>
      obtain ⟨key, -, added⟩ := Option.bind_eq_some_iff.1 added
      obtain ⟨after, changed, same⟩ := Option.bind_eq_some_iff.1 added
      cases same
      exact Branch.change_keeps false (Branch.openTable_keeps key) _ root _ keyed changed
  | rowHeader path =>
      obtain ⟨key, -, added⟩ := Option.bind_eq_some_iff.1 added
      obtain ⟨after, changed, same⟩ := Option.bind_eq_some_iff.1 added
      cases same
      exact Branch.change_keeps false (Branch.openRow_keeps key) _ root _ keyed changed

theorem foldlM_addLine_keyed {lines : List Line} {state state' : List String × Branch}
    (keyed : Keyed state.2.entries) (added : lines.foldlM addLine state = some state') :
    Keyed state'.2.entries := by
  induction lines generalizing state with
  | nil =>
      cases added
      exact keyed
  | cons line rest ih =>
      rw [List.foldlM_cons] at added
      obtain ⟨next, first, added⟩ := Option.bind_eq_some_iff.1 added
      exact ih (addLine_keyed keyed first) added

private theorem keys_tableOfEntries (entries : List (String × Node)) :
    (tableOfEntries entries).map Prod.fst = entries.map Prod.fst := by
  induction entries with
  | nil => rfl
  | cons entry rest ih => exact congrArg (entry.1 :: ·) ih

private theorem keys_resolveEntries {entries : List (String × Value)} {table : Table}
    (resolved : resolveEntries? entries = some table) :
    table.map Prod.fst = entries.map Prod.fst := by
  induction entries generalizing table with
  | nil =>
      cases resolved
      rfl
  | cons entry rest ih =>
      obtain ⟨value, -, resolved⟩ := Option.bind_eq_some_iff.1 resolved
      obtain ⟨others, found, same⟩ := Option.bind_eq_some_iff.1 resolved
      cases same
      exact congrArg (entry.1 :: ·) (ih found)

theorem read_keyed {document : String} {table : Table} (parsed : read? document = some table) :
    Keyed table := by
  obtain ⟨lines, -, parsed⟩ := Option.bind_eq_some_iff.1 parsed
  obtain ⟨raw, made, resolved⟩ := Option.bind_eq_some_iff.1 parsed
  obtain ⟨⟨current, root⟩, built, same⟩ := Option.bind_eq_some_iff.1 made
  cases same
  have start : Keyed (([] : List String), Branch.root).2.entries := List.nodup_nil
  have keyed : Keyed root.entries := foldlM_addLine_keyed start built
  unfold Keyed
  rw [keys_resolveEntries resolved, keys_tableOfEntries]
  exact keyed

/-- Values that are the same but for the order of the keys in their tables. -/
inductive Value.Alike : Value → Value → Prop where
  | refl (value : Value) : Alike value value
  | array {items items' : List Value} (each : List.Forall₂ Alike items items') :
      Alike (.array items) (.array items')
  | table {entries middle entries' : List (String × Value)} (order : entries.Perm middle)
      (keys : middle.map Prod.fst = entries'.map Prod.fst)
      (values : List.Forall₂ Alike (middle.map Prod.snd) (entries'.map Prod.snd)) :
      Alike (.table entries) (.table entries')

/-- Tables with the same keys and values, in other orders. -/
def Table.Alike (table table' : Table) : Prop :=
  ∃ middle : Table, table.Perm middle ∧ middle.map Prod.fst = table'.map Prod.fst ∧
    List.Forall₂ Value.Alike (middle.map Prod.snd) (table'.map Prod.snd)

namespace Table

variable {table table' : Table}

theorem Alike.keys_perm (alike : table.Alike table') :
    (table.map Prod.fst).Perm (table'.map Prod.fst) := by
  obtain ⟨middle, order, keys, -⟩ := alike
  rw [← keys]
  exact order.map Prod.fst

theorem Alike.length_eq (alike : table.Alike table') : table.length = table'.length := by
  simpa using alike.keys_perm.length_eq

/-- Entries side by side, with the same keys, lead a key to values side by side. -/
theorem lookup_rel {key : String} (keys : table.map Prod.fst = table'.map Prod.fst)
    (values : List.Forall₂ Value.Alike (table.map Prod.snd) (table'.map Prod.snd)) :
    Option.Rel Value.Alike (table.lookup key) (table'.lookup key) := by
  induction table generalizing table' with
  | nil =>
      cases List.map_eq_nil_iff.1 keys.symm
      exact .none
  | cons entry rest ih =>
      cases table' with
      | nil => cases keys
      | cons entry' rest' =>
          obtain ⟨name, value⟩ := entry
          obtain ⟨name', value'⟩ := entry'
          obtain ⟨rfl, others⟩ := List.cons.inj keys
          cases values with
          | cons first values =>
              rw [List.lookup_cons, List.lookup_cons]
              by_cases same : key = name
              · simp only [beq_iff_eq.2 same]
                exact .some first
              · simp only [beq_eq_false_iff_ne.2 same]
                exact ih others values

theorem Alike.get_rel (alike : table.Alike table') (keyed : Keyed table) (key : String) :
    Option.Rel Value.Alike (table.get? key) (table'.get? key) := by
  obtain ⟨middle, order, keys, values⟩ := alike
  have keyed' : Keyed middle := (order.map Prod.fst).nodup_iff.1 keyed
  have same : table.get? key = List.lookup key middle := by
    refine Option.ext ?_
    intro value
    rw [get?, lookup_eq_some_iff keyed, lookup_eq_some_iff keyed', order.mem_iff]
  rw [same, get?]
  exact lookup_rel keys values

end Table

end ClusterLaunch.Toml

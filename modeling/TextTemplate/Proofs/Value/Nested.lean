import TextTemplate.Value.Basic

/-!
# The values inside a value

Sequences, mappings and records hold values that may hold values again. What is to be
shown of all values follows from `Value.inductionOn`, in which a container may use what
holds of its members; the recursion through lists of items, of fields and of generations
is done once, there. `nested` lists a value with all the values inside it, so that what
holds at any depth is said of the members of a list. A record counts with the fields of
its ancestors.

## Main results

* `Value.inductionOn` — a property that passes from members to containers holds of
  all values.
* `Value.isPlain_sequence`, `Value.isPlain_mapping` — a container is plain if its
  members are.
-/

namespace TextTemplate.Value

/-! ## Induction -/

/-- What holds of a container whenever it holds of its members, and of all other values,
holds of all values. -/
@[elab_as_elim]
theorem inductionOn {motive : Value → Prop} (value : Value) (nil : motive nil)
    (bool : ∀ truth, motive (bool truth)) (int : ∀ number, motive (int number))
    (float : ∀ number, motive (float number)) (string : ∀ text, motive (string text))
    (sequence : ∀ items, (∀ item ∈ items, motive item) → motive (sequence items))
    (mapping : ∀ entries, (∀ entry ∈ entries, motive entry.2) →
      motive (mapping entries))
    (record : ∀ (typeName : String) (positional : Bool) (lineage : Lineage),
      (∀ field ∈ lineage.fields, motive field.2) →
        motive (record typeName positional lineage)) :
    motive value := by
  -- One motive for each list that a value may hold: of items, of fields and of
  -- generations.
  refine @Value.rec motive (fun items => ∀ item ∈ items, motive item)
    (fun fields => ∀ field ∈ fields, motive field.2)
    (fun lineage => ∀ field ∈ Lineage.fields lineage, motive field.2)
    (fun field => motive field.2)
    nil bool int float string sequence mapping record ?_ ?_ ?_ ?_ ?_ ?_
      (fun _ _ hValue => hValue) value
  · exact fun _ hMem => absurd hMem List.not_mem_nil
  · exact fun item rest hItem hRest => List.forall_mem_cons.mpr ⟨hItem, hRest⟩
  · exact fun _ hMem => absurd hMem List.not_mem_nil
  · exact fun field rest hField hRest => List.forall_mem_cons.mpr ⟨hField, hRest⟩
  · exact fun _ hMem => absurd hMem List.not_mem_nil
  · exact fun generation rest hGeneration hRest => List.forall_mem_append.mpr
      ⟨hGeneration, hRest⟩

/-! ## All values inside -/

mutual

/-- A value and the values inside it, at any depth. -/
def nested : Value → List Value
  | nil => [nil]
  | bool truth => [bool truth]
  | int number => [int number]
  | float number => [float number]
  | string text => [string text]
  | sequence items => sequence items :: nestedItems items
  | mapping entries => mapping entries :: nestedFields entries
  | record name positional lineage =>
    record name positional lineage :: nestedLineage lineage

/-- Items and the values inside them. -/
def nestedItems : List Value → List Value
  | [] => []
  | item :: rest => nested item ++ nestedItems rest

/-- The values of fields and the values inside them. -/
def nestedFields : List (String × Value) → List Value
  | [] => []
  | (_, value) :: rest => nested value ++ nestedFields rest

/-- The values of the fields of all generations and the values inside them. -/
def nestedLineage : List (List (String × Value)) → List Value
  | [] => []
  | generation :: rest => nestedFields generation ++ nestedLineage rest

end

/-- A value is among the values inside it. -/
theorem mem_nested (value : Value) : value ∈ value.nested := by
  cases value <;> exact List.mem_cons_self

theorem nestedItems_eq_flatMap (items : List Value) :
    nestedItems items = items.flatMap nested := by
  induction items with
  | nil => rfl
  | cons item rest ih => rw [nestedItems, ih, List.flatMap_cons]

theorem nestedFields_eq_flatMap (fields : List (String × Value)) :
    nestedFields fields = fields.flatMap fun field => field.2.nested := by
  induction fields with
  | nil => rfl
  | cons field rest ih => rw [nestedFields, ih, List.flatMap_cons]

/-! ## Well-formed members -/

theorem allWellFormed_iff {items : List Value} :
    AllWellFormed items ↔ ∀ item ∈ items, item.WellFormed := by
  induction items with
  | nil => exact iff_of_true trivial fun _ hMem => absurd hMem List.not_mem_nil
  | cons item rest ih => rw [AllWellFormed, ih, List.forall_mem_cons]

theorem fieldsWellFormed_iff {fields : List (String × Value)} :
    FieldsWellFormed fields ↔ ∀ field ∈ fields, field.2.WellFormed := by
  induction fields with
  | nil => exact iff_of_true trivial fun _ hMem => absurd hMem List.not_mem_nil
  | cons field rest ih => rw [FieldsWellFormed, ih, List.forall_mem_cons]

/-! ## Plain values -/

/-- Whether the value is a floating-point number. -/
def isFloat : Value → Bool
  | float _ => true
  | _ => false

/-- Whether the value is a record. -/
def isRecord : Value → Bool
  | record _ _ _ => true
  | _ => false

/-- No floating-point number and no record stands in the value, at any depth. -/
def IsPlain (value : Value) : Prop :=
  ∀ inner ∈ value.nested, inner.isFloat = false ∧ inner.isRecord = false

theorem not_isPlain_float (number : Float) : ¬ (float number).IsPlain :=
  fun h => Bool.noConfusion (h _ (mem_nested _)).1

theorem not_isPlain_record (typeName : String) (positional : Bool) (lineage : Lineage) :
    ¬ (record typeName positional lineage).IsPlain :=
  fun h => Bool.noConfusion (h _ (mem_nested _)).2

/-- A sequence is plain if its items are. -/
theorem isPlain_sequence {items : List Value} :
    (sequence items).IsPlain ↔ ∀ item ∈ items, item.IsPlain := by
  unfold IsPlain
  rw [nested, nestedItems_eq_flatMap, List.forall_mem_cons, List.forall_mem_flatMap]
  exact and_iff_right ⟨rfl, rfl⟩

/-- A mapping is plain if its values are. -/
theorem isPlain_mapping {entries : List (String × Value)} :
    (mapping entries).IsPlain ↔ ∀ entry ∈ entries, entry.2.IsPlain := by
  unfold IsPlain
  rw [nested, nestedFields_eq_flatMap, List.forall_mem_cons, List.forall_mem_flatMap]
  exact and_iff_right ⟨rfl, rfl⟩

end TextTemplate.Value

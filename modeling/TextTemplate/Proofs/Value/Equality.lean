import TextTemplate.Proofs.Value.Nested
import TextTemplate.Value.Order

/-!
# What equal values have in common

Two values of one kind are compared part by part, and of a record neither the way its
fields are spread over its generations nor whether it is read by position is seen.
`outline` leaves both out. Values without floating-point numbers are equal exactly if
their outlines are the same, and so equality is an equivalence among them; the recursion
through sequences, mappings and lineages is done once, for the outline.

Floating-point numbers are left out because they bring two more ways to be equal or not:
a number that is none differs from itself, and a whole number may equal a floating-point
number that several whole numbers equal.

## Main results

* `sameLineage_eq` — records are compared by all their fields, generation
  after generation.
* `same_iff_outline_eq` — what equality sees of a value.
* `same_self`, `same_comm`, `same_trans` — equality is an equivalence.
-/

namespace TextTemplate.Value

/-! ## Values without floating-point numbers -/

/-- No floating-point number stands in the value, at any depth. -/
def IsFloatFree (value : Value) : Prop :=
  ∀ inner ∈ value.nested, inner.isFloat = false

theorem not_isFloatFree_float (number : Float) : ¬ (float number).IsFloatFree :=
  fun h => Bool.noConfusion (h _ (mem_nested _))

private theorem nestedLineage_eq_flatMap (lineage : Lineage) :
    nestedLineage lineage = lineage.fields.flatMap fun field => field.2.nested := by
  induction lineage with
  | nil => rfl
  | cons generation ancestors ih =>
      rw [nestedLineage, ih, nestedFields_eq_flatMap, Lineage.fields, Lineage.fields,
        List.flatten_cons, List.flatMap_append]

private theorem isFloatFree_sequence {items : List Value} :
    (sequence items).IsFloatFree ↔ ∀ item ∈ items, item.IsFloatFree := by
  unfold IsFloatFree
  rw [nested, nestedItems_eq_flatMap, List.forall_mem_cons, List.forall_mem_flatMap]
  exact and_iff_right rfl

private theorem isFloatFree_mapping {entries : List (String × Value)} :
    (mapping entries).IsFloatFree ↔ ∀ entry ∈ entries, entry.2.IsFloatFree := by
  unfold IsFloatFree
  rw [nested, nestedFields_eq_flatMap, List.forall_mem_cons, List.forall_mem_flatMap]
  exact and_iff_right rfl

/-- A record counts with the fields of its ancestors. -/
private theorem isFloatFree_record {typeName : String} {positional : Bool}
    {lineage : Lineage} :
    (record typeName positional lineage).IsFloatFree ↔
      ∀ field ∈ lineage.fields, field.2.IsFloatFree := by
  unfold IsFloatFree
  rw [nested, nestedLineage_eq_flatMap, List.forall_mem_cons, List.forall_mem_flatMap]
  exact and_iff_right rfl

/-! ## Outlines -/

mutual

/-- The value with the fields of every record in a single generation that is not read
by position. -/
def outline : Value → Value
  | sequence items => sequence (outlineItems items)
  | mapping entries => mapping (outlineFields entries)
  | record typeName _ lineage => record typeName false [outlineLineage lineage]
  | value => value

/-- The outlines of items. -/
def outlineItems : List Value → List Value
  | [] => []
  | item :: rest => outline item :: outlineItems rest

/-- The outlines of named values. -/
def outlineFields : List (String × Value) → List (String × Value)
  | [] => []
  | (name, value) :: rest => (name, outline value) :: outlineFields rest

/-- The outlines of the fields of all generations. -/
def outlineLineage : List (List (String × Value)) → List (String × Value)
  | [] => []
  | generation :: rest => outlineFields generation ++ outlineLineage rest

end

private theorem outlineItems_eq_map (items : List Value) :
    outlineItems items = items.map outline := by
  induction items with
  | nil => rfl
  | cons item rest ih => rw [outlineItems, ih, List.map_cons]

theorem outlineFields_eq_map (fields : List (String × Value)) :
    outlineFields fields = fields.map fun field => (field.1, field.2.outline) := by
  induction fields with
  | nil => rfl
  | cons field rest ih => rw [outlineFields, ih, List.map_cons]

private theorem outlineLineage_eq_map (lineage : Lineage) :
    outlineLineage lineage = lineage.fields.map fun field => (field.1,
      field.2.outline) := by
  induction lineage with
  | nil => rfl
  | cons generation ancestors ih =>
      rw [outlineLineage, ih, outlineFields_eq_map, Lineage.fields, Lineage.fields,
        List.flatten_cons, List.map_append]

/-! ## Fields and items -/

private theorem sameFields_append (generation others rest : List (String × Value)) :
    sameFields (generation ++ rest) others =
      (takeFields generation others).any (sameFields rest) := by
  induction generation generalizing others with
  | nil => rfl
  | cons field generation ih =>
      obtain ⟨name, value⟩ := field
      cases others with
      | nil => rfl
      | cons other others =>
          obtain ⟨otherName, otherValue⟩ := other
          rw [List.cons_append, sameFields, takeFields, ih]
          cases name == otherName && value.same otherValue <;> rfl

/-- The generations of a record are compared as one list of fields. -/
theorem sameLineage_eq (lineage : Lineage) (others : List (String × Value)) :
    sameLineage lineage others = sameFields lineage.fields others := by
  induction lineage generalizing others with
  | nil => cases others <;> rfl
  | cons generation ancestors ih =>
      rw [Lineage.fields, List.flatten_cons, sameFields_append, sameLineage]
      cases takeFields generation others with
      | none => rfl
      | some remaining => exact ih remaining

/-- What equality sees of a value: its outline decides. -/
def SeenByOutline (value : Value) : Prop :=
  ∀ other : Value, other.IsFloatFree →
    (value.same other = true ↔ value.outline = other.outline)

private theorem sameItems_iff {items others : List Value}
    (hItems : ∀ item ∈ items, item.SeenByOutline)
    (hOthers : ∀ other ∈ others, other.IsFloatFree) :
    sameItems items others = true ↔ items.map outline = others.map outline := by
  induction items generalizing others with
  | nil => cases others <;> simp [sameItems]
  | cons item items ih =>
      cases others with
      | nil => simp [sameItems]
      | cons other others =>
          obtain ⟨hItem, hRest⟩ := List.forall_mem_cons.mp hItems
          obtain ⟨hOther, hOtherRest⟩ := List.forall_mem_cons.mp hOthers
          rw [sameItems, Bool.and_eq_true, hItem other hOther, ih hRest hOtherRest,
            List.map_cons, List.map_cons, List.cons.injEq]

private theorem sameFields_iff {fields others : List (String × Value)}
    (hFields : ∀ field ∈ fields, field.2.SeenByOutline)
    (hOthers : ∀ other ∈ others, other.2.IsFloatFree) :
    sameFields fields others = true ↔
      (fields.map fun field => (field.1, field.2.outline)) =
        others.map fun field => (field.1, field.2.outline) := by
  induction fields generalizing others with
  | nil => cases others <;> simp [sameFields]
  | cons field fields ih =>
      cases others with
      | nil => simp [sameFields]
      | cons other others =>
          obtain ⟨hField, hRest⟩ := List.forall_mem_cons.mp hFields
          obtain ⟨hOther, hOtherRest⟩ := List.forall_mem_cons.mp hOthers
          rw [sameFields, Bool.and_eq_true, Bool.and_eq_true, beq_iff_eq,
            hField other.2 hOther, ih hRest hOtherRest, List.map_cons, List.map_cons,
            List.cons.injEq, Prod.mk.injEq]

/-! ## Equality -/

/-- Values without floating-point numbers are equal exactly if their outlines are
the same. -/
theorem same_iff_outline_eq {a b : Value} (hA : a.IsFloatFree) (hB : b.IsFloatFree) :
    a.same b = true ↔ a.outline = b.outline := by
  suffices h : a.SeenByOutline from h b hB
  clear hB b
  induction a using inductionOn with
  | float number => exact absurd hA (not_isFloatFree_float number)
  | sequence items ih =>
      have hItems : ∀ item ∈ items, item.SeenByOutline := fun item hMem =>
        ih item hMem (isFloatFree_sequence.mp hA item hMem)
      intro b hB
      cases b with
      | sequence others =>
          rw [same, sameItems_iff hItems (isFloatFree_sequence.mp hB), outline, outline,
            outlineItems_eq_map, outlineItems_eq_map, sequence.injEq]
      | _ => simp [same, outline]
  | mapping entries ih =>
      have hEntries : ∀ entry ∈ entries, entry.2.SeenByOutline := fun entry hMem =>
        ih entry hMem (isFloatFree_mapping.mp hA entry hMem)
      intro b hB
      cases b with
      | mapping others =>
          rw [same, sameFields_iff hEntries (isFloatFree_mapping.mp hB), outline,
            outline, outlineFields_eq_map, outlineFields_eq_map, mapping.injEq]
      | _ => simp [same, outline]
  | record typeName positional lineage ih =>
      have hFields : ∀ field ∈ lineage.fields, field.2.SeenByOutline :=
        fun field hMem => ih field hMem (isFloatFree_record.mp hA field hMem)
      intro b hB
      cases b with
      | record otherName otherPositional others =>
          rw [same, Bool.and_eq_true, beq_iff_eq, sameLineage_eq,
            sameFields_iff hFields (isFloatFree_record.mp hB), outline, outline,
            outlineLineage_eq_map, outlineLineage_eq_map]
          simp
      | _ => simp [same, outline]
  | _ =>
      intro b hB
      cases b with
      | float number => exact absurd hB (not_isFloatFree_float number)
      | _ => simp [same, outline, sameNumber, asFloat?]

theorem same_self {a : Value} (hA : a.IsFloatFree) : a.same a = true :=
  (same_iff_outline_eq hA hA).mpr rfl

theorem same_comm {a b : Value} (hA : a.IsFloatFree) (hB : b.IsFloatFree) :
    a.same b = b.same a := by
  rw [Bool.eq_iff_iff, same_iff_outline_eq hA hB, same_iff_outline_eq hB hA]
  exact eq_comm

theorem same_trans {a b c : Value} (hA : a.IsFloatFree) (hB : b.IsFloatFree)
    (hC : c.IsFloatFree) (hFirst : a.same b = true) (hSecond : b.same c = true) :
    a.same c = true :=
  (same_iff_outline_eq hA hC).mpr
    (((same_iff_outline_eq hA hB).mp hFirst).trans
      ((same_iff_outline_eq hB hC).mp hSecond))

end TextTemplate.Value

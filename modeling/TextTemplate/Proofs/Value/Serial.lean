import TextTemplate.Proofs.Mapping
import TextTemplate.Proofs.Value.Nested
import TextTemplate.Value.Lookup
import TextTemplate.Value.Serial

/-!
# What a trip through a document keeps

A document has no records and, read back, no name twice in an object. So a value without
records comes back as it was, down to the bounds of the whole numbers, while a record
comes back as a mapping. The document of a record lists all its fields, its own first
and then those of each ancestor; read back, the last field of a name stands. A look-up
in the record finds the first one. The two agree on every name that one field has, and
where several have it the mapping shows the field of the remotest ancestor and the
record the nearest.

## Main results

* `Value.reserialized_eq_self` — a value without floating-point numbers and records
  comes back as it was.
* `Value.reserialized_record_fields` — which of a record's fields come back.
-/

namespace TextTemplate

/-! ## Fields of a record -/

namespace Lineage

/-- The nearest field of a name is the first one among all fields. -/
theorem field?_eq_get?_fields (name : String) (lineage : Lineage) :
    lineage.field? name = Entries.get? lineage.fields name := by
  induction lineage with
  | nil => rfl
  | cons generation ancestors ih =>
      rw [field?, fields, List.flatten_cons, Entries.get?_append, ih]
      cases Entries.get? generation name <;> rfl

end Lineage

namespace Value

/-- Records do not answer to the words that texts, sequences and mappings answer to. -/
theorem wordLookup_record (typeName : String) (positional : Bool) (lineage : Lineage)
    (segment : String) :
    (record typeName positional lineage).wordLookup segment = none := by
  simp [wordLookup, first?, last?, count?]

/-- A record that is not read by position finds its nearest field, under any name. -/
theorem lookup_record (typeName : String) (lineage : Lineage) (name : String) :
    (record typeName false lineage).lookup name = Entries.get? lineage.fields name := by
  show ((record typeName false lineage).wordLookup name <|> lineage.field? name) = _
  rw [wordLookup_record, Lineage.field?_eq_get?_fields]
  rfl

/-- A mapping shows its own entries under their names. -/
private theorem lookup_mapping {entries : Entries Value} {name : String} {value : Value}
    (h : entries.get? name = some value) :
    (mapping entries).lookup name = some value := by
  show (entries.get? name <|> _) = _
  rw [h]
  rfl

/-! ## One equation for each kind of value -/

/-- A whole number of 64 bits is read back as itself. -/
private theorem ofInteger_toInt (number : Int64) :
    ofInteger number.toInt = int number := by
  have hLower := number.le_toInt
  have hUpper := number.toInt_lt
  have hBounds : Text.isInt64 number.toInt = true := by
    simp only [Text.isInt64, Int64.toInt_minValue, Int64.toInt_maxValue,
      Bool.and_eq_true, decide_eq_true_eq]
    omega
  rw [ofInteger, if_pos hBounds, Int64.ofInt_toInt]

private theorem itemsOfJson_itemsToJson (items : List Value) :
    itemsOfJson (itemsToJson items) = items.map reserialized := by
  induction items with
  | nil => rfl
  | cons item rest ih =>
      rw [itemsToJson, itemsOfJson, ih]
      rfl

theorem membersOfJson_fieldsToJson (fields : List (String × Value)) :
    membersOfJson (fieldsToJson fields) = fields.map fun field => (field.1,
      field.2.reserialized) := by
  induction fields with
  | nil => rfl
  | cons field rest ih =>
      obtain ⟨name, value⟩ := field
      rw [fieldsToJson, membersOfJson, ih]
      rfl

/-- The members for the generations of a record are those for all its fields. -/
private theorem lineageToJson_eq (lineage : Lineage) :
    lineageToJson lineage = fieldsToJson lineage.fields := by
  have hAppend : ∀ first second : List (String × Value),
      fieldsToJson (first ++ second) = fieldsToJson first ++ fieldsToJson second := by
    intro first second
    induction first with
    | nil => rfl
    | cons field rest ih =>
        obtain ⟨name, value⟩ := field
        rw [List.cons_append, fieldsToJson, ih, fieldsToJson, List.cons_append]
  induction lineage with
  | nil => rfl
  | cons generation ancestors ih =>
      rw [lineageToJson, ih, Lineage.fields, Lineage.fields, List.flatten_cons, hAppend]

private theorem reserialized_sequence (items : List Value) :
    (sequence items).reserialized = sequence (items.map reserialized) := by
  rw [reserialized, toJson, ofJson, itemsOfJson_itemsToJson]

private theorem reserialized_mapping (entries : List (String × Value)) :
    (mapping entries).reserialized =
      mapping (Entries.ofList (entries.map fun entry => (entry.1,
        entry.2.reserialized))) := by
  rw [reserialized, toJson, ofJson, membersOfJson_fieldsToJson]

private theorem reserialized_record (typeName : String) (positional : Bool)
    (lineage : Lineage) :
    (record typeName positional lineage).reserialized =
      mapping (Entries.ofList (lineage.fields.map fun field => (field.1,
        field.2.reserialized))) := by
  rw [reserialized, toJson, ofJson, lineageToJson_eq, membersOfJson_fieldsToJson]

/-! ## What comes back -/

/-- A value in which no floating-point number and no record stands comes back as it
was. -/
theorem reserialized_eq_self {value : Value} (hWellFormed : value.WellFormed)
    (hPlain : value.IsPlain) :
    value.reserialized = value := by
  induction value using inductionOn with
  | nil => rfl
  | bool truth => rfl
  | int number => exact ofInteger_toInt number
  | float number => exact absurd hPlain (not_isPlain_float number)
  | string text => rfl
  | sequence items ih =>
      have hItems : ∀ item ∈ items, item.reserialized = item := fun item hMem =>
        ih item hMem (allWellFormed_iff.mp hWellFormed item hMem)
          (isPlain_sequence.mp hPlain item hMem)
      rw [reserialized_sequence, List.map_congr_left hItems, List.map_id']
  | mapping entries ih =>
      obtain ⟨hAscending, hFields⟩ := hWellFormed
      have hEntries : ∀ entry ∈ entries, (entry.1, entry.2.reserialized) = entry := by
        intro entry hMem
        rw [ih entry hMem (fieldsWellFormed_iff.mp hFields entry hMem)
          (isPlain_mapping.mp hPlain entry hMem)]
      rw [reserialized_mapping, List.map_congr_left hEntries, List.map_id',
        Entries.ofList_of_ascending hAscending]
  | record typeName positional lineage ih =>
      exact absurd hPlain (not_isPlain_record typeName positional lineage)

/-- The bounds of the whole numbers, nil under a name and an empty mapping in a sequence
come back. -/
theorem reserialized_eq_self_of_bounds :
    (mapping [("high", int Int64.maxValue), ("low", int Int64.minValue), ("none", nil),
      ("rest", sequence [mapping [], string "", bool false])]).reserialized =
    mapping [("high", int Int64.maxValue), ("low", int Int64.minValue), ("none", nil),
      ("rest", sequence [mapping [], string "", bool false])] := by
  refine reserialized_eq_self ?_ ?_
  · have hAscending : ["high", "low", "none", "rest"].Pairwise (· < ·) := by decide
    exact ⟨hAscending, trivial, trivial, trivial,
      ⟨⟨List.Pairwise.nil, trivial⟩, trivial, trivial, trivial⟩, trivial⟩
  · simp [IsPlain, nested, nestedFields, nestedItems, isFloat, isRecord]

/-- A record that is not read by position comes back as a mapping. Under each name of a
field the record shows the first field of the name, own fields before those of the
ancestors, and the mapping what comes back for the last one. They are one field where no
other has the name. -/
theorem reserialized_record_fields (typeName : String) (lineage : Lineage) :
    ∃ entries, (record typeName false lineage).reserialized = mapping entries ∧
      ∀ name ∈ Entries.keys lineage.fields, ∃ first last,
        Entries.get? lineage.fields name = some first ∧
        Entries.get? lineage.fields.reverse name = some last ∧
        (record typeName false lineage).lookup name = some first ∧
        (mapping entries).lookup name = some last.reserialized ∧
        ((Entries.keys lineage.fields).count name = 1 → first = last) := by
  refine ⟨_, reserialized_record typeName false lineage, fun name hName => ?_⟩
  have hFound : Entries.get? lineage.fields name ≠ none := fun hNone =>
    Entries.get?_eq_none_iff.mp hNone hName
  have hFoundLast : Entries.get? lineage.fields.reverse name ≠ none := by
    rw [Ne, Entries.get?_eq_none_iff, Entries.keys, List.map_reverse, List.mem_reverse]
    exact not_not_intro hName
  obtain ⟨first, hFirst⟩ := Option.ne_none_iff_exists'.mp hFound
  obtain ⟨last, hLast⟩ := Option.ne_none_iff_exists'.mp hFoundLast
  refine ⟨first, last, hFirst, hLast, ?_, ?_, fun hOnce => ?_⟩
  · rw [lookup_record, hFirst]
  · apply lookup_mapping
    rw [Entries.get?_ofList, Entries.findSome?_valueFor, ← List.map_reverse,
      Entries.get?_map, hLast, Option.map_some]
  · have hSame := Entries.get?_reverse (Nat.le_of_eq hOnce)
    rw [hFirst, hLast] at hSame
    exact (Option.some.inj hSame).symm

/-- A field that only an ancestor has comes back, below a field of the record's own. -/
theorem reserialized_record_fields_of_inherited :
    "b" ∈ Entries.keys (Lineage.fields [[("a", int 1)], [("b", sequence [nil])]]) ∧
      ∃ entries, (record "C" false [[("a", int 1)],
        [("b", sequence [nil])]]).reserialized = mapping entries ∧
        ∃ first last, (record "C" false [[("a", int 1)],
          [("b", sequence [nil])]]).lookup "b" = some first ∧
          (mapping entries).lookup "b" = some last.reserialized ∧ first = last := by
  have hMem : "b" ∈ Entries.keys
      (Lineage.fields [[("a", int 1)], [("b", sequence [nil])]]) := by decide
  obtain ⟨entries, hEntries, hFields⟩ :=
    reserialized_record_fields "C" [[("a", int 1)], [("b", sequence [nil])]]
  obtain ⟨first, last, -, -, hRecord, hMapping, hOnce⟩ := hFields "b" hMem
  exact ⟨hMem, entries, hEntries, first, last, hRecord, hMapping, hOnce (by decide)⟩

/-- A field that an ancestor has under the same name comes back in place of the
nearer one. -/
theorem lookup_reserialized_ne_of_shadowing :
    let shadowing := record "C" false [[("a", int 1)], [("a", int 2)]]
    shadowing.lookup "a" = some (int 1) ∧
      shadowing.reserialized.lookup "a" = some (int 2) ∧
      shadowing.reserialized.lookup "a" ≠ (shadowing.lookup "a").map reserialized := by
  intro shadowing
  have hRecord : shadowing.lookup "a" = some (int 1) := rfl
  have hMapping : shadowing.reserialized.lookup "a" = some (int 2) := rfl
  have hOne : (int 1).reserialized = int 1 := rfl
  refine ⟨hRecord, hMapping, ?_⟩
  rw [hRecord, hMapping, Option.map_some, hOne]
  simp

end Value

end TextTemplate

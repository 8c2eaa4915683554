import TextTemplate.Proofs.Value.Serial
import TextTemplate.Render.Iteration

/-!
# The views of a record

The fields of a record are seen in several ways: listed over all generations, looked up
by name, found by a segment of a path, and taken apart by a loop. For a record that is
not read by position all of these follow the list, where the first field of a name
counts. The words that other values answer to do not hide a field, since records do not
answer to them.

A tuple is read by position, so the digits of a position come before a label that looks
like them. The digits are read back as the position they write, and what stands there is
the same for the tuple, for its list of fields and for a loop that takes the tuple
apart, whatever the labels are.

## Main results

* `readPosition_toString` — a position is read back from its digits.
* `Tuple.lookup_toValue`, `Tuple.getElem?_parts`, `Tuple.bindings_toValue` — the views
  of a tuple.
* `views_agree` — all views show the same values.
-/

namespace TextTemplate

/-! ## Positions in digits -/

namespace Text

private theorem digitsValue_eq_ofDigitChars (soFar : Nat) (cs : List Char) :
    digitsValue soFar cs = Nat.ofDigitChars 10 cs soFar := by
  induction cs generalizing soFar with
  | nil => exact Nat.ofDigitChars_nil.symm
  | cons c rest ih =>
      rw [Nat.ofDigitChars_cons, ← ih, Nat.mul_comm]
      rfl

private theorem readDigits_toDigits (n : Nat) :
    readDigits (Nat.toDigits 10 n) = some n := by
  have hDigits : (Nat.toDigits 10 n).all Char.isDigit = true :=
    List.all_eq_true.mpr fun _ => Nat.isDigit_of_mem_toDigits (by decide) (by decide)
  rw [readDigits, hDigits, digitsValue_eq_ofDigitChars, Nat.ofDigitChars_ten_toDigits]
  simp

/-- A number below the bound is read back from its digits. -/
private theorem readUnsigned_toDigits {bound n : Nat} (h : n < bound) :
    readUnsigned bound (Nat.toDigits 10 n) = some n := by
  have hSign : ∀ rest, Nat.toDigits 10 n ≠ '+' :: rest := by
    intro rest hDigits
    have hPlus : '+' ∈ Nat.toDigits 10 n := hDigits ▸ List.mem_cons_self
    exact absurd (Nat.isDigit_of_mem_toDigits (by decide) (by decide) hPlus) (by decide)
  unfold readUnsigned
  split
  · exact absurd ‹_› (hSign _)
  · dsimp only
    rw [readDigits_toDigits, Option.filter_some, if_pos (decide_eq_true h)]

theorem readPosition_toString {n : Nat} (h : n < UInt64.size) :
    readPosition (toString n) = some n := by
  rw [readPosition, Nat.toString_eq_repr, Nat.toList_repr, readUnsigned_toDigits h]

end Text

/-! ## Loop variables -/

/-- Several variables are bound to the parts in order, if there are enough of them. -/
private theorem Iteration.bindings_several {names : List String} {item : Value}
    (hSeveral : 2 ≤ names.length) (hEnough : names.length ≤ item.parts.length) :
    bindings names item = .ok (Mapping.ofList (names.zip item.parts)) := by
  match names, hSeveral with
  | first :: second :: rest, _ =>
      show (if item.parts.length < _ then _ else _) = _
      rw [if_neg (Nat.not_lt.mpr hEnough)]

/-! ## Tuples -/

namespace Tuple

open Text

private theorem getElem?_fieldsFrom (position : Nat)
    (elements : List (Option String × Value)) (index : Nat) :
    (fieldsFrom position elements)[index]? =
      elements[index]?.map fun element => (element.1.getD (toString (position + index)),
        element.2) := by
  induction elements generalizing position index with
  | nil => rfl
  | cons element rest ih =>
      obtain ⟨label, value⟩ := element
      cases index with
      | zero => rfl
      | succ index =>
          rw [fieldsFrom, List.getElem?_cons_succ, ih, List.getElem?_cons_succ,
            Nat.add_right_comm]
          rfl

/-- The field at a position is the element there. -/
theorem getElem?_fields (tuple : Tuple) (index : Nat) :
    tuple.fields[index]?.map Prod.snd = tuple.get? index := by
  rw [fields, getElem?_fieldsFrom, Option.map_map]
  rfl

private theorem length_fieldsFrom (position : Nat)
    (elements : List (Option String × Value)) :
    (fieldsFrom position elements).length = elements.length := by
  induction elements generalizing position with
  | nil => rfl
  | cons element rest ih => rw [fieldsFrom, List.length_cons, ih, List.length_cons]

/-- All fields of a tuple are its own. -/
theorem fields_singleton (tuple : Tuple) :
    Lineage.fields [tuple.fields] = tuple.fields :=
  List.flatten_singleton

/-- The digits of a position find the element there. -/
theorem lookup_toValue (tuple : Tuple) {index : Nat} (h : index < UInt64.size) :
    tuple.toValue.lookup (toString index) = tuple.get? index := by
  show (tuple.toValue.wordLookup (toString index) <|>
    tuple.toValue.recordLookup (toString index)) = _
  rw [toValue, Value.wordLookup_record, Value.recordLookup, if_pos rfl,
    readPosition_toString h]
  exact getElem?_fields tuple index

/-- What a loop takes apart are the elements. -/
theorem getElem?_parts (tuple : Tuple) (index : Nat) :
    tuple.toValue.parts[index]? = tuple.get? index := by
  rw [toValue, Value.parts, fields_singleton, List.getElem?_map, getElem?_fields]

private theorem length_parts (tuple : Tuple) :
    tuple.toValue.parts.length = tuple.size := by
  rw [toValue, Value.parts, fields_singleton, List.length_map, fields,
    length_fieldsFrom, size]

/-- Several loop variables are bound to the elements in order, as many as there
are variables. -/
theorem bindings_toValue (tuple : Tuple) {names : List String}
    (hSeveral : 2 ≤ names.length) (hDistinct : names.Nodup)
    (hEnough : names.length ≤ tuple.size) :
    ∃ scope, Iteration.bindings names tuple.toValue = .ok scope ∧
      ∀ (index : Nat) (name : String), names[index]? = some name →
        scope.get? name = tuple.get? index := by
  have hLength : names.length ≤ tuple.toValue.parts.length :=
    tuple.length_parts ▸ hEnough
  refine ⟨_, Iteration.bindings_several hSeveral hLength, fun index name hName => ?_⟩
  have hKeys : (names.zip tuple.toValue.parts).map Prod.fst = names :=
    List.map_fst_zip hLength
  have hIndex : index < tuple.toValue.parts.length :=
    Nat.lt_of_lt_of_le (List.getElem?_eq_some_iff.mp hName).1 hLength
  have hValue := List.getElem?_eq_getElem hIndex
  rw [← tuple.getElem?_parts, hValue,
    Mapping.get?_ofList_eq_some_iff (hKeys.symm ▸ hDistinct)]
  exact List.mem_of_getElem? (List.getElem?_zip_eq_some.mpr ⟨hName, hValue⟩)

end Tuple

/-! ## Agreement -/

/-- All views of a record agree. A look-up of a field gives the value of the first field
with the name in the list of all fields, and so does a segment of a path if the record
is not read by position. The digits of a position find in a tuple what is its element
there, and that is also the value of its field there and the part there, to which a loop
with several variables binds the variable at that position. -/
theorem views_agree :
    (∀ (typeName : String) (lineage : Lineage) (name : String),
      lineage.field? name = (lineage.fields.find? fun field => field.1 ==
        name).map Prod.snd ∧
      (Value.record typeName false lineage).lookup name = lineage.field? name) ∧
    ∀ tuple : Tuple,
      (∀ index : UInt64,
        tuple.toValue.lookup (toString index.toNat) = tuple.get? index.toNat ∧
        (Lineage.fields [tuple.fields])[index.toNat]?.map Prod.snd =
          tuple.get? index.toNat ∧
        tuple.toValue.parts[index.toNat]? = tuple.get? index.toNat) ∧
      ∀ names : List String, 2 ≤ names.length → names.Nodup →
        names.length ≤ tuple.size →
        ∃ scope, Iteration.bindings names tuple.toValue = .ok scope ∧
          ∀ (index : Nat) (name : String), names[index]? = some name →
            scope.get? name = tuple.get? index := by
  refine ⟨fun typeName lineage name => ?_,
    fun tuple => ⟨fun index => ?_, fun names => ?_⟩⟩
  · rw [Value.lookup_record, Lineage.field?_eq_get?_fields, Entries.get?_eq_find?]
    exact ⟨rfl, rfl⟩
  · refine ⟨tuple.lookup_toValue index.toNat_lt, ?_, tuple.getElem?_parts _⟩
    rw [tuple.fields_singleton]
    exact tuple.getElem?_fields _
  · exact tuple.bindings_toValue

/-- The label of each element is the position of another one, or a word. -/
theorem views_agree_of_misleading_labels :
    let tuple := Tuple.ofLabelled [("1", .string "a"), ("0", .nil), ("first", .int 7)]
    (2 ≤ ["x", "y"].length ∧ ["x", "y"].Nodup ∧ ["x", "y"].length ≤ tuple.size) ∧
      tuple.toValue.lookup "0" = some (.string "a") ∧
        tuple.toValue.lookup "1" = some .nil ∧
      ∃ scope, Iteration.bindings ["x", "y"] tuple.toValue = .ok scope ∧
        scope.get? "x" = some (.string "a") ∧ scope.get? "y" = some .nil := by
  intro tuple
  obtain ⟨hPositions, hLoop⟩ := views_agree.2 tuple
  obtain ⟨scope, hScope, hNames⟩ := hLoop ["x", "y"] (by decide) (by decide) (by decide)
  exact ⟨by decide, (hPositions 0).1, (hPositions 1).1, scope, hScope, hNames 0 "x" rfl,
    hNames 1 "y" rfl⟩

end TextTemplate

import Mathlib
import TextTemplate.Proofs.Text.Quoted
import TextTemplate.Proofs.Value.Equality
import TextTemplate.Value.Printing

/-!
# Printed containers can be told apart

Inside a container nil is spelled out and texts are quoted, so that a value is told from
what is written for it and what follows can only be a comma, a closing bracket or
nothing. Its first character tells its kind, except that sequences and mappings share
the brackets: an empty mapping has a colon there, and of what is not empty the first key
is followed by a colon where an item would be followed by a comma or a bracket. From
then on the characters tell the value: those of a number end where a character stands
that is no digit, those of a text with its quote, and those of a container with its
bracket, once its members have been told one after the other.

Floating-point numbers and records are left out. Labels and type names are printed as
they are, and numbers of either kind may be printed alike, so these cannot be told.

## Main results

* `row_append_inj` — members that can be told are told in a row.
* `told_written` — a value inside a container is told from what is written.
* `eq_of_print_eq` — containers that are printed alike are the same.
-/

namespace TextTemplate.Value

open TextTemplate.Text

/-! ## Rows of members -/

/-- What may follow a member of a container. -/
def Closes (after : List Char) : Prop :=
  ∀ c, after.head? = some c → c = ',' ∨ c = ']'

private theorem closes_nil : Closes [] := by
  intro c h
  cases h

section Rows

variable {α : Type} {write : α → List Char} {kind : α → Prop}

/-- The members behind the first one, each one after a comma. -/
def rowTail (write : α → List Char) (members : List α) : List Char :=
  members.flatMap fun member => ',' :: ' ' :: write member

/-- Members with commas between them. -/
def row (write : α → List Char) : List α → List Char
  | [] => []
  | member :: rest => write member ++ rowTail write rest

theorem intercalate_map (write : α → List Char) (members : List α) :
    [',', ' '].intercalate (members.map write) = row write members := by
  induction members with
  | nil => rfl
  | cons member rest ih =>
      cases rest with
      | nil =>
          rw [List.map_singleton, List.intercalate_singleton, row, rowTail,
            List.flatMap_nil, List.append_nil]
      | cons next others =>
          rw [List.map_cons, List.map_cons, List.intercalate_cons_cons, ← List.map_cons,
            ih, row, row, rowTail, rowTail, List.flatMap_cons, List.append_assoc]
          rfl

theorem closes_rowTail (write : α → List Char) (members : List α) (after : List Char) :
    Closes (rowTail write members ++ ']' :: after) := by
  intro c h
  cases members with
  | nil => exact .inr (Option.some.inj h).symm
  | cons member rest => exact .inl (Option.some.inj h).symm

/-- A member is told, among those of a kind, from what is written, and so is where
it ends. -/
def Told (write : α → List Char) (kind : α → Prop) (member : α) : Prop :=
  ∀ other, kind other → ∀ x y, Closes x → Closes y →
    write member ++ x = write other ++ y → member = other ∧ x = y

private theorem rowTail_append_inj {members others : List α} {x y : List Char}
    (hMembers : ∀ member ∈ members, Told write kind member)
    (hOthers : ∀ other ∈ others, kind other)
    (h : rowTail write members ++ ']' :: x = rowTail write others ++ ']' :: y) :
    members = others ∧ x = y := by
  induction members generalizing others with
  | nil =>
      cases others with
      | nil => exact ⟨rfl, (List.cons.inj h).2⟩
      | cons other others => exact absurd (List.cons.inj h).1 (by decide)
  | cons member members ih =>
      cases others with
      | nil => exact absurd (List.cons.inj h).1 (by decide)
      | cons other others =>
          obtain ⟨hMember, hRest⟩ := List.forall_mem_cons.mp hMembers
          obtain ⟨hOther, hOtherRest⟩ := List.forall_mem_cons.mp hOthers
          have hWritten : write member ++ (rowTail write members ++ ']' :: x) =
              write other ++ (rowTail write others ++ ']' :: y) := by
            simpa [rowTail] using h
          obtain ⟨rfl, hAfter⟩ :=
            hMember other hOther _ _ (closes_rowTail _ _ _)
              (closes_rowTail _ _ _) hWritten
          obtain ⟨rfl, hEnd⟩ := ih hRest hOtherRest hAfter
          exact ⟨rfl, hEnd⟩

/-- Members that are told one by one are told in a row, if none begins like the bracket
that ends the row. -/
theorem row_append_inj
    (hBegin : ∀ member, kind member → ∃ c rest, write member = c :: rest ∧ c ≠ ']')
    {members others : List α} {x y : List Char}
    (hMembers : ∀ member ∈ members, kind member)
    (hTold : ∀ member ∈ members, Told write kind member)
    (hOthers : ∀ other ∈ others, kind other)
    (h : row write members ++ ']' :: x = row write others ++ ']' :: y) :
    members = others ∧ x = y := by
  cases members with
  | nil =>
      cases others with
      | nil => exact ⟨rfl, (List.cons.inj h).2⟩
      | cons other others =>
          obtain ⟨c, rest, hWrite, hC⟩ :=
            hBegin other (hOthers other List.mem_cons_self)
          rw [row, row, hWrite] at h
          exact absurd (List.cons.inj h).1.symm hC
  | cons member members =>
      cases others with
      | nil =>
          obtain ⟨c, rest, hWrite, hC⟩ :=
            hBegin member (hMembers member List.mem_cons_self)
          rw [row, row, hWrite] at h
          exact absurd (List.cons.inj h).1 hC
      | cons other others =>
          -- A comma in front of both makes them rows of later members.
          refine rowTail_append_inj hTold hOthers ?_
          simpa [row, rowTail] using h

end Rows

/-! ## What is written -/

/-- What is written for a value inside a container. -/
def written (value : Value) : List Char :=
  (spell true value).toList

/-- What is written for an entry of a mapping. -/
def writtenEntry (entry : String × Value) : List Char :=
  quotedChars entry.1.toList ++ ':' :: ' ' :: written entry.2

theorem written_string (text : String) :
    written (string text) = quotedChars text.toList := by
  rw [written, spell, if_pos rfl, quoted, String.toList_ofList]

theorem written_int (number : Int64) :
    written (int number) = number.toInt.repr.toList := by
  rw [written, spell, Int.toString_eq_repr]

theorem toList_commaSeparated (parts : List String) :
    (commaSeparated parts).toList =
      [',', ' '].intercalate (parts.map String.toList) := by
  rw [commaSeparated, String.toList_intercalate]
  rfl

private theorem map_spellItems (items : List Value) :
    (spellItems items).map String.toList = items.map written := by
  induction items with
  | nil => rfl
  | cons item rest ih =>
      rw [spellItems, List.map_cons, ih]
      rfl

private theorem map_spellEntries (entries : List (String × Value)) :
    (spellEntries entries).map String.toList = entries.map writtenEntry := by
  induction entries with
  | nil => rfl
  | cons entry rest ih =>
      obtain ⟨key, value⟩ := entry
      rw [spellEntries, List.map_cons, ih, List.map_cons, writtenEntry, quoted,
        String.toList_append, String.toList_append, String.toList_ofList,
        List.append_assoc]
      rfl

theorem written_sequence (items : List Value) :
    written (sequence items) = '[' :: (row written items ++ [']']) := by
  rw [written, spell, String.toList_append, String.toList_append, toList_commaSeparated,
    map_spellItems, intercalate_map]
  rfl

theorem written_mapping_nil : written (mapping []) = ['[', ':', ']'] := by
  rw [written, spell]
  rfl

theorem written_mapping_cons (entry : String × Value) (rest : List (String × Value)) :
    written (mapping (entry :: rest)) =
      '[' :: (row writtenEntry (entry :: rest) ++ [']']) := by
  rw [written, spell, String.toList_append, String.toList_append, toList_commaSeparated,
    map_spellEntries, intercalate_map]
  rfl

/-! ## Beginnings -/

/-- What the first character of a written value can tell. -/
inductive Beginning where
  | nil
  | truth
  | number
  | quote
  | bracket
  | other

/-- The characters of whole numbers. -/
def inNumber (c : Char) : Bool :=
  c.isDigit || c == '-'

/-- What a first character tells. -/
def Beginning.ofChar (c : Char) : Beginning :=
  if inNumber c then number
  else if c == 'n' then nil
  else if c == 't' || c == 'f' then truth
  else if c == '"' then quote
  else if c == '[' then bracket
  else other

/-- What the first character tells of a value. -/
def beginning : Value → Beginning
  | nil => .nil
  | bool _ => .truth
  | int _ => .number
  | string _ => .quote
  | sequence _ => .bracket
  | mapping _ => .bracket
  | _ => .other

theorem inNumber_of_mem_repr {n : Int} {c : Char} (h : c ∈ n.repr.toList) :
    inNumber c = true := by
  have hDigit : ∀ m : Nat, c ∈ m.repr.toList → inNumber c = true := by
    intro m hMem
    rw [Nat.toList_repr] at hMem
    rw [inNumber, Nat.isDigit_of_mem_toDigits (by decide) (by decide) hMem,
      Bool.true_or]
  rw [Int.repr_eq_if] at h
  split at h
  · exact hDigit _ h
  · rw [String.toList_append, List.mem_append] at h
    rcases h with hMinus | hDigits
    · rw [List.mem_singleton.mp hMinus]
      rfl
    · exact hDigit _ hDigits

private theorem repr_ne_nil (n : Int) : n.repr.toList ≠ [] := by
  rw [Ne, String.toList_eq_nil_iff, Int.repr_eq_if]
  split
  · exact Nat.repr_ne_empty
  · simp

/-- The first character tells the kind. -/
theorem exists_written {value : Value} (hPlain : value.IsPlain) :
    ∃ c rest, written value = c :: rest ∧ Beginning.ofChar c = value.beginning ∧
      value.beginning ≠ .other := by
  cases value with
  | nil => exact ⟨'n', ['i', 'l'], by rw [written, spell]; rfl, rfl, nofun⟩
  | bool truth =>
      cases truth with
      | true => exact ⟨'t', ['r', 'u', 'e'], by rw [written, spell]; rfl, rfl, nofun⟩
      | false =>
          exact ⟨'f', ['a', 'l', 's', 'e'], by rw [written, spell]; rfl, rfl, nofun⟩
  | int number =>
      obtain ⟨c, rest, hChars⟩ := List.exists_cons_of_ne_nil (repr_ne_nil number.toInt)
      have hNumber : inNumber c = true :=
        inNumber_of_mem_repr (hChars ▸ List.mem_cons_self)
      refine ⟨c, rest, (written_int number).trans hChars, ?_, nofun⟩
      rw [Beginning.ofChar, if_pos hNumber]
      rfl
  | float number => exact absurd hPlain (not_isPlain_float number)
  | string text => exact ⟨'"', _, written_string text, rfl, nofun⟩
  | sequence items => exact ⟨'[', _, written_sequence items, rfl, nofun⟩
  | mapping entries =>
      cases entries with
      | nil => exact ⟨'[', _, written_mapping_nil, rfl, nofun⟩
      | cons entry rest => exact ⟨'[', _, written_mapping_cons entry rest, rfl, nofun⟩
  | record typeName positional lineage =>
      exact absurd hPlain (not_isPlain_record typeName positional lineage)

private theorem beginning_eq {a b : Value} {x y : List Char} (hA : a.IsPlain)
    (hB : b.IsPlain) (h : written a ++ x = written b ++ y) :
    a.beginning = b.beginning := by
  obtain ⟨c, front, hFront, hC, -⟩ := exists_written hA
  obtain ⟨d, other, hOther, hD, -⟩ := exists_written hB
  rw [hFront, hOther] at h
  rw [← hC, ← hD, (List.cons.inj h).1]

/-- No value begins like a character that tells of none, such as the bracket that ends a
container and the colon of an empty mapping. -/
theorem exists_written_ne {d : Char} (hD : Beginning.ofChar d = .other) {value : Value}
    (hPlain : value.IsPlain) :
    ∃ c rest, written value = c :: rest ∧ c ≠ d := by
  obtain ⟨c, rest, hWritten, hC, hOther⟩ := exists_written hPlain
  refine ⟨c, rest, hWritten, ?_⟩
  rintro rfl
  exact hOther (hC.symm.trans hD)

/-! ## Values -/

/-- A value has to be told from those that begin like it. -/
private theorem told_of_beginning {value : Value} (hPlain : value.IsPlain)
    (h : ∀ other, other.IsPlain → value.beginning = other.beginning →
      ∀ x y, Closes x → Closes y →
      written value ++ x = written other ++ y → value = other ∧ x = y) :
    Told written IsPlain value :=
  fun other hOther x y hX hY hSame => h other hOther (beginning_eq hPlain hOther hSame)
    x y hX hY hSame

private theorem takeWhile_inNumber {after : List Char} (h : Closes after) :
    after.takeWhile inNumber = [] := by
  cases after with
  | nil => rfl
  | cons c rest => rcases h c rfl with rfl | rfl <;> rfl

/-- Where a number ends is told from what is no digit. -/
private theorem repr_append_inj {m n : Int} {x y : List Char} (hX : Closes x)
    (hY : Closes y) (h : m.repr.toList ++ x = n.repr.toList ++ y) : m = n ∧ x = y := by
  have hTake : ∀ (k : Int) {after : List Char}, Closes after →
      (k.repr.toList ++ after).takeWhile inNumber = k.repr.toList := by
    intro k after hAfter
    rw [List.takeWhile_append_of_pos fun _ => inNumber_of_mem_repr,
      takeWhile_inNumber hAfter, List.append_nil]
  have hDigits : m.repr.toList = n.repr.toList := by
    rw [← hTake m hX, h, hTake n hY]
  rw [hDigits] at h
  exact ⟨Int.repr_injective (String.toList_inj.mp hDigits), List.append_cancel_left h⟩

/-- An entry is told if its value is. -/
private theorem told_entry {entry : String × Value}
    (hValue : Told written IsPlain entry.2) :
    Told writtenEntry (fun other => other.2.IsPlain) entry := by
  intro other hOther x y hX hY h
  obtain ⟨key, value⟩ := entry
  obtain ⟨otherKey, otherValue⟩ := other
  rw [writtenEntry, writtenEntry, List.append_assoc, List.append_assoc] at h
  obtain ⟨hKey, hRest⟩ := quotedChars_append_inj h
  obtain ⟨rfl, hAfter⟩ := hValue otherValue hOther x y hX hY
    (List.cons.inj (List.cons.inj hRest).2).2
  exact ⟨Prod.ext (String.toList_inj.mp hKey) rfl, hAfter⟩

theorem exists_writtenEntry_eq (entry : String × Value) :
    ∃ rest, writtenEntry entry = '"' :: rest := by
  rw [writtenEntry, quotedChars]
  exact ⟨_, rfl⟩

private theorem exists_writtenEntry_ne (entry : String × Value) (_ : entry.2.IsPlain) :
    ∃ c rest, writtenEntry entry = c :: rest ∧ c ≠ ']' := by
  obtain ⟨rest, hEntry⟩ := exists_writtenEntry_eq entry
  exact ⟨'"', rest, hEntry, by decide⟩

/-- A key is followed by a colon, and an item is not. -/
private theorem written_ne_writtenEntry {item : Value} {entry : String × Value}
    {x y : List Char} (hItem : item.IsPlain) (hX : Closes x) :
    written item ++ x ≠ writtenEntry entry ++ y := by
  intro h
  -- Only a text begins like a key.
  obtain ⟨c, front, hWritten, hBeginning, -⟩ := exists_written hItem
  obtain ⟨key, hKey⟩ := exists_writtenEntry_eq entry
  have hQuote : c = '"' := by
    rw [hWritten, hKey] at h
    exact (List.cons.inj h).1
  rw [hQuote] at hBeginning
  cases item with
  | string text =>
      rw [written_string, writtenEntry, List.append_assoc] at h
      obtain ⟨-, rfl⟩ := quotedChars_append_inj h
      exact absurd (hX ':' rfl) (by decide)
  | _ => cases hBeginning

theorem written_sequence_ne_mapping {items : List Value}
    {entries : List (String × Value)} {x y : List Char}
    (hItems : ∀ item ∈ items, item.IsPlain) :
    written (sequence items) ++ x ≠ written (mapping entries) ++ y := by
  intro h
  rw [written_sequence] at h
  cases items with
  | nil =>
      cases entries with
      | nil => simp [row, written_mapping_nil] at h
      | cons entry others =>
          simp [row, written_mapping_cons, writtenEntry, quotedChars] at h
  | cons item rest =>
      have hItem := hItems item List.mem_cons_self
      cases entries with
      | nil =>
          have hBegin : ∃ c rest, written item = c :: rest ∧ c ≠ ':' :=
            exists_written_ne rfl hItem
          obtain ⟨c, front, hWritten, hColon⟩ := hBegin
          simp [row, written_mapping_nil, hWritten, hColon] at h
      | cons entry others =>
          rw [written_mapping_cons] at h
          have hMembers : written item ++ (rowTail written rest ++ ']' :: x) =
              writtenEntry entry ++ (rowTail writtenEntry others ++ ']' :: y) := by
            simpa [row] using h
          exact written_ne_writtenEntry hItem (closes_rowTail written rest x) hMembers

/-! ## Containers -/

private theorem told_sequence {items : List Value} (hPlain : (sequence items).IsPlain)
    (hItems : ∀ item ∈ items, Told written IsPlain item) :
    Told written IsPlain (sequence items) := by
  refine told_of_beginning hPlain fun other hOther hKind x y hX hY h => ?_
  cases other with
  | sequence others =>
      have hRow : row written items ++ ']' :: x = row written others ++ ']' :: y := by
        simpa [written_sequence] using h
      obtain ⟨rfl, hAfter⟩ := row_append_inj (fun _ => exists_written_ne rfl)
        (isPlain_sequence.mp hPlain) hItems (isPlain_sequence.mp hOther) hRow
      exact ⟨rfl, hAfter⟩
  | mapping entries =>
      exact absurd h (written_sequence_ne_mapping (isPlain_sequence.mp hPlain))
  | _ => cases hKind

private theorem told_mapping {entries : List (String × Value)}
    (hPlain : (mapping entries).IsPlain)
    (hEntries : ∀ entry ∈ entries, Told written IsPlain entry.2) :
    Told written IsPlain (mapping entries) := by
  refine told_of_beginning hPlain fun other hOther hKind x y hX hY h => ?_
  cases other with
  | sequence items =>
      exact absurd h.symm (written_sequence_ne_mapping (isPlain_sequence.mp hOther))
  | mapping others =>
      cases entries with
      | nil =>
          cases others with
          | nil => exact ⟨rfl, List.append_cancel_left h⟩
          | cons next rest =>
              simp [row, written_mapping_nil, written_mapping_cons, writtenEntry,
                quotedChars] at h
      | cons entry tail =>
          cases others with
          | nil =>
              simp [row, written_mapping_nil, written_mapping_cons, writtenEntry,
                quotedChars] at h
          | cons next rest =>
              have hRow : row writtenEntry (entry :: tail) ++ ']' :: x =
                  row writtenEntry (next :: rest) ++ ']' :: y := by
                simpa [written_mapping_cons] using h
              obtain ⟨hSame, hAfter⟩ :=
                row_append_inj exists_writtenEntry_ne (isPlain_mapping.mp hPlain)
                (fun member hMem => told_entry (hEntries member hMem))
                (isPlain_mapping.mp hOther) hRow
              exact ⟨congrArg mapping hSame, hAfter⟩
  | _ => cases hKind

/-- A plain value inside a container is told from what is written, and so is where
it ends. -/
theorem told_written {value : Value} (hPlain : value.IsPlain) :
    Told written IsPlain value := by
  induction value using inductionOn with
  | nil =>
      refine told_of_beginning hPlain fun other hOther hKind x y hX hY h => ?_
      cases other with
      | nil => exact ⟨rfl, List.append_cancel_left h⟩
      | _ => cases hKind
  | bool truth =>
      refine told_of_beginning hPlain fun other hOther hKind x y hX hY h => ?_
      cases other with
      | bool otherTruth =>
          cases truth <;> cases otherTruth <;> simp_all [written, spell]
      | _ => cases hKind
  | int number =>
      refine told_of_beginning hPlain fun other hOther hKind x y hX hY h => ?_
      cases other with
      | int otherNumber =>
          rw [written_int, written_int] at h
          obtain ⟨hNumber, hAfter⟩ := repr_append_inj hX hY h
          rw [Int64.toInt_inj.mp hNumber]
          exact ⟨rfl, hAfter⟩
      | _ => cases hKind
  | float number => exact absurd hPlain (not_isPlain_float number)
  | string text =>
      refine told_of_beginning hPlain fun other hOther hKind x y hX hY h => ?_
      cases other with
      | string otherText =>
          rw [written_string, written_string] at h
          obtain ⟨hText, hAfter⟩ := quotedChars_append_inj h
          rw [String.toList_inj.mp hText]
          exact ⟨rfl, hAfter⟩
      | _ => cases hKind
  | sequence items ih =>
      exact told_sequence hPlain fun item hMem =>
        ih item hMem (isPlain_sequence.mp hPlain item hMem)
  | mapping entries ih =>
      exact told_mapping hPlain fun entry hMem =>
        ih entry hMem (isPlain_mapping.mp hPlain entry hMem)
  | record typeName positional lineage =>
      exact absurd hPlain (not_isPlain_record typeName positional lineage)

/-- Whether the value is a sequence or a mapping. -/
def isContainer : Value → Bool
  | sequence _ => true
  | mapping _ => true
  | _ => false

/-- Containers are printed on their own as they are inside others. -/
private theorem toList_print {value : Value} (h : value.isContainer = true) :
    value.print.toList = written value := by
  cases value with
  | sequence items =>
      rw [print, written, spell, spell]
  | mapping entries => cases entries <;> rw [print, written, spell, spell]
  | _ => cases h

theorem IsPlain.isFloatFree {value : Value} (h : value.IsPlain) : value.IsFloatFree :=
  fun inner hMem => (h inner hMem).1

/-- Two sequences or mappings without floating-point numbers and records at any depth
that are printed alike are the same value, and so equal. -/
theorem eq_of_print_eq {a b : Value} (hContainerA : a.isContainer = true)
    (hContainerB : b.isContainer = true) (hPlainA : a.IsPlain) (hPlainB : b.IsPlain)
    (h : a.print = b.print) : a = b ∧ a.same b = true := by
  have hWritten : written a ++ [] = written b ++ [] := by
    rw [← toList_print hContainerA, ← toList_print hContainerB, h]
  obtain ⟨rfl, -⟩ := told_written hPlainA b hPlainB [] [] closes_nil closes_nil hWritten
  exact ⟨rfl, same_self hPlainA.isFloatFree⟩

/-- A mapping is the same in whichever order its entries were given; its texts have
brackets, quotes and commas. -/
theorem eq_of_print_eq_of_reordered :
    let ordered : Value :=
  mapping [("a\"]", sequence [string "nil, ", nil, mapping []]), ("b: ", int (-10))]
    let given : Value := ofMapping (Mapping.ofList
      [("b: ", int (-10)), ("a\"]", sequence [string "nil, ", nil, mapping []])])
    (ordered.isContainer = true ∧ given.isContainer = true ∧ ordered.IsPlain ∧
      given.IsPlain ∧
        ordered.print = given.print) ∧ ordered = given ∧ ordered.same given = true := by
  intro ordered given
  have hPlain : ordered.IsPlain := by
    simp [ordered, IsPlain, nested, nestedFields, nestedItems, isFloat, isRecord]
  have hGiven : given.IsPlain := by
    have hLess : "a\"]" < "b: " := by decide
    simp only [given, ofMapping, Mapping.ofList, Entries.ofList, List.foldl_cons,
      List.foldl_nil, Entries.insert, if_pos hLess]
    simp [IsPlain, nested, nestedFields, nestedItems, isFloat, isRecord]
  have hPrint : ordered.print = given.print := by cbv
  exact ⟨⟨rfl, rfl, hPlain, hGiven, hPrint⟩,
    eq_of_print_eq rfl rfl hPlain hGiven hPrint⟩

end TextTemplate.Value

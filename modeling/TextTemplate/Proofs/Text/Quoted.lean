import TextTemplate.Proofs.Text.Division
import TextTemplate.Text.Quoted

/-!
# Quoted text can be read back

Between its quotes a text is written character by character. Every character takes one
of three forms: a backslash with a letter of its own, its number between braces behind a
backslash and a `u`, or itself. The forms can be told apart, no letter stands for two
characters, and where a number ends is seen from the brace; so the characters, and where
the quoted text ends, can be told from what is written, whatever follows. Which
characters are spelled by number does not matter for this, as long as quotes and
backslashes never stand for themselves.

## Main results

* `spells_quotedChar` — the three forms.
* `Spells.append_inj` — a character and its end are told from its form.
* `quotedChars_append_inj` — the same for quoted texts.
-/

namespace TextTemplate.Text

/-! ## Hexadecimal digits -/

private theorem digitChar_inj {m n : Nat} (hM : m < 16) (hN : n < 16)
    (h : m.digitChar = n.digitChar) : m = n := by
  have hAll : ∀ i < 16, ∀ j < 16, i.digitChar = j.digitChar → i = j := by decide
  exact hAll m hM n hN h

theorem hexDigits_of_le {n : Nat} (h : 16 ≤ n) :
    hexDigits n = hexDigits (n / 16) ++ [(n % 16).digitChar] :=
  Nat.toDigits_of_base_le (by decide) h

theorem hexDigits_of_lt {n : Nat} (h : n < 16) : hexDigits n = [n.digitChar] :=
  Nat.toDigits_of_lt_base h

private theorem hexDigits_ne_nil (n : Nat) : hexDigits n ≠ [] :=
  Nat.toDigits_ne_nil

private theorem hexDigits_injective {m n : Nat} (h : hexDigits m = hexDigits n) :
    m = n := by
  induction m using Nat.strongRecOn generalizing n with
  | ind m ih =>
      by_cases hM : m < 16 <;> by_cases hN : n < 16
      · rw [hexDigits_of_lt hM, hexDigits_of_lt hN] at h
        exact digitChar_inj hM hN (List.cons.inj h).1
      · rw [hexDigits_of_lt hM, hexDigits_of_le (Nat.le_of_not_lt hN),
          ← List.nil_append [m.digitChar]] at h
        exact absurd (List.append_inj' h rfl).1.symm (hexDigits_ne_nil _)
      · rw [hexDigits_of_le (Nat.le_of_not_lt hM), hexDigits_of_lt hN,
          ← List.nil_append [n.digitChar]] at h
        exact absurd (List.append_inj' h rfl).1 (hexDigits_ne_nil _)
      · rw [hexDigits_of_le (Nat.le_of_not_lt hM),
          hexDigits_of_le (Nat.le_of_not_lt hN)] at h
        obtain ⟨hFront, hLast⟩ := List.append_inj' h rfl
        have hQuotient := ih (m / 16) (by omega) hFront
        have hRemainder := digitChar_inj (Nat.mod_lt m (by decide))
          (Nat.mod_lt n (by decide)) (List.cons.inj hLast).1
        omega

private theorem brace_notMem_hexDigits (n : Nat) : '\x7d' ∉ hexDigits n := by
  induction n using Nat.strongRecOn with
  | ind n ih =>
      have hDigit : ∀ d : Nat, '\x7d' ∉ [d.digitChar] := fun d hMem =>
        Nat.digitChar_ne '\x7d' (by decide) (List.mem_singleton.mp hMem).symm
      by_cases hN : n < 16
      · rw [hexDigits_of_lt hN]
        exact hDigit n
      · rw [hexDigits_of_le (Nat.le_of_not_lt hN), List.mem_append]
        exact not_or_intro (ih (n / 16) (by omega)) (hDigit _)

/-! ## Characters -/

/-- What stands in front of the first occurrence of a character is told from the
whole. -/
private theorem append_cons_inj_of_notMem {c : Char} {first second x y : List Char}
    (hFirst : c ∉ first) (hSecond : c ∉ second)
    (h : first ++ c :: x = second ++ c :: y) : first = second ∧ x = y := by
  have hCut := cutAt_append_of_notMem hFirst x
  rw [h, cutAt_append_of_notMem hSecond y] at hCut
  cases hCut
  exact ⟨rfl, rfl⟩

/-- The characters that have a letter, with their letters. -/
def letters : List (Char × Char) :=
  [('\x00', '0'), ('\t', 't'), ('\r', 'r'), ('\n', 'n'), ('"', '"'), ('\\', '\\')]

/-- The forms that a character can take between quotes. -/
inductive Spells (c : Char) : List Char → Prop where
  | letter {letter : Char} (h : (c, letter) ∈ letters) : Spells c ['\\', letter]
  | number : Spells c ('\\' :: 'u' :: '\x7b' :: (hexDigits c.toNat ++ ['\x7d']))
  | itself (hQuote : c ≠ '"') (hBackslash : c ≠ '\\') : Spells c [c]

theorem spells_quotedChar (c : Char) : Spells c (quotedChar c) := by
  unfold quotedChar
  split
  case h_7 =>
    rename_i hQuote hBackslash
    split
    · exact .number
    · exact .itself hQuote hBackslash
  all_goals exact .letter (by decide)

private theorem letter_inj {c d letter : Char} (hC : (c, letter) ∈ letters)
    (hD : (d, letter) ∈ letters) : c = d := by
  have hAll : ∀ p ∈ letters, ∀ q ∈ letters, p.2 = q.2 → p.1 = q.1 := by decide
  exact hAll _ hC _ hD rfl

private theorem letter_ne_u {c : Char} : (c, 'u') ∉ letters := by
  have hAll : ∀ p ∈ letters, p.2 ≠ 'u' := by decide
  exact fun hMem => hAll _ hMem rfl

/-- A form tells its character, and where it ends. -/
theorem Spells.append_inj {c d : Char} {form other x y : List Char} (hC : Spells c form)
    (hD : Spells d other) (h : form ++ x = other ++ y) : c = d ∧ x = y := by
  cases hC with
  | letter hLetter =>
      cases hD with
      | letter hOther =>
          obtain ⟨-, hRest⟩ := List.cons.inj h
          obtain ⟨rfl, hAfter⟩ := List.cons.inj hRest
          exact ⟨letter_inj hLetter hOther, hAfter⟩
      | number =>
          obtain ⟨-, hRest⟩ := List.cons.inj h
          obtain ⟨rfl, -⟩ := List.cons.inj hRest
          exact absurd hLetter letter_ne_u
      | itself _ hBackslash => exact absurd (List.cons.inj h).1.symm hBackslash
  | number =>
      cases hD with
      | letter hOther =>
          obtain ⟨-, hRest⟩ := List.cons.inj h
          obtain ⟨rfl, -⟩ := List.cons.inj hRest
          exact absurd hOther letter_ne_u
      | number =>
          simp only [List.cons_append, List.append_assoc, List.nil_append,
            List.cons.injEq, true_and] at h
          obtain ⟨hDigits, hAfter⟩ :=
            append_cons_inj_of_notMem (brace_notMem_hexDigits _)
              (brace_notMem_hexDigits _) h
          exact ⟨Char.toNat_inj.mp (hexDigits_injective hDigits), hAfter⟩
      | itself _ hBackslash => exact absurd (List.cons.inj h).1.symm hBackslash
  | itself hQuote hBackslash =>
      cases hD with
      | letter hOther => exact absurd (List.cons.inj h).1 hBackslash
      | number => exact absurd (List.cons.inj h).1 hBackslash
      | itself => exact List.cons.inj h

/-- No form begins with a quote. -/
theorem Spells.append_ne_quote {c : Char} {form x y : List Char} (hC : Spells c form) :
    form ++ x ≠ '"' :: y := by
  intro h
  cases hC with
  | letter hLetter => exact absurd (List.cons.inj h).1 (by decide)
  | number => exact absurd (List.cons.inj h).1 (by decide)
  | itself hQuote hBackslash => exact hQuote (List.cons.inj h).1

/-! ## Texts -/

private theorem flatMap_quotedChar_append_inj {cs ds x y : List Char}
    (h : cs.flatMap quotedChar ++ '"' :: x = ds.flatMap quotedChar ++ '"' :: y) :
    cs = ds ∧ x = y := by
  induction cs generalizing ds with
  | nil =>
      cases ds with
      | nil => exact ⟨rfl, (List.cons.inj h).2⟩
      | cons d ds =>
          rw [List.flatMap_cons, List.append_assoc] at h
          exact absurd h.symm (spells_quotedChar d).append_ne_quote
  | cons c cs ih =>
      cases ds with
      | nil =>
          rw [List.flatMap_cons, List.append_assoc] at h
          exact absurd h (spells_quotedChar c).append_ne_quote
      | cons d ds =>
          rw [List.flatMap_cons, List.flatMap_cons, List.append_assoc,
            List.append_assoc] at h
          obtain ⟨rfl, hRest⟩ := (spells_quotedChar c).append_inj
            (spells_quotedChar d) h
          obtain ⟨rfl, hAfter⟩ := ih hRest
          exact ⟨rfl, hAfter⟩

/-- A quoted text tells its characters, and where it ends. -/
theorem quotedChars_append_inj {cs ds x y : List Char}
    (h : quotedChars cs ++ x = quotedChars ds ++ y) :
    cs = ds ∧ x = y := by
  apply flatMap_quotedChar_append_inj
  simpa [quotedChars] using h

end TextTemplate.Text

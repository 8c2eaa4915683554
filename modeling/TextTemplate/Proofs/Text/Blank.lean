import TextTemplate.Text.Blank

/-!
# What trimming leaves

Trimming takes blanks off both ends of a text and nothing else, and it takes off all
that there are. What is left is determined by this, so a text around which blanks are
written is found again.
-/

namespace TextTemplate.Text

/-- A text is what is left of some characters without the blanks on either side. -/
structure Trims (cs : List Char) (text : String) : Prop where
  around : ∃ before after, cs = before ++ text.toList ++ after ∧ ∀ c ∈ before ++ after,
    isBlank c = true
  start : ∀ c, text.toList.head? = some c → isBlank c = false
  finish : ∀ c, text.toList.getLast? = some c → isBlank c = false

theorem trimStart_append (cs : List Char) :
    ∃ before, cs = before ++ trimStart cs ∧ ∀ c ∈ before, isBlank c = true :=
  ⟨cs.takeWhile isBlank, List.takeWhile_append_dropWhile.symm,
    List.all_eq_true.mp List.all_takeWhile⟩

theorem isBlank_head_trimStart {cs : List Char} {c : Char}
    (h : (trimStart cs).head? = some c) :
    isBlank c = false := by
  have hHead := List.head?_dropWhile_not isBlank cs
  unfold trimStart at h
  rw [h] at hHead
  simpa using hHead

private theorem trimEnd_append (cs : List Char) :
    ∃ after, cs = trimEnd cs ++ after ∧ ∀ c ∈ after, isBlank c = true := by
  obtain ⟨before, hCs, hBlank⟩ := trimStart_append cs.reverse
  refine ⟨before.reverse, ?_, fun c hc => hBlank c (List.mem_reverse.mp hc)⟩
  unfold trimEnd
  rw [← List.reverse_append, ← hCs, List.reverse_reverse]

private theorem isBlank_getLast_trimEnd {cs : List Char} {c : Char}
    (h : (trimEnd cs).getLast? = some c) :
    isBlank c = false := by
  unfold trimEnd at h
  rw [List.getLast?_reverse] at h
  exact isBlank_head_trimStart h

/-- Trimming leaves what is between the blanks. -/
theorem trims_trim (cs : List Char) : Trims cs (trim (String.ofList cs)) := by
  obtain ⟨before, hBefore, hBlankBefore⟩ := trimStart_append cs
  obtain ⟨after, hAfter, hBlankAfter⟩ := trimEnd_append (trimStart cs)
  unfold trim
  rw [String.toList_ofList]
  refine ⟨⟨before, after, ?_, ?_⟩, fun c hc => ?_, fun c hc => ?_⟩
  · rw [String.toList_ofList, List.append_assoc, ← hAfter]
    exact hBefore
  · intro c hc
    exact (List.mem_append.mp hc).elim (hBlankBefore c) (hBlankAfter c)
  · rw [String.toList_ofList] at hc
    have hHead : (trimStart cs).head? = some c := by
      rw [hAfter, List.head?_append, hc, Option.some_or]
    exact isBlank_head_trimStart hHead
  · rw [String.toList_ofList] at hc
    exact isBlank_getLast_trimEnd hc

/-- Blanks in front of a character that is none are taken off. -/
theorem trimStart_blanks {before cs : List Char}
    (hBefore : ∀ c ∈ before, isBlank c = true)
    (hStart : ∀ c, cs.head? = some c → isBlank c = false) :
    trimStart (before ++ cs) = cs := by
  rw [trimStart, List.dropWhile_append_of_pos hBefore]
  cases cs with
  | nil => rfl
  | cons c rest =>
      rw [List.dropWhile_cons_of_neg]
      rw [hStart c rfl]
      exact Bool.noConfusion

/-- Blanks behind a character that is none are taken off. -/
private theorem trimEnd_blanks {cs after : List Char}
    (hAfter : ∀ c ∈ after, isBlank c = true)
    (hFinish : ∀ c, cs.getLast? = some c → isBlank c = false) :
    trimEnd (cs ++ after) = cs := by
  rw [trimEnd, List.reverse_append, trimStart_blanks, List.reverse_reverse]
  · exact fun c hMem => hAfter c (List.mem_reverse.mp hMem)
  · intro c hHead
    rw [List.head?_reverse] at hHead
    exact hFinish c hHead

/-- Nothing else is left than what is between the blanks. -/
theorem Trims.trim_eq {cs : List Char} {text : String} (h : Trims cs text) :
    trim (String.ofList cs) = text := by
  obtain ⟨before, after, rfl, hBlank⟩ := h.around
  obtain ⟨hBefore, hAfter⟩ := List.forall_mem_append.mp hBlank
  rw [trim, String.toList_ofList, List.append_assoc]
  by_cases hText : text = ""
  · -- Without a text in between, all blanks are taken off in front.
    subst hText
    have hNone : trimStart (before ++ after ++ []) = [] :=
      trimStart_blanks hBlank (by simp)
    rw [List.append_nil] at hNone
    rw [String.toList_empty, List.nil_append, hNone]
    rfl
  · have hStart : ∀ c, (text.toList ++ after).head? = some c → isBlank c = false := by
      intro c hHead
      cases hChars : text.toList with
      | nil => exact absurd (String.toList_eq_nil_iff.mp hChars) hText
      | cons first rest =>
          rw [hChars, List.cons_append, List.head?_cons] at hHead
          exact h.start c (by rw [hChars, List.head?_cons, hHead])
    rw [trimStart_blanks hBefore hStart, trimEnd_blanks hAfter h.finish,
      String.ofList_toList]

/-- A text that has no blanks at its ends stays when blanks are written around it
and trimmed. -/
theorem trim_around {text : String} (before after : List Char)
    (hBlank : ∀ c ∈ before ++ after, isBlank c = true)
    (hStart : ∀ c, text.toList.head? = some c → isBlank c = false)
    (hFinish : ∀ c, text.toList.getLast? = some c → isBlank c = false) :
    trim (String.ofList (before ++ text.toList ++ after)) = text :=
  Trims.trim_eq ⟨⟨before, after, rfl, hBlank⟩, hStart, hFinish⟩

/-- A text that neither begins nor ends with a blank stays when it is trimmed. -/
theorem trim_eq_self {text : String}
    (hStart : ∀ c, text.toList.head? = some c → isBlank c = false)
    (hFinish : ∀ c, text.toList.getLast? = some c → isBlank c = false) :
    trim text = text := by
  have hTrim := trim_around [] [] (fun c hMem => absurd hMem List.not_mem_nil)
    hStart hFinish
  rwa [List.nil_append, List.append_nil, String.ofList_toList] at hTrim

/-- What is left after trimming has no blanks at its ends. -/
theorem trims_of_trim_eq {text : String} (h : trim text = text) :
    Trims text.toList text := by
  have hTrims := trims_trim text.toList
  rwa [String.ofList_toList, h] at hTrims

/-- Trimming again changes nothing. -/
theorem Trims.trim_self {cs : List Char} {text : String} (h : Trims cs text) :
    trim text = text :=
  trim_eq_self h.start h.finish

end TextTemplate.Text

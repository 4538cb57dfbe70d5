import ContractWatch.Text.Blank

/-!
Trimming takes away the blanks around a text and nothing else.
-/

namespace ContractWatch.Text

theorem trimLeft_append {before text : List Char} (h : ∀ c ∈ before, isBlank c) :
    trimLeft (before ++ text) = trimLeft text := by
  rw [trimLeft, List.dropWhile_append_of_pos h, trimLeft]

theorem trimRight_append {text after : List Char} (h : ∀ c ∈ after, isBlank c) :
    trimRight (text ++ after) = trimRight text := by
  have h : ∀ c ∈ after.reverse, isBlank c := fun c hc => h c (List.mem_reverse.1 hc)
  rw [trimRight, List.reverse_append, List.dropWhile_append_of_pos h, trimRight]

theorem trimLeft_of_head {text : List Char} (h : ∀ c, text.head? = some c → isBlank c = false) :
    trimLeft text = text := by
  cases text with
  | nil => rfl
  | cons c text =>
    rw [trimLeft, List.dropWhile_cons_of_neg]
    simp [h c rfl]

theorem trimLeft_cons {c : Char} (h : isBlank c = false) (cs : List Char) : trimLeft (c :: cs) = c :: cs :=
  trimLeft_of_head fun c' hc => by
    obtain rfl : c = c' := Option.some.inj hc
    exact h

theorem trimRight_of_getLast {text : List Char} (h : ∀ c, text.getLast? = some c → isBlank c = false) :
    trimRight text = text := by
  have hr : trimLeft text.reverse = text.reverse := trimLeft_of_head (by simpa using h)
  rw [trimLeft] at hr
  rw [trimRight, hr, List.reverse_reverse]

/-- A text without blanks is what is left when blanks around it are trimmed. -/
theorem trim_around {before text after : List Char} (hb : ∀ c ∈ before, isBlank c) (ha : ∀ c ∈ after, isBlank c)
    (ht : ∀ c ∈ text, isBlank c = false) : trim (before ++ text ++ after) = text := by
  have hl : trimLeft text = text := trimLeft_of_head fun c hc => ht c (List.mem_of_head? hc)
  have hr : trimRight text = text := trimRight_of_getLast fun c hc => ht c (List.mem_of_getLast? hc)
  cases text with
  | nil =>
    have ha' : trimRight (trimLeft after) = [] := by
      have h : trimLeft (after ++ []) = trimLeft [] := trimLeft_append ha
      rw [List.append_nil] at h
      rw [h]
      rfl
    rw [trim, List.append_nil, trimLeft_append hb, ha']
  | cons c text =>
    have hc : isBlank c = false := ht c List.mem_cons_self
    rw [trim, List.append_assoc, trimLeft_append hb, List.cons_append, trimLeft_cons hc, ← List.cons_append,
      trimRight_append ha, hr]

theorem trimmed_around {before after : List Char} {text : String} (hb : ∀ c ∈ before, isBlank c)
    (ha : ∀ c ∈ after, isBlank c) (ht : ∀ c ∈ text.toList, isBlank c = false) :
    trimmed (String.ofList before ++ text ++ String.ofList after) = text := by
  rw [trimmed, String.toList_append, String.toList_append, String.toList_ofList, String.toList_ofList,
    trim_around hb ha ht, String.ofList_toList]

theorem trimmed_of_not_blank {text : String} (ht : ∀ c ∈ text.toList, isBlank c = false) : trimmed text = text := by
  have hnone : ∀ c ∈ ([] : List Char), isBlank c := by simp
  simpa using trimmed_around hnone hnone ht

end ContractWatch.Text

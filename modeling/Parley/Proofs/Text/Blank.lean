/-
# What trimming leaves

A text is its trimmed form with blanks around it, and a part without blanks that has nothing but
blanks around it is the trimmed form (`padded_iff`).
-/

import Parley.Text.Blank

namespace Parley.Text

variable {cs core before after : List Char}

/-- Blanks in front are trimmed. -/
theorem trimStart_append (h : ∀ c ∈ before, isBlank c = true) (rest : List Char) :
    trimStart (before ++ rest) = trimStart rest :=
  List.dropWhile_append_of_pos h

/-- Blanks at the end are trimmed. -/
theorem trimEnd_append (h : ∀ c ∈ after, isBlank c = true) (first : List Char) :
    trimEnd (first ++ after) = trimEnd first := by
  have hreversed : ∀ c ∈ after.reverse, isBlank c = true :=
    fun c hc => h c (List.mem_reverse.1 hc)
  rw [trimEnd, trimEnd, List.reverse_append, List.dropWhile_append_of_pos hreversed]

/-- Nothing is trimmed where no blank is in front. -/
theorem trimStart_cons {c : Char} (h : isBlank c = false) (rest : List Char) :
    trimStart (c :: rest) = c :: rest :=
  List.dropWhile_cons_of_neg (by simp [h])

/-- Only blanks are dropped at the start. -/
theorem exists_trimStart (cs : List Char) :
    ∃ before, cs = before ++ trimStart cs ∧ ∀ c ∈ before, isBlank c = true :=
  ⟨cs.takeWhile isBlank, List.takeWhile_append_dropWhile.symm,
    List.all_eq_true.1 List.all_takeWhile⟩

/-- Only blanks are dropped at the end. -/
theorem exists_trimEnd (cs : List Char) :
    ∃ after, cs = trimEnd cs ++ after ∧ ∀ c ∈ after, isBlank c = true := by
  obtain ⟨before, hreversed, hblank⟩ := exists_trimStart cs.reverse
  refine ⟨before.reverse, ?_, fun c hc => hblank c (List.mem_reverse.1 hc)⟩
  rw [trimEnd, ← List.reverse_append, ← trimStart, ← hreversed, List.reverse_reverse]

/-- A text is its trimmed form with blanks around it. -/
theorem padded_trim (cs : List Char) : Padded isBlank (trim cs) cs := by
  obtain ⟨before, hstart, hbefore⟩ := exists_trimStart cs
  obtain ⟨after, hend, hafter⟩ := exists_trimEnd (trimStart cs)
  refine ⟨before, after, ?_, hbefore, hafter⟩
  rw [trim, List.append_assoc, ← hend, ← hstart]

/-- What has nothing but blanks around it, and none in it, is the trimmed form. -/
theorem trim_of_padded (hcore : core ≠ []) (hclear : ∀ c ∈ core, isBlank c = false)
    (h : Padded isBlank core cs) : trim cs = core := by
  obtain ⟨before, after, rfl, hbefore, hafter⟩ := h
  have hself : trim core = core :=
    trim_eq_self (fun c hc => hclear c (List.mem_of_mem_head? hc))
      fun c hc => hclear c (List.mem_of_mem_getLast? hc)
  cases core with
  | nil => exact absurd rfl hcore
  | cons c rest =>
    have hc : isBlank c = false := hclear c (by simp)
    rw [trim, trimStart_cons hc] at hself
    rw [trim, List.append_assoc, trimStart_append hbefore, List.cons_append, trimStart_cons hc,
      ← List.cons_append, trimEnd_append hafter, hself]

/-- A core without blanks stands between blanks when it is what is left after trimming. -/
theorem padded_iff (hcore : core ≠ []) (hclear : ∀ c ∈ core, isBlank c = false) :
    Padded isBlank core cs ↔ trim cs = core := by
  constructor
  · exact trim_of_padded hcore hclear
  · rintro rfl
    exact padded_trim cs

end Parley.Text

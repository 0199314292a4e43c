import Companions.Session.Spec
import Mathlib.Data.List.TakeWhile

/-! A text is divided at its separators in one way only, and what is left of it between white space
is the text that stands there. -/
namespace Companions

/-- The text divides into the parts at its separators. -/
inductive Text.Divides (sep : Char) : List Char → List (List Char) → Prop
  | last {part : List Char} (h : sep ∉ part) : Divides sep part [part]
  | more {part cs : List Char} {parts : List (List Char)} (h : sep ∉ part)
      (hr : Divides sep cs parts) : Divides sep (part ++ sep :: cs) (part :: parts)

namespace Text

variable {sep : Char} {cs part : List Char} {parts : List (List Char)}

theorem splitAt_ne_nil (sep : Char) (cs : List Char) : splitAt sep cs ≠ [] := by
  cases cs with
  | nil => simp [splitAt]
  | cons c cs =>
    unfold splitAt
    split
    · simp
    · split <;> simp

theorem splitAt_cons_sep (sep : Char) (cs : List Char) :
    splitAt sep (sep :: cs) = [] :: splitAt sep cs := by
  obtain ⟨part, parts, h⟩ := List.exists_cons_of_ne_nil (splitAt_ne_nil sep cs)
  rw [splitAt, h]
  simp

theorem splitAt_cons_ne {c : Char} (hc : c ≠ sep) (h : splitAt sep cs = part :: parts) :
    splitAt sep (c :: cs) = (c :: part) :: parts := by
  rw [splitAt, h]
  simp [hc]

theorem splitAt_of_not_mem (h : sep ∉ part) : splitAt sep part = [part] := by
  induction part with
  | nil => rfl
  | cons c part ih =>
    obtain ⟨hc, hp⟩ := List.ne_and_not_mem_of_not_mem_cons h
    exact splitAt_cons_ne hc.symm (ih hp)

theorem splitAt_append (h : sep ∉ part) (cs : List Char) :
    splitAt sep (part ++ sep :: cs) = part :: splitAt sep cs := by
  induction part with
  | nil => exact splitAt_cons_sep sep cs
  | cons c part ih =>
    obtain ⟨hc, hp⟩ := List.ne_and_not_mem_of_not_mem_cons h
    exact splitAt_cons_ne hc.symm (ih hp)

theorem divides_cons {c : Char} (hc : c ≠ sep) (h : Divides sep cs (part :: parts)) :
    Divides sep (c :: cs) ((c :: part) :: parts) := by
  cases h with
  | last h => exact .last (by simp [hc.symm, h])
  | @more _ cs _ h hr =>
    have hfirst : sep ∉ c :: part := by simp [hc.symm, h]
    exact Divides.more hfirst hr

theorem divides_splitAt (sep : Char) (cs : List Char) : Divides sep cs (splitAt sep cs) := by
  induction cs with
  | nil => exact .last (by simp)
  | cons c cs ih =>
    by_cases hc : c = sep
    · subst hc
      rw [splitAt_cons_sep]
      have hfirst : c ∉ ([] : List Char) := by simp
      exact Divides.more hfirst ih
    · obtain ⟨part, parts, h⟩ := List.exists_cons_of_ne_nil (splitAt_ne_nil sep cs)
      rw [splitAt_cons_ne hc h]
      rw [h] at ih
      exact divides_cons hc ih

theorem splitAt_eq_iff : splitAt sep cs = parts ↔ Divides sep cs parts := by
  constructor
  · rintro rfl
    exact divides_splitAt sep cs
  · intro h
    induction h with
    | last h => exact splitAt_of_not_mem h
    | more h hr ih => rw [splitAt_append h, ih]

/-- What is left of a text between white space. -/
theorem trimChars_between {before core after : List Char} (hb : ∀ c ∈ before, isBlank c = true)
    (hc : ∀ c ∈ core, isBlank c = false) (ha : ∀ c ∈ after, isBlank c = true) :
    trimChars (before ++ core ++ after) = core := by
  have hstart : trimStart (before ++ core ++ after) = trimStart (core ++ after) := by
    unfold trimStart
    rw [List.append_assoc, List.dropWhile_append_of_pos hb]
  rw [trimChars, hstart]
  cases core with
  | nil =>
    have hall : trimStart ([] ++ after) = [] := List.dropWhile_eq_nil_iff.mpr ha
    rw [hall]
    rfl
  | cons c core =>
    have hkept : trimStart (c :: core ++ after) = c :: core ++ after := by
      unfold trimStart
      rw [List.cons_append, List.dropWhile_cons_of_neg (by simp [hc c])]
    have hrev : ∀ x ∈ after.reverse, isBlank x = true := fun x hx => ha x (List.mem_reverse.mp hx)
    rw [hkept, trimEnd, List.reverse_append, List.dropWhile_append_of_pos hrev]
    cases hcore : (c :: core).reverse with
    | nil => simp at hcore
    | cons e es =>
      have he : isBlank e = false := hc e (List.mem_reverse.mp (by rw [hcore]; simp))
      rw [List.dropWhile_cons_of_neg (by simp [he]), ← hcore, List.reverse_reverse]

/-- What is cut off is white space. -/
theorem eq_trimChars_between (cs : List Char) :
    ∃ before after, cs = before ++ trimChars cs ++ after ∧ (∀ c ∈ before, isBlank c = true) ∧
      ∀ c ∈ after, isBlank c = true := by
  refine ⟨cs.takeWhile isBlank, ((trimStart cs).reverse.takeWhile isBlank).reverse, ?_, ?_, ?_⟩
  · have hend : trimStart cs = trimEnd (trimStart cs) ++
        ((trimStart cs).reverse.takeWhile isBlank).reverse := by
      rw [trimEnd, ← List.reverse_append, List.takeWhile_append_dropWhile, List.reverse_reverse]
    rw [List.append_assoc, trimChars, ← hend]
    exact List.takeWhile_append_dropWhile.symm
  · exact fun c hc => List.mem_takeWhile_imp hc
  · exact fun c hc => List.mem_takeWhile_imp (List.mem_reverse.mp hc)

end Text

end Companions

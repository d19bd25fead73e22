import Mathlib.Data.List.DropRight
import Shopfront.Text.Blank

/-! Trimming. What it leaves has no blank at either end (`trimmed_trimChars`), what it takes away is
blank (`exists_eq_trimChars`), and a text that is trimmed stays as it is (`trimChars_of_trimmed`). -/

namespace Shopfront.Text

/-- No blank stands at either end. -/
structure Trimmed (cs : List Char) : Prop where
  first : ∀ c, cs.head? = some c → isBlank c = false
  last : ∀ c, cs.getLast? = some c → isBlank c = false

theorem isBlank_of_head?_dropWhile {cs : List Char} {c : Char}
    (h : (cs.dropWhile isBlank).head? = some c) : isBlank c = false := by
  have hnot := List.head?_dropWhile_not isBlank cs
  rw [h] at hnot
  exact hnot

theorem trimmed_trimChars (cs : List Char) : Trimmed (trimChars cs) where
  first c h := by
    -- trimming at the end leaves a prefix
    obtain ⟨rest, hrest⟩ : trimChars cs <+: cs.dropWhile isBlank := List.rdropWhile_prefix _ _
    have hhead : (cs.dropWhile isBlank).head? = some c := by
      rw [← hrest, List.head?_append, h, Option.some_or]
    exact isBlank_of_head?_dropWhile hhead
  last c h := by
    rw [trimChars, List.getLast?_reverse] at h
    exact isBlank_of_head?_dropWhile h

theorem dropWhile_of_head? {cs : List Char} (h : ∀ c, cs.head? = some c → isBlank c = false) :
    cs.dropWhile isBlank = cs := by
  cases cs with
  | nil => rfl
  | cons c cs => rw [List.dropWhile_cons_of_neg (by simp [h c rfl])]

theorem trimChars_of_trimmed {cs : List Char} (h : Trimmed cs) : trimChars cs = cs := by
  have hlast : ∀ c, cs.reverse.head? = some c → isBlank c = false := by
    rw [List.head?_reverse]
    exact h.last
  rw [trimChars, dropWhile_of_head? h.first, dropWhile_of_head? hlast, List.reverse_reverse]

/-- A text is what its trimming leaves, with blanks around it. -/
theorem exists_eq_trimChars (cs : List Char) : ∃ left right, (∀ c ∈ left, isBlank c = true) ∧
    (∀ c ∈ right, isBlank c = true) ∧ cs = left ++ trimChars cs ++ right := by
  refine ⟨cs.takeWhile isBlank, (cs.dropWhile isBlank).rtakeWhile isBlank,
    fun _ => List.mem_takeWhile_imp, fun _ => List.mem_rtakeWhile_imp, ?_⟩
  have hend : trimChars cs ++ (cs.dropWhile isBlank).rtakeWhile isBlank = cs.dropWhile isBlank :=
    List.rdropWhile_append_rtakeWhile
  rw [List.append_assoc, hend, List.takeWhile_append_dropWhile]

@[simp] theorem toList_trim (s : String) : (trim s).toList = trimChars s.toList :=
  String.toList_ofList

/-- What a text comes to without the blanks around it: nothing if it is blank throughout. -/
inductive Stripped (cs : List Char) : Option String → Prop
  | nothing : (∀ c ∈ cs, isBlank c = true) → Stripped cs none
  | text {left right t} : (∀ c ∈ left, isBlank c = true) → (∀ c ∈ right, isBlank c = true) →
      cs = left ++ t.toList ++ right → t ≠ "" → Trimmed t.toList → Stripped cs (some t)

end Shopfront.Text

import LossCascade.Text.Blank
import Mathlib

/-!
# Trimmed texts

Trimming takes the blanks from both ends of a text and leaves everything else.

* `Text.trim_pad` says that blanks around a text make no difference to what is left of it.
* `Text.mem_trim_iff` says that a character that is no blank is left.
* `Text.trim_eq_empty_iff` says that nothing is left of blanks and of blanks only.
-/

namespace LossCascade.Text

/-- Whether a text consists of blanks. -/
def Blank (s : String) : Prop :=
  ∀ c ∈ s.toList, isBlank c = true

/-! ## Characters -/

theorem mem_dropBlanks_iff {cs : List Char} {c : Char} (hc : isBlank c = false) :
    c ∈ dropBlanks cs ↔ c ∈ cs := by
  unfold dropBlanks
  constructor
  · exact fun h => (List.dropWhile_sublist _).mem h
  · intro h
    rw [← List.takeWhile_append_dropWhile (p := isBlank) (l := cs), List.mem_append] at h
    rcases h with h | h
    · rw [List.mem_takeWhile_imp h] at hc
      cases hc
    · exact h

theorem mem_trimChars_iff {cs : List Char} {c : Char} (hc : isBlank c = false) :
    c ∈ trimChars cs ↔ c ∈ cs := by
  unfold trimChars
  rw [List.mem_reverse, mem_dropBlanks_iff hc, List.mem_reverse, mem_dropBlanks_iff hc]

theorem dropBlanks_append_of_blank {before : List Char} (h : ∀ c ∈ before, isBlank c = true)
    (cs : List Char) : dropBlanks (before ++ cs) = dropBlanks cs :=
  List.dropWhile_append_of_pos h

theorem dropBlanks_eq_nil_iff {cs : List Char} :
    dropBlanks cs = [] ↔ ∀ c ∈ cs, isBlank c = true :=
  List.dropWhile_eq_nil_iff

/-- Blanks at the ends make no difference. -/
theorem trimChars_pad {before after : List Char} (hbefore : ∀ c ∈ before, isBlank c = true)
    (hafter : ∀ c ∈ after, isBlank c = true) (cs : List Char) :
    trimChars (before ++ cs ++ after) = trimChars cs := by
  unfold trimChars
  rw [List.append_assoc, dropBlanks_append_of_blank hbefore]
  by_cases hcs : ∀ c ∈ cs, isBlank c = true
  · rw [dropBlanks_append_of_blank hcs, dropBlanks_eq_nil_iff.2 hafter,
      dropBlanks_eq_nil_iff.2 hcs]
  · -- The blanks behind are reached from the other end, since something is left in front of them.
    have hleft : dropBlanks (cs ++ after) = dropBlanks cs ++ after := by
      have hne := mt dropBlanks_eq_nil_iff.1 hcs
      unfold dropBlanks at hne ⊢
      rw [List.dropWhile_append, if_neg (by simpa using hne)]
    have hreverse : ∀ c ∈ after.reverse, isBlank c = true :=
      fun c hc => hafter c (List.mem_reverse.1 hc)
    rw [hleft, List.reverse_append, dropBlanks_append_of_blank hreverse]

theorem trimChars_eq_nil_iff {cs : List Char} :
    trimChars cs = [] ↔ ∀ c ∈ cs, isBlank c = true := by
  constructor
  · intro h c hc
    by_contra hblank
    rw [Bool.not_eq_true] at hblank
    rw [← mem_trimChars_iff hblank, h] at hc
    cases hc
  · intro h
    unfold trimChars
    rw [dropBlanks_eq_nil_iff.2 h]
    rfl

/-! ## Texts -/

variable {before after : String}

/-- Blanks around a text make no difference to what is left of it. -/
theorem trim_pad (hbefore : Blank before) (hafter : Blank after) (s : String) :
    trim (before ++ s ++ after) = trim s := by
  unfold trim
  rw [String.toList_append, String.toList_append, trimChars_pad hbefore hafter]

theorem mem_trim_iff {s : String} {c : Char} (hc : isBlank c = false) :
    c ∈ (trim s).toList ↔ c ∈ s.toList := by
  unfold trim
  rw [String.toList_ofList, mem_trimChars_iff hc]

theorem trim_eq_empty_iff {s : String} : trim s = "" ↔ Blank s := by
  unfold trim Blank
  rw [String.ofList_eq_empty_iff, trimChars_eq_nil_iff]

end LossCascade.Text

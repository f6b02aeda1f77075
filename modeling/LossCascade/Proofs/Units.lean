import LossCascade.Measure.Unit
import LossCascade.Proofs.Blanks

/-!
# Texts that are units

A unit is read from a text without regard to case and to blanks around it.  What remains is the name
of a unit, or the name of a material and the name of a time with one stroke between them.

* `MeasureUnit.Named` says which texts are names of which unit.
* `MeasureUnit.splitAtStroke?_eq_some_iff` says that a text is split where its first stroke is, and
  `MeasureUnit.named_rate_iff` that a text with two strokes is no rate, wherever it is split.
* `MeasureUnit.ofNormalized_ok_iff` and `MeasureUnit.ofNormalized_error_iff` say what is read.
* `MeasureUnit.read_symbol` says that a unit is read from its symbol, in capitals too.
* `MeasureUnit.read_decides` puts these together.
-/

namespace LossCascade

/-! ## Names -/

/-- The names of time and material have no stroke in them, so that none is left over when a rate is
split, and they are not names of bare numbers. -/
theorem TimeUnit.name_plain {t : TimeUnit} {name : String} (h : name ∈ t.names) :
    '/' ∉ name.toList ∧ name ≠ "" ∧ name ≠ "1" := by
  revert name
  cases t <;> decide

theorem MaterialUnit.name_plain {m : MaterialUnit} {name : String} (h : name ∈ m.names) :
    '/' ∉ name.toList ∧ name ≠ "" ∧ name ≠ "1" := by
  revert name
  cases m <;> decide

theorem MaterialUnit.not_mem_names {m : MaterialUnit} {t : TimeUnit} {name : String}
    (h : name ∈ t.names) : name ∉ m.names := by
  revert name
  cases t <;> cases m <;> decide

theorem TimeUnit.eq_of_mem_names {t t' : TimeUnit} {name : String} (h : name ∈ t.names)
    (h' : name ∈ t'.names) : t = t' := by
  revert name
  cases t <;> cases t' <;> decide

theorem MaterialUnit.eq_of_mem_names {m m' : MaterialUnit} {name : String} (h : name ∈ m.names)
    (h' : name ∈ m'.names) : m = m' := by
  revert name
  cases m <;> cases m' <;> decide

theorem TimeUnit.symbol_mem_names (t : TimeUnit) : t.symbol ∈ t.names := by
  cases t <;> decide

theorem MaterialUnit.symbol_mem_names (m : MaterialUnit) : m.symbol ∈ m.names := by
  cases m <;> decide

/-- Among units that share no name, the first with a name is the only one. -/
theorem find?_names_eq_some_iff {α : Type} {names : α → List String} {all : List α} {unit : α}
    {name : String} (hall : unit ∈ all)
    (hunique : ∀ other, name ∈ names other → name ∈ names unit → other = unit) :
    (all.find? fun unit => (names unit).contains name) = some unit ↔ name ∈ names unit := by
  constructor
  · intro h
    simpa using List.find?_some h
  · intro h
    cases hfind : all.find? fun unit => (names unit).contains name with
    | none =>
      have hnot := List.find?_eq_none.1 hfind unit hall
      simp [h] at hnot
    | some other => rw [hunique other (by simpa using List.find?_some hfind) h]

theorem TimeUnit.ofName?_eq_some_iff {t : TimeUnit} {name : String} :
    ofName? name = some t ↔ name ∈ t.names :=
  find?_names_eq_some_iff (by cases t <;> decide) fun _ => eq_of_mem_names

theorem MaterialUnit.ofName?_eq_some_iff {m : MaterialUnit} {name : String} :
    ofName? name = some m ↔ name ∈ m.names :=
  find?_names_eq_some_iff (by cases m <;> decide) fun _ => eq_of_mem_names

namespace MeasureUnit

/-- Whether a text in lower case is a name of a unit.  Around the stroke of a rate there may be
blanks. -/
def Named (name : String) : MeasureUnit → Prop
  | one => name = "" ∨ name = "1"
  | time t => name ∈ t.names
  | material m => name ∈ m.names
  | rate m t => ∃ above below, name = above ++ "/" ++ below ∧ '/' ∉ above.toList ∧
      '/' ∉ below.toList ∧ Text.trim above ∈ m.names ∧ Text.trim below ∈ t.names

/-! ## Strokes -/

theorem splitAtStroke?_append {above below : String} (h : '/' ∉ above.toList) :
    splitAtStroke? (above ++ "/" ++ below) = some (above, below) := by
  have hplain : ∀ c ∈ above.toList, (c != '/') = true := by
    intro c hc
    rw [bne_iff_ne]
    rintro rfl
    exact h hc
  have hlist : (above ++ "/" ++ below).toList = above.toList ++ '/' :: below.toList := by
    simp
  unfold splitAtStroke?
  rw [hlist, List.dropWhile_append_of_pos hplain, List.takeWhile_append_of_pos hplain,
    List.dropWhile_cons_of_neg (by decide), List.takeWhile_cons_of_neg (by decide)]
  simp

theorem splitAtStroke?_eq_none_iff {s : String} : splitAtStroke? s = none ↔ '/' ∉ s.toList := by
  unfold splitAtStroke?
  constructor
  · intro h hmem
    split at h
    · rename_i hnil
      have hall := List.dropWhile_eq_nil_iff.1 hnil '/' hmem
      cases hall
    · cases h
  · intro h
    have hnil : s.toList.dropWhile (· != '/') = [] := by
      rw [List.dropWhile_eq_nil_iff]
      intro c hc
      rw [bne_iff_ne]
      rintro rfl
      exact h hc
    rw [hnil]

/-- A text is split at its first stroke. -/
theorem splitAtStroke?_eq_some_iff {s above below : String} :
    splitAtStroke? s = some (above, below) ↔
      s = above ++ "/" ++ below ∧ '/' ∉ above.toList := by
  constructor
  · intro h
    by_cases hmem : '/' ∈ s.toList
    · obtain ⟨front, back, hlist, hfront⟩ := List.eq_append_cons_of_mem hmem
      obtain rfl : s = String.ofList front ++ "/" ++ String.ofList back := by
        apply String.toList_inj.1
        simp [hlist]
      rw [splitAtStroke?_append (by simpa using hfront)] at h
      cases h
      exact ⟨rfl, by simpa using hfront⟩
    · rw [splitAtStroke?_eq_none_iff.2 hmem] at h
      cases h
  · rintro ⟨rfl, h⟩
    exact splitAtStroke?_append h

/-- A rate is named by what stands before and behind the first stroke, since there is no other. -/
theorem named_rate_iff {m : MaterialUnit} {t : TimeUnit} {above below : String}
    (h : '/' ∉ above.toList) : Named (above ++ "/" ++ below) (.rate m t) ↔
      Text.trim above ∈ m.names ∧ Text.trim below ∈ t.names := by
  constructor
  · rintro ⟨above', below', hname, habove, -, hm, ht⟩
    have hsplit := @splitAtStroke?_append _ below h
    rw [hname, splitAtStroke?_append habove] at hsplit
    cases hsplit
    exact ⟨hm, ht⟩
  · rintro ⟨hm, ht⟩
    refine ⟨above, below, rfl, h, ?_, hm, ht⟩
    rw [← Text.mem_trim_iff (by decide)]
    exact (TimeUnit.name_plain ht).1

/-- Without a stroke a text is no rate. -/
theorem not_named_rate {name : String} (h : '/' ∉ name.toList) (m : MaterialUnit) (t : TimeUnit) :
    ¬Named name (.rate m t) := by
  rintro ⟨above, below, rfl, -⟩
  exact h (by simp)

/-- With a stroke a text is nothing but a rate. -/
theorem exists_rate_of_named {name : String} {u : MeasureUnit} (h : '/' ∈ name.toList)
    (hname : Named name u) : ∃ m t, u = .rate m t := by
  cases u with
  | one => rcases hname with rfl | rfl <;> simp at h
  | time t => exact absurd h (TimeUnit.name_plain hname).1
  | material m => exact absurd h (MaterialUnit.name_plain hname).1
  | rate m t => exact ⟨m, t, rfl⟩

/-! ## Reading -/

theorem isBare_iff {name : String} :
    (name == "1" || name == "") = true ↔ name = "" ∨ name = "1" := by
  simp [or_comm]

theorem not_bare_of_stroke {name : String} (h : '/' ∈ name.toList) :
    ¬(name = "" ∨ name = "1") := by
  rintro (rfl | rfl) <;> simp at h

variable {text name : String} {u : MeasureUnit}

theorem ofNormalized_bare_iff (h : name = "" ∨ name = "1") :
    ofNormalized text name = .ok u ↔ Named name u := by
  unfold ofNormalized
  rw [if_pos (isBare_iff.2 h), Except.ok.injEq]
  constructor
  · rintro rfl
    exact h
  · intro hname
    cases u with
    | one => rfl
    | time t => rcases h with rfl | rfl <;> simpa using TimeUnit.name_plain hname
    | material m => rcases h with rfl | rfl <;> simpa using MaterialUnit.name_plain hname
    | rate m t => exact absurd hname (not_named_rate (by rcases h with rfl | rfl <;> decide) m t)

theorem ofNormalized_stroke_iff {above below : String} (h : '/' ∉ above.toList) :
    ofNormalized text (above ++ "/" ++ below) = .ok u ↔ Named (above ++ "/" ++ below) u := by
  unfold ofNormalized
  rw [if_neg (mt isBare_iff.1 (not_bare_of_stroke (by simp))), splitAtStroke?_append h]
  constructor
  · intro hread
    dsimp only at hread
    split at hread
    · rename_i m t hm ht
      cases hread
      exact (named_rate_iff h).2
        ⟨MaterialUnit.ofName?_eq_some_iff.1 hm, TimeUnit.ofName?_eq_some_iff.1 ht⟩
    · cases hread
  · intro hname
    obtain ⟨m, t, rfl⟩ := exists_rate_of_named (by simp) hname
    obtain ⟨hm, ht⟩ := (named_rate_iff h).1 hname
    dsimp only
    rw [MaterialUnit.ofName?_eq_some_iff.2 hm, TimeUnit.ofName?_eq_some_iff.2 ht]

theorem ofNormalized_plain_iff (hbare : ¬(name = "" ∨ name = "1")) (h : '/' ∉ name.toList) :
    ofNormalized text name = .ok u ↔ Named name u := by
  unfold ofNormalized
  rw [if_neg (mt isBare_iff.1 hbare), splitAtStroke?_eq_none_iff.2 h]
  constructor
  · intro hread
    dsimp only at hread
    split at hread
    · rename_i t ht
      cases hread
      exact TimeUnit.ofName?_eq_some_iff.1 ht
    · rename_i m ht hm
      cases hread
      exact MaterialUnit.ofName?_eq_some_iff.1 hm
    · cases hread
  · intro hname
    dsimp only
    cases u with
    | one => exact absurd hname hbare
    | time t => rw [TimeUnit.ofName?_eq_some_iff.2 hname]
    | material m =>
      have ht : TimeUnit.ofName? name = none := by
        rw [Option.eq_none_iff_forall_ne_some]
        intro t ht
        exact MaterialUnit.not_mem_names (TimeUnit.ofName?_eq_some_iff.1 ht) hname
      rw [ht, MaterialUnit.ofName?_eq_some_iff.2 hname]
    | rate m t => exact absurd hname (not_named_rate h m t)

/-- A text in lower case is read as the unit that it is a name of. -/
theorem ofNormalized_ok_iff : ofNormalized text name = .ok u ↔ Named name u := by
  by_cases hbare : name = "" ∨ name = "1"
  · exact ofNormalized_bare_iff hbare
  · cases hsplit : splitAtStroke? name with
    | some parts =>
      obtain ⟨rfl, habove⟩ := splitAtStroke?_eq_some_iff.1 hsplit
      exact ofNormalized_stroke_iff habove
    | none => exact ofNormalized_plain_iff hbare (splitAtStroke?_eq_none_iff.1 hsplit)

theorem cause_of_ofNormalized {e : UnitError} (h : ofNormalized text name = .error e) :
    e = if '/' ∈ name.toList then .unknownRate text else .unknownUnit text := by
  unfold ofNormalized at h
  split at h
  · cases h
  · cases hsplit : splitAtStroke? name with
    | some parts =>
      obtain ⟨rfl, -⟩ := splitAtStroke?_eq_some_iff.1 hsplit
      rw [hsplit] at h
      dsimp only at h
      split at h <;> cases h
      simp
    | none =>
      rw [hsplit] at h
      dsimp only at h
      split at h <;> cases h
      rw [if_neg (splitAtStroke?_eq_none_iff.1 hsplit)]

/-- What is no name of a unit is refused, as a rate if it has a stroke. -/
theorem ofNormalized_error_iff {e : UnitError} :
    ofNormalized text name = .error e ↔ (∀ u, ¬Named name u) ∧
      e = if '/' ∈ name.toList then .unknownRate text else .unknownUnit text := by
  constructor
  · intro h
    refine ⟨fun u hu => ?_, cause_of_ofNormalized h⟩
    rw [ofNormalized_ok_iff.2 hu] at h
    cases h
  · rintro ⟨hnone, rfl⟩
    cases hresult : ofNormalized text name with
    | ok u => exact absurd (ofNormalized_ok_iff.1 hresult) (hnone u)
    | error e => rw [cause_of_ofNormalized hresult]

/-- No text is a name of two units. -/
theorem Named.unique {u' : MeasureUnit} (h : Named name u) (h' : Named name u') :
    u = u' := by
  have hread := (@ofNormalized_ok_iff name name u).2 h
  rw [ofNormalized_ok_iff.2 h'] at hread
  exact (Except.ok.inj hread).symm

/-! ## Symbols -/

theorem lower_trim_symbol (u : MeasureUnit) : Text.lower (Text.trim u.symbol) = u.symbol := by
  cases u with
  | one => rfl
  | time t => cases t <;> rfl
  | material m => cases m <;> rfl
  | rate m t => cases m <;> cases t <;> rfl

theorem lower_trim_upper_symbol (u : MeasureUnit) :
    Text.lower (Text.trim (Text.upper u.symbol)) = u.symbol := by
  cases u with
  | one => rfl
  | time t => cases t <;> rfl
  | material m => cases m <;> rfl
  | rate m t => cases m <;> cases t <;> rfl

theorem named_symbol (u : MeasureUnit) : Named u.symbol u := by
  cases u with
  | one => exact .inr rfl
  | time t => exact t.symbol_mem_names
  | material m => exact m.symbol_mem_names
  | rate m t =>
    have hm : Text.trim m.symbol = m.symbol := by cases m <;> rfl
    have ht : Text.trim t.symbol = t.symbol := by cases t <;> rfl
    rw [symbol, named_rate_iff (MaterialUnit.name_plain m.symbol_mem_names).1, hm, ht]
    exact ⟨m.symbol_mem_names, t.symbol_mem_names⟩

theorem read_ok_iff : read text = .ok u ↔ Named (Text.lower (Text.trim text)) u :=
  ofNormalized_ok_iff

/-- A unit is read from its symbol, in small letters or in capitals, with blanks around it. -/
theorem read_symbol (u : MeasureUnit) {before after : String} (hbefore : Text.Blank before)
    (hafter : Text.Blank after) : read (before ++ u.symbol ++ after) = .ok u ∧
      read (before ++ Text.upper u.symbol ++ after) = .ok u := by
  rw [read_ok_iff, read_ok_iff, Text.trim_pad hbefore hafter, Text.trim_pad hbefore hafter,
    lower_trim_symbol, lower_trim_upper_symbol]
  exact ⟨u.named_symbol, u.named_symbol⟩

/-! ## What is read -/

/-- A text is read as a unit exactly if, in lower case and without the blanks around it, it is a
name of the unit; any other text is refused.  No name is that of two units.  The symbol of the unit
that was read is read as this unit again, with any blanks around it and in capitals too. -/
theorem read_decides (text : String) :
    (∀ u, read text = .ok u ↔ Named (Text.lower (Text.trim text)) u) ∧
    (∀ e, read text = .error e ↔ (∀ u, ¬Named (Text.lower (Text.trim text)) u) ∧
      e = if '/' ∈ (Text.lower (Text.trim text)).toList then .unknownRate text
        else .unknownUnit text) ∧
    (∀ name u u', Named name u → Named name u' → u = u') ∧
    ∀ u, read text = .ok u → ∀ before after, Text.Blank before → Text.Blank after →
      read (before ++ u.symbol ++ after) = .ok u ∧
        read (before ++ Text.upper u.symbol ++ after) = .ok u :=
  ⟨fun _ => read_ok_iff, fun _ => ofNormalized_error_iff, fun _ _ _ h h' => h.unique h',
    fun u _ _ _ hbefore hafter => u.read_symbol hbefore hafter⟩

/-- A text with a Kelvin sign, blanks around the stroke and names that are no symbols is read as
kilograms per hour, and so is its symbol. -/
theorem read_decides_kelvin : read "\t\u212Ag / Hour " = .ok (.rate .kilogram .hour) ∧
    read "\n KG/H " = .ok (.rate .kilogram .hour) := by
  have hread : read "\t\u212Ag / Hour " = .ok (.rate .kilogram .hour) := by
    refine ((read_decides _).1 _).2 ⟨"kg ", " hour", ?_, ?_, ?_, ?_, ?_⟩
    all_goals decide +kernel
  refine ⟨hread, ?_⟩
  have hblank : Text.Blank "\n " ∧ Text.Blank " " := by
    rw [← Text.trim_eq_empty_iff, ← Text.trim_eq_empty_iff]
    decide +kernel
  have hcapitals : "\n KG/H " = "\n " ++ Text.upper (rate .kilogram .hour).symbol ++ " " := by
    decide +kernel
  rw [hcapitals]
  exact ((read_decides _).2.2.2 _ hread _ _ hblank.1 hblank.2).2

/-- Two strokes, or the parts of a rate in the wrong order, are no rate. -/
example : read "unit/min/h" = .error (.unknownRate "unit/min/h") ∧
    read "min/unit" = .error (.unknownRate "min/unit") := by
  decide +kernel

end MeasureUnit

end LossCascade

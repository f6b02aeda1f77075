import LossCascade.Plant.Config
import LossCascade.Proofs.Loops
import LossCascade.Proofs.WorkingTime

/-!
# Valid configurations

A configuration is accepted exactly if it is valid.  The error of any other is what is found first
by going through the equipment from the front.  A plant answers from tables that were filled on the
way, and its answers are those of the configuration.

* `PlantConfig.Valid` says what a configuration has to satisfy, without a word on how it is checked.
* `PlantConfig.FirstViolation` says which error comes first, by what stands before it.
* `EquipmentTables.Hold` says what the tables hold after some equipment.  `addProfile_ok` is the
  step that takes in one piece more, and `ofEquipment_ok` the loop.
* `Plant.AnswersFrom` says what a plant is to answer.
* `Plant.ofConfig_decides` puts these together.
-/

namespace LossCascade

/-! ## What is valid -/

/-- Whether a shift lasts at least a minute and at most seven days. -/
def Shift.Allowed (s : Shift) : Prop :=
  1 ≤ s.durationMinutes ∧ s.durationMinutes ≤ 10080

/-- Whether a period ends before it starts. -/
def NonWorkingPeriod.Inverted (p : NonWorkingPeriod) : Prop :=
  p.stop < p.start

/-- Whether a unit is one of material per time. -/
def MeasureUnit.IsRate (u : MeasureUnit) : Prop :=
  ∃ m t, u = .rate m t

/-- Schedules that can be used. -/
structure WorkSchedule.Valid (s : WorkSchedule) : Prop where
  shifts : ∀ shift ∈ s.shifts, shift.Allowed
  periods : ∀ period ∈ s.nonWorkingPeriods, ¬period.Inverted

/-- Pieces of equipment that can be used. -/
structure EquipmentProfile.Valid (p : EquipmentProfile) : Prop where
  schedule : ∀ schedule, p.schedule = some schedule → schedule.Valid
  designSpeeds : ∀ (material : String) (speed : Quantity Float),
    p.designSpeeds[material]? = some speed → speed.unit.IsRate

/-- Equipment that can be used together. -/
structure EquipmentProfile.AllValid (equipment : List EquipmentProfile) : Prop where
  distinct : (equipment.map (·.id)).Nodup
  profiles : ∀ p ∈ equipment, p.Valid

/-- Configurations that can be used. -/
def PlantConfig.Valid (config : PlantConfig) : Prop :=
  EquipmentProfile.AllValid config.equipment

/-! ## What comes first -/

/-- The first thing wrong with a schedule: a shift or, if these are all allowed, a period. -/
inductive WorkSchedule.FirstFault (s : WorkSchedule) : ScheduleFault → Prop
  | shift {shift : Shift} (h : FirstWith (fun shift => ¬Shift.Allowed shift) s.shifts shift) :
      FirstFault s (.shiftLength shift.name shift.durationMinutes)
  | period {period : NonWorkingPeriod} (hshifts : ∀ shift ∈ s.shifts, shift.Allowed)
      (h : FirstWith NonWorkingPeriod.Inverted s.nonWorkingPeriods period) :
      FirstFault s (.inverted period.name period.start period.stop)

/-- The first thing wrong with a piece of equipment: its schedule or, if there is nothing wrong with
that, the design speed of the least material without a rate. -/
inductive EquipmentProfile.FirstFault (p : EquipmentProfile) : ConfigError → Prop
  | schedule {schedule : WorkSchedule} {fault : ScheduleFault}
      (hschedule : p.schedule = some schedule) (h : schedule.FirstFault fault) :
      FirstFault p (.invalidSchedule p.id fault)
  | designSpeed {material : String} {speed : Quantity Float}
      (hschedule : ∀ schedule, p.schedule = some schedule → schedule.Valid)
      (hspeed : p.designSpeeds[material]? = some speed) (hunit : ¬speed.unit.IsRate)
      (hleast : ∀ (other : String) (q : Quantity Float), p.designSpeeds[other]? = some q →
        ¬q.unit.IsRate → ¬other < material) :
      FirstFault p (.invalidDesignSpeed p.id material speed.unit.symbol)

/-- The first thing wrong with a configuration: an identifier that was taken before or, if it was
not, what is first wrong with the piece of equipment.  All equipment before is valid. -/
inductive PlantConfig.FirstViolation (config : PlantConfig) : ConfigError → Prop
  | duplicate {before after : List EquipmentProfile} {p : EquipmentProfile}
      (hequipment : config.equipment = before ++ p :: after)
      (hbefore : EquipmentProfile.AllValid before) (h : p.id ∈ before.map (·.id)) :
      FirstViolation config (.duplicateEquipment p.id)
  | fault {before after : List EquipmentProfile} {p : EquipmentProfile} {e : ConfigError}
      (hequipment : config.equipment = before ++ p :: after)
      (hbefore : EquipmentProfile.AllValid before) (hnew : p.id ∉ before.map (·.id))
      (h : p.FirstFault e) : FirstViolation config e

/-! ## Schedules -/

theorem Shift.allowed_iff {shift : Shift} : shift.Allowed ↔
    ¬(shift.durationMinutes ≤ 0 ∨ Shift.maxMinutes < shift.durationMinutes) := by
  unfold Allowed Shift.maxMinutes
  omega

theorem Shift.check_eq_ok_iff {shift : Shift} : shift.check = .ok () ↔ shift.Allowed := by
  unfold check
  rw [allowed_iff]
  split <;> simp_all

theorem Shift.check_eq_error_iff {shift : Shift} {fault : ScheduleFault} :
    shift.check = .error fault ↔
      ¬shift.Allowed ∧ .shiftLength shift.name shift.durationMinutes = fault := by
  unfold check
  rw [allowed_iff, not_not]
  split <;> simp_all

theorem NonWorkingPeriod.check_eq_ok_iff {period : NonWorkingPeriod} :
    period.check = .ok () ↔ ¬period.Inverted := by
  unfold check Inverted
  split <;> simp_all

theorem NonWorkingPeriod.check_eq_error_iff {period : NonWorkingPeriod} {fault : ScheduleFault} :
    period.check = .error fault ↔
      period.Inverted ∧ .inverted period.name period.start period.stop = fault := by
  unfold check Inverted
  split <;> simp_all

namespace WorkSchedule

variable {s : WorkSchedule}

theorem check_eq_ok_iff : s.check = .ok () ↔ s.Valid := by
  unfold check
  rw [seq_eq_ok, forM_eq_ok_iff, forM_eq_ok_iff]
  simp only [Shift.check_eq_ok_iff, NonWorkingPeriod.check_eq_ok_iff]
  exact ⟨fun ⟨hshifts, hperiods⟩ => ⟨hshifts, hperiods⟩, fun h => ⟨h.shifts, h.periods⟩⟩

theorem check_eq_error_iff {fault : ScheduleFault} :
    s.check = .error fault ↔ s.FirstFault fault := by
  unfold check
  rw [seq_eq_error, forM_eq_error_iff, forM_eq_ok_iff, forM_eq_error_iff]
  simp only [ne_eq, Shift.check_eq_ok_iff, Shift.check_eq_error_iff,
    NonWorkingPeriod.check_eq_ok_iff, NonWorkingPeriod.check_eq_error_iff, not_not]
  constructor
  · intro h
    rcases h with ⟨shift, hfirst, -, rfl⟩ | ⟨hshifts, period, hfirst, -, rfl⟩
    · exact .shift hfirst
    · exact .period hshifts hfirst
  · intro h
    cases h with
    | @shift shift hfirst =>
      obtain ⟨_, _, _, _, hkind⟩ := id hfirst
      exact .inl ⟨shift, hfirst, hkind, rfl⟩
    | @period period hshifts hfirst =>
      obtain ⟨_, _, _, _, hkind⟩ := id hfirst
      exact .inr ⟨hshifts, period, hfirst, hkind, rfl⟩

end WorkSchedule

/-! ## Tables -/

section Tables

variable {κ β γ : Type} {compareKeys : κ → κ → Ordering} [Std.TransCmp compareKeys]
  [Std.LawfulEqCmp compareKeys] [DecidableEq κ]

instance : Std.LawfulEqCmp comparePairs where
  eq_of_compare h := by
    rw [comparePairs, compareLex_eq_eq] at h
    exact Prod.ext (Std.LawfulEqCmp.eq_of_compare h.1) (Std.LawfulEqCmp.eq_of_compare h.2)

/-- A table that is filled item by item answers with the last item of a key, and with what it held
before if there is none. -/
theorem getElem?_foldl_insert (key : β → κ) (value : β → γ) (items : List β)
    (table : Std.TreeMap κ γ compareKeys) (k : κ) :
    (items.foldl (fun t x => t.insert (key x) (value x)) table)[k]? =
      ((items.reverse.find? fun x => key x = k).map value).or table[k]? := by
  induction items generalizing table with
  | nil => simp
  | cons x rest ih =>
    rw [List.foldl_cons, ih, List.reverse_cons, List.find?_append, Std.TreeMap.getElem?_insert]
    simp only [Std.LawfulEqCmp.compare_eq_iff_eq]
    cases rest.reverse.find? fun x => key x = k with
    | some y => simp
    | none => by_cases h : key x = k <;> simp [h]

/-- The entries of a table have different keys, so that each is the last one of its key. -/
theorem find?_toList (table : Std.TreeMap κ γ compareKeys) (k : κ) :
    (table.toList.reverse.find? fun entry => entry.1 = k).map Prod.snd = table[k]? := by
  cases h : table.toList.reverse.find? fun entry => entry.1 = k with
  | some entry =>
    have hkey : entry.1 = k := by simpa using List.find?_some h
    have hmem := List.mem_reverse.1 (List.mem_of_find?_eq_some h)
    rw [← hkey, Option.map_some, eq_comm]
    exact Std.TreeMap.mem_toList_iff_getElem?_eq_some.1 hmem
  | none =>
    rw [Option.map_none, eq_comm, Option.eq_none_iff_forall_ne_some]
    intro value hvalue
    have hmem := Std.TreeMap.mem_toList_iff_getElem?_eq_some.2 hvalue
    simpa using List.find?_eq_none.1 h _ (List.mem_reverse.2 hmem)

end Tables

/-! ## Pieces of equipment -/

namespace EquipmentProfile

variable {p : EquipmentProfile}

theorem isRate_iff {unit : MeasureUnit} : unit.isRate = true ↔ unit.IsRate := by
  unfold MeasureUnit.IsRate
  cases unit <;> simp [MeasureUnit.isRate]

theorem rates_iff : (∀ entry ∈ p.designSpeeds.toList, entry.2.unit.IsRate) ↔
    ∀ (material : String) (speed : Quantity Float),
      p.designSpeeds[material]? = some speed → speed.unit.IsRate := by
  simp only [← Std.TreeMap.mem_toList_iff_getElem?_eq_some]
  exact ⟨fun h material speed hmem => h (material, speed) hmem, fun h entry => h entry.1 entry.2⟩

/-- The entry of a table that comes first among those of some kind is the one with the least key. -/
theorem firstWith_toList_iff {β : Type} {table : Std.TreeMap String β} {kind : String × β → Prop}
    {key : String} {value : β} :
    FirstWith kind table.toList (key, value) ↔ table[key]? = some value ∧ kind (key, value) ∧
      ∀ other v, table[other]? = some v → kind (other, v) → ¬other < key := by
  have hordered := Std.TreeMap.ordered_keys_toList (t := table)
  simp only [← Std.TreeMap.mem_toList_iff_getElem?_eq_some]
  constructor
  · intro h
    obtain ⟨before, after, hitems, hbefore, hkind⟩ := h
    rw [hitems] at hordered ⊢
    refine ⟨by simp, hkind, ?_⟩
    intro other v hmem hother hlt
    rcases List.mem_append.1 hmem with hmem | hmem
    · exact hbefore _ hmem hother
    rcases List.mem_cons.1 hmem with hsame | hmem
    · rw [(Prod.mk.inj hsame).1] at hlt
      exact lt_irrefl key hlt
    · -- What stands behind an entry has a greater key.
      have hbehind := (List.pairwise_cons.1 (List.pairwise_append.1 hordered).2.1).1 _ hmem
      exact lt_asymm hlt (compare_lt_iff_lt.1 hbehind)
  · intro h
    obtain ⟨hmem, hkind, hleast⟩ := h
    obtain ⟨before, after, hitems⟩ := List.append_of_mem hmem
    refine ⟨before, after, hitems, ?_, hkind⟩
    intro entry hentry hother
    rw [hitems] at hordered
    have hlt := (List.pairwise_append.1 hordered).2.2 entry hentry (key, value) (by simp)
    have hin : entry ∈ table.toList := by
      rw [hitems]
      exact List.mem_append_left _ hentry
    exact hleast entry.1 entry.2 hin hother (compare_lt_iff_lt.1 hlt)

end EquipmentProfile

namespace EquipmentTables

variable {tables tables' : EquipmentTables} {p : EquipmentProfile} {e : ConfigError}

/-! ### A schedule -/

theorem addSchedule_ok (h : tables.addSchedule p = .ok tables') :
    (∀ schedule, p.schedule = some schedule → schedule.Valid) ∧
      tables'.seen = tables.seen ∧ tables'.designSpeeds = tables.designSpeeds ∧
      ∀ id, tables'.schedules[id]? =
        if p.id = id then p.schedule.or tables.schedules[id]? else tables.schedules[id]? := by
  unfold addSchedule at h
  cases hschedule : p.schedule with
  | none =>
    rw [hschedule] at h
    cases h
    simp
  | some schedule =>
    rw [hschedule] at h
    obtain ⟨_, hcheck, h⟩ := bind_eq_ok.1 h
    cases h
    refine ⟨?_, rfl, rfl, fun id => ?_⟩
    · rintro _ ⟨⟩
      exact WorkSchedule.check_eq_ok_iff.1 (mapError_eq_ok.1 hcheck)
    · rw [Std.TreeMap.getElem?_insert]
      simp only [Std.LawfulEqCmp.compare_eq_iff_eq, Option.some_or]

theorem addSchedule_eq_error_iff : tables.addSchedule p = .error e ↔
    ∃ schedule fault, p.schedule = some schedule ∧ schedule.FirstFault fault ∧
      .invalidSchedule p.id fault = e := by
  unfold addSchedule
  cases hschedule : p.schedule with
  | none => simp
  | some schedule =>
    simp only [bind_eq_error, mapError_eq_error, WorkSchedule.check_eq_error_iff]
    simp [pure, Except.pure]

theorem exists_addSchedule (h : ∀ schedule, p.schedule = some schedule → schedule.Valid) :
    ∃ tables', tables.addSchedule p = .ok tables' := by
  unfold addSchedule
  cases hschedule : p.schedule with
  | none => exact ⟨_, rfl⟩
  | some schedule =>
    refine ⟨_, bind_eq_ok.2 ⟨(), mapError_eq_ok.2 ?_, rfl⟩⟩
    exact WorkSchedule.check_eq_ok_iff.2 (h schedule hschedule)

/-! ### Design speeds -/

variable {id : String} {entries : List (String × Quantity Float)}

theorem addDesignSpeed_of_isRate {entry : String × Quantity Float} (h : entry.2.unit.IsRate) :
    addDesignSpeed id tables entry = .ok
      { tables with designSpeeds := tables.designSpeeds.insert (id, entry.1) entry.2 } :=
  if_pos (EquipmentProfile.isRate_iff.2 h)

theorem addDesignSpeed_of_not_isRate {entry : String × Quantity Float}
    (h : ¬entry.2.unit.IsRate) : addDesignSpeed id tables entry =
      .error (.invalidDesignSpeed id entry.1 entry.2.unit.symbol) :=
  if_neg (mt EquipmentProfile.isRate_iff.1 h)

/-- The table of design speeds after some entries of one piece of equipment. -/
def withDesignSpeeds (tables : EquipmentTables) (id : String)
    (entries : List (String × Quantity Float)) : EquipmentTables :=
  { tables with
    designSpeeds := entries.foldl (fun table entry => table.insert (id, entry.1) entry.2)
      tables.designSpeeds }

theorem addDesignSpeeds_eq_ok_iff : entries.foldlM (addDesignSpeed id) tables = .ok tables' ↔
    (∀ entry ∈ entries, entry.2.unit.IsRate) ∧ tables.withDesignSpeeds id entries = tables' := by
  induction entries generalizing tables with
  | nil => simp [withDesignSpeeds, pure, Except.pure]
  | cons entry rest ih =>
    rw [List.foldlM_cons, bind_eq_ok, List.forall_mem_cons]
    by_cases hrate : entry.2.unit.IsRate
    · simp only [addDesignSpeed_of_isRate hrate, Except.ok.injEq, exists_eq_left', ih]
      simp [hrate, withDesignSpeeds]
    · simp [addDesignSpeed_of_not_isRate hrate, hrate]

theorem addDesignSpeeds_eq_error_iff : entries.foldlM (addDesignSpeed id) tables = .error e ↔
    ∃ entry, FirstWith (fun entry => ¬entry.2.unit.IsRate) entries entry ∧
      .invalidDesignSpeed id entry.1 entry.2.unit.symbol = e := by
  induction entries generalizing tables with
  | nil => simp [FirstWith, pure, Except.pure]
  | cons entry rest ih =>
    rw [List.foldlM_cons, bind_eq_error]
    simp only [firstWith_cons_iff]
    by_cases hrate : entry.2.unit.IsRate
    · simp [addDesignSpeed_of_isRate hrate, hrate, ih]
    · simp [addDesignSpeed_of_not_isRate hrate, hrate]

theorem getElem?_withDesignSpeeds (other material : String) :
    (tables.withDesignSpeeds id p.designSpeeds.toList).designSpeeds[(other, material)]? =
      if id = other then p.designSpeeds[material]?.or tables.designSpeeds[(other, material)]?
      else tables.designSpeeds[(other, material)]? := by
  unfold withDesignSpeeds
  simp only [getElem?_foldl_insert, Prod.mk.injEq]
  split
  · rename_i h
    rw [← find?_toList p.designSpeeds material]
    simp [h]
  · rename_i h
    have hnone : p.designSpeeds.toList.reverse.find?
        (fun entry => decide (id = other ∧ entry.1 = material)) = none := by
      simp [h]
    rw [hnone]
    rfl

/-! ### A piece of equipment -/

/-- What the tables hold after some equipment: what is known of each piece, and nothing else. -/
structure Hold (tables : EquipmentTables) (equipment : List EquipmentProfile) : Prop where
  seen : ∀ id, tables.seen.contains id = true ↔ id ∈ equipment.map (·.id)
  schedule : ∀ p ∈ equipment, tables.schedules[p.id]? = p.schedule
  designSpeed : ∀ p ∈ equipment, ∀ material : String,
    tables.designSpeeds[(p.id, material)]? = p.designSpeeds[material]?
  noSchedule : ∀ id ∉ equipment.map (·.id), tables.schedules[id]? = none
  noDesignSpeed : ∀ id ∉ equipment.map (·.id), ∀ material : String,
    tables.designSpeeds[(id, material)]? = none

/-- Whether an error is the first at a piece of equipment, after equipment with the identifiers
`seen`. -/
def FirstAt (seen : List String) (p : EquipmentProfile) (e : ConfigError) : Prop :=
  p.id ∈ seen ∧ .duplicateEquipment p.id = e ∨ p.id ∉ seen ∧ p.FirstFault e

variable {done : List EquipmentProfile}

theorem addProfile_ok (hdone : tables.Hold done) (h : tables.addProfile p = .ok tables') :
    p.id ∉ done.map (·.id) ∧ p.Valid ∧ tables'.Hold (done ++ [p]) := by
  unfold addProfile at h
  split at h
  · cases h
  · rename_i hseen
    rw [hdone.seen] at hseen
    obtain ⟨between, hschedule, hspeeds⟩ := bind_eq_ok.1 h
    obtain ⟨hvalid, hsame, hkept, hschedules⟩ := addSchedule_ok hschedule
    obtain ⟨hrates, rfl⟩ := addDesignSpeeds_eq_ok_iff.1 hspeeds
    have hother : ∀ q ∈ done, q.id ≠ p.id := by
      intro q hq hid
      exact hseen (hid ▸ List.mem_map_of_mem hq)
    have hids : ∀ id, id ∈ (done ++ [p]).map (·.id) ↔ p.id = id ∨ id ∈ done.map (·.id) := by
      intro id
      simp [or_comm, eq_comm]
    refine ⟨hseen, ⟨hvalid, EquipmentProfile.rates_iff.1 hrates⟩, ?_, ?_, ?_, ?_, ?_⟩
    · intro id
      show between.seen.contains id = true ↔ _
      rw [hsame, Std.TreeSet.contains_insert, hids, ← hdone.seen]
      simp
    · intro q hq
      show between.schedules[q.id]? = q.schedule
      rw [hschedules]
      rcases List.mem_append.1 hq with hq | hq
      · rw [if_neg (hother q hq).symm, hdone.schedule q hq]
      · rw [List.mem_singleton.1 hq, if_pos rfl, hdone.noSchedule _ hseen, Option.or_none]
    · intro q hq material
      rw [getElem?_withDesignSpeeds, hkept]
      rcases List.mem_append.1 hq with hq | hq
      · rw [if_neg (hother q hq).symm, hdone.designSpeed q hq]
      · rw [List.mem_singleton.1 hq, if_pos rfl, hdone.noDesignSpeed _ hseen, Option.or_none]
    · intro id hid
      show between.schedules[id]? = none
      rw [hids, not_or] at hid
      rw [hschedules, if_neg hid.1, hdone.noSchedule id hid.2]
    · intro id hid material
      rw [hids, not_or] at hid
      rw [getElem?_withDesignSpeeds, hkept, if_neg hid.1, hdone.noDesignSpeed id hid.2]

theorem addProfile_eq_error_iff (h : ∀ id, tables.seen.contains id = true ↔ id ∈ done.map (·.id)) :
    tables.addProfile p = .error e ↔ FirstAt (done.map (·.id)) p e := by
  unfold addProfile FirstAt
  rw [← h]
  split
  · rename_i hseen
    simp [hseen]
  · rename_i hseen
    simp only [hseen, bind_eq_error, addSchedule_eq_error_iff, addDesignSpeeds_eq_error_iff]
    simp only [Bool.false_eq_true, false_and, false_or, not_false_eq_true, true_and]
    constructor
    · rintro (⟨schedule, fault, hschedule, hfault, rfl⟩ | ⟨between, hbetween, entry, hfirst, rfl⟩)
      · exact .schedule hschedule hfault
      · obtain ⟨hspeed, hunit, hleast⟩ := EquipmentProfile.firstWith_toList_iff.1 hfirst
        exact .designSpeed (addSchedule_ok hbetween).1 hspeed hunit hleast
    · intro h
      cases h with
      | schedule hschedule hfault => exact .inl ⟨_, _, hschedule, hfault, rfl⟩
      | designSpeed hschedule hspeed hunit hleast =>
        obtain ⟨between, hbetween⟩ := exists_addSchedule hschedule
        exact .inr ⟨between, hbetween, _,
          EquipmentProfile.firstWith_toList_iff.2 ⟨hspeed, hunit, hleast⟩, rfl⟩

/-! ### All equipment -/

variable {equipment : List EquipmentProfile}

theorem ofEquipment_ok (h : ofEquipment equipment = .ok tables) :
    EquipmentProfile.AllValid equipment ∧ tables.Hold equipment := by
  refine foldlM_induction (fun done t => EquipmentProfile.AllValid done ∧ t.Hold done) ?_ ?_ h
  · rintro done p t t' ⟨hvalid, hdone⟩ hstep
    obtain ⟨hnew, hp, hnext⟩ := addProfile_ok hdone hstep
    refine ⟨⟨?_, ?_⟩, hnext⟩
    · rw [List.map_append, List.nodup_append]
      refine ⟨hvalid.distinct, by simp, ?_⟩
      rintro id hid _ hlast rfl
      rw [List.map_singleton, List.mem_singleton] at hlast
      exact hnew (hlast ▸ hid)
    · simpa [or_imp, forall_and] using ⟨hvalid.profiles, hp⟩
  · exact ⟨⟨by simp, by simp⟩, by constructor <;> simp⟩

/-- Nothing is wrong first with a piece of equipment that is valid. -/
theorem not_firstFault (h : p.Valid) : ¬p.FirstFault e := by
  intro hfault
  cases hfault with
  | schedule hschedule hfault =>
    have hcheck := WorkSchedule.check_eq_ok_iff.2 (h.schedule _ hschedule)
    rw [WorkSchedule.check_eq_error_iff.2 hfault] at hcheck
    cases hcheck
  | designSpeed _ hspeed hunit _ => exact hunit (h.designSpeeds _ _ hspeed)

/-- Whether equipment is valid can be found out by trying to fill the tables. -/
theorem allValid_of_isOk (h : (ofEquipment equipment).isOk = true) :
    EquipmentProfile.AllValid equipment := by
  cases hresult : ofEquipment equipment with
  | ok tables => exact (ofEquipment_ok hresult).1
  | error e =>
    rw [hresult] at h
    cases h

theorem exists_ofEquipment (h : EquipmentProfile.AllValid equipment) :
    ∃ tables, ofEquipment equipment = .ok tables := by
  cases hresult : ofEquipment equipment with
  | ok tables => exact ⟨tables, rfl⟩
  | error e =>
    obtain ⟨before, p, after, t, rfl, hbefore, hp⟩ := foldlM_eq_error_iff.1 hresult
    rcases (addProfile_eq_error_iff (ofEquipment_ok hbefore).2.seen).1 hp with ⟨hseen, -⟩ | ⟨-, hp⟩
    · have hdistinct := h.distinct
      rw [List.map_append, List.nodup_append] at hdistinct
      exact absurd rfl (hdistinct.2.2 p.id hseen p.id (by simp))
    · exact absurd hp (not_firstFault (h.profiles p (by simp)))

theorem ofEquipment_eq_error_iff : ofEquipment equipment = .error e ↔ ∃ before p after,
    equipment = before ++ p :: after ∧ EquipmentProfile.AllValid before ∧
      FirstAt (before.map (·.id)) p e := by
  unfold ofEquipment
  rw [foldlM_eq_error_iff]
  constructor
  · rintro ⟨before, p, after, t, hequipment, hbefore, hp⟩
    obtain ⟨hvalid, hhold⟩ := ofEquipment_ok hbefore
    exact ⟨before, p, after, hequipment, hvalid, (addProfile_eq_error_iff hhold.seen).1 hp⟩
  · rintro ⟨before, p, after, hequipment, hvalid, hfirst⟩
    obtain ⟨t, hbefore⟩ := exists_ofEquipment hvalid
    exact ⟨before, p, after, t, hequipment, hbefore,
      (addProfile_eq_error_iff (ofEquipment_ok hbefore).2.seen).2 hfirst⟩

end EquipmentTables

/-! ## Answers -/

namespace Plant

variable {plant : Plant} {config : PlantConfig} {e : ConfigError}

theorem ofConfig_ok_iff : ofConfig config = .ok plant ↔ plant.config = config := by
  unfold ofConfig
  constructor
  · intro h
    split at h
    · cases h
    · cases h
      rfl
  · rintro rfl
    obtain ⟨config, tables, reasons, hfilled, rfl⟩ := plant
    split
    · rename_i e herror
      rw [hfilled] at herror
      cases herror
    · rename_i other hother
      rw [hfilled] at hother
      cases hother
      rfl

/-- The plant of a configuration that is accepted. -/
def ofAccepted (config : PlantConfig) (h : (ofConfig config).toOption.isSome = true) : Plant :=
  (ofConfig config).toOption.get h

theorem ofConfig_error_iff : ofConfig config = .error e ↔ config.FirstViolation e := by
  have herror : ofConfig config = .error e ↔
      EquipmentTables.ofEquipment config.equipment = .error e := by
    unfold ofConfig
    split <;> simp_all
  rw [herror, EquipmentTables.ofEquipment_eq_error_iff]
  constructor
  · intro h
    obtain ⟨before, p, after, hequipment, hbefore, ⟨hseen, rfl⟩ | ⟨hnew, hfault⟩⟩ := h
    · exact .duplicate hequipment hbefore hseen
    · exact .fault hequipment hbefore hnew hfault
  · intro h
    cases h with
    | duplicate hequipment hbefore h => exact ⟨_, _, _, hequipment, hbefore, .inl ⟨h, rfl⟩⟩
    | fault hequipment hbefore hnew h => exact ⟨_, _, _, hequipment, hbefore, .inr ⟨hnew, h⟩⟩

/-- What a plant answers that was made of a configuration. -/
structure AnswersFrom (plant : Plant) (config : PlantConfig) : Prop where
  schedule : ∀ p ∈ config.equipment, plant.schedule? p.id = p.schedule
  designSpeed : ∀ p ∈ config.equipment, ∀ material,
    plant.designSpeed? p.id material = p.designSpeeds[material]?
  /-- Nothing is known of equipment that is not in the configuration. -/
  unknown : ∀ equipment, (∀ p ∈ config.equipment, p.id ≠ equipment) →
    plant.schedule? equipment = none ∧ ∀ material, plant.designSpeed? equipment material = none
  /-- A shift lasts as long as it says. -/
  shiftLength : ∀ p ∈ config.equipment, ∀ schedule, p.schedule = some schedule →
    ∀ shift ∈ schedule.shifts, shift.duration.nanoseconds = shift.durationMinutes * 60000000000
  /-- The reason of a name is the last one whose name is the same in capitals and without blanks
  around it. -/
  reason : ∀ name r, plant.reason? name = some r ↔ ∃ before after,
    config.reasons = before ++ r :: after ∧
    Text.upper (Text.trim r.name) = Text.upper (Text.trim name) ∧
    ∀ x ∈ after, Text.upper (Text.trim x.name) ≠ Text.upper (Text.trim name)
  noReason : ∀ name, plant.reason? name = none ↔
    ∀ x ∈ config.reasons, Text.upper (Text.trim x.name) ≠ Text.upper (Text.trim name)

/-- The configuration of a plant is valid, and its tables hold what the equipment says. -/
theorem valid (plant : Plant) :
    plant.config.Valid ∧ plant.tables.Hold plant.config.equipment :=
  EquipmentTables.ofEquipment_ok plant.filled

/-- The length of an allowed shift is not cut. -/
theorem duration_of_allowed {shift : Shift} (h : shift.Allowed) :
    shift.duration.nanoseconds = shift.durationMinutes * 60000000000 := by
  have hminutes : (shift.minutes : Int) = shift.durationMinutes := by
    unfold Shift.minutes Shift.maxMinutes
    unfold Shift.Allowed at h
    omega
  rw [Shift.duration_nanoseconds, hminutes]

theorem reason?_eq (plant : Plant) (name : String) : plant.reason? name =
    plant.config.reasons.reverse.find? fun r => Reason.key r.name = Reason.key name := by
  unfold reason?
  rw [plant.catalogued, Reason.table, getElem?_foldl_insert]
  simp

theorem reason?_eq_some_iff {name : String} {r : Reason} :
    plant.reason? name = some r ↔ ∃ before after, plant.config.reasons = before ++ r :: after ∧
      Reason.key r.name = Reason.key name ∧ ∀ x ∈ after, Reason.key x.name ≠ Reason.key name := by
  rw [reason?_eq, List.find?_eq_some_iff_append]
  constructor
  · intro h
    obtain ⟨hkey, after, before, hreasons, hafter⟩ := h
    refine ⟨before.reverse, after.reverse, ?_, by simpa using hkey, ?_⟩
    · rw [← List.reverse_reverse plant.config.reasons, hreasons]
      simp
    · intro x hx
      simpa using hafter x (List.mem_reverse.1 hx)
  · intro h
    obtain ⟨before, after, hreasons, hkey, hafter⟩ := h
    refine ⟨by simpa using hkey, after.reverse, before.reverse, ?_, ?_⟩
    · rw [hreasons]
      simp
    · intro x hx
      simpa using hafter x (List.mem_reverse.1 hx)

theorem reason?_eq_none_iff {name : String} : plant.reason? name = none ↔
    ∀ x ∈ plant.config.reasons, Reason.key x.name ≠ Reason.key name := by
  rw [reason?_eq]
  simp

/-- The design speeds of a plant are rates. -/
theorem isRate_of_designSpeed? {equipment material : String} {speed : Quantity Float}
    (h : plant.designSpeed? equipment material = some speed) : speed.unit.IsRate := by
  obtain ⟨hvalid, hhold⟩ := plant.valid
  by_cases hknown : equipment ∈ plant.config.equipment.map (·.id)
  · obtain ⟨p, hp, rfl⟩ := List.mem_map.1 hknown
    exact (hvalid.profiles p hp).designSpeeds material speed
      ((hhold.designSpeed p hp material).symm.trans h)
  · rw [designSpeed?, hhold.noDesignSpeed equipment hknown] at h
    cases h

/-- A plant answers from its configuration. -/
theorem answersFrom (plant : Plant) : plant.AnswersFrom plant.config where
  schedule := plant.valid.2.schedule
  designSpeed := plant.valid.2.designSpeed
  unknown := by
    intro equipment h
    have hunknown : equipment ∉ plant.config.equipment.map (·.id) := by
      simpa using h
    exact ⟨plant.valid.2.noSchedule equipment hunknown,
      plant.valid.2.noDesignSpeed equipment hunknown⟩
  shiftLength := by
    intro p hp schedule hschedule shift hshift
    exact duration_of_allowed
      (((plant.valid.1.profiles p hp).schedule schedule hschedule).shifts shift hshift)
  reason := fun _ _ => reason?_eq_some_iff
  noReason := fun _ => reason?_eq_none_iff

/-- A configuration makes a plant exactly if it is valid.  Otherwise the error is the first one, and
a plant answers from the configuration it was made of. -/
theorem ofConfig_decides (config : PlantConfig) :
    ((∃ plant, ofConfig config = .ok plant) ↔ config.Valid) ∧
      (∀ e, ofConfig config = .error e ↔ config.FirstViolation e) ∧
      ∀ plant, ofConfig config = .ok plant →
        plant.config = config ∧ plant.AnswersFrom config := by
  refine ⟨?_, fun e => ofConfig_error_iff, ?_⟩
  · simp only [ofConfig_ok_iff]
    constructor
    · rintro ⟨plant, rfl⟩
      exact plant.valid.1
    · intro h
      obtain ⟨tables, htables⟩ := EquipmentTables.exists_ofEquipment h
      exact ⟨⟨config, tables, _, htables, rfl⟩, rfl⟩
  · intro plant h
    obtain rfl := ofConfig_ok_iff.1 h
    exact ⟨rfl, plant.answersFrom⟩

/-- A jam that stops a machine. -/
def longJam : Reason :=
  { name := " jam ", loss := .unplannedDowntime }

/-- Night shifts that nothing interrupts. -/
def nightShifts : WorkSchedule :=
  { WorkSchedule.nightWork with nonWorkingPeriods := [] }

/-- A press that works nights and a lathe without a schedule, and two reasons of one name. -/
def twoMachines : PlantConfig where
  equipment :=
    [({ id := "press", schedule := some nightShifts } :
        EquipmentProfile).withDesignSpeed "bolt" ⟨1.0, .rate .piece .second⟩,
      ({ id := "lathe" } : EquipmentProfile).withDesignSpeed "bolt" ⟨2.0, .rate .dozen .hour⟩]
  reasons := [{ name := "Jam", loss := .minorStoppages }, longJam]

/-- The machines are told apart, and of the two jams the later one counts. -/
theorem ofConfig_decides_twoMachines : ∃ plant, ofConfig twoMachines = .ok plant ∧
    plant.schedule? "press" = some nightShifts ∧ plant.schedule? "lathe" = none ∧
    (plant.designSpeed? "lathe" "bolt").map Quantity.unit = some (.rate .dozen .hour) ∧
    plant.reason? "JAM" = some longJam := by
  have hvalid : twoMachines.Valid := EquipmentTables.allValid_of_isOk (by decide +kernel)
  obtain ⟨plant, hplant⟩ := (ofConfig_decides twoMachines).1.2 hvalid
  obtain ⟨-, hanswers⟩ := (ofConfig_decides twoMachines).2.2 plant hplant
  obtain ⟨press, lathe, hequipment⟩ : ∃ press lathe, twoMachines.equipment = [press, lathe] :=
    ⟨_, _, rfl⟩
  have hpress := hanswers.schedule press (by simp [hequipment])
  have hlathe := hanswers.schedule lathe (by simp [hequipment])
  have hspeed := hanswers.designSpeed lathe (by simp [hequipment]) "bolt"
  cases hequipment
  refine ⟨plant, hplant, hpress, hlathe, ?_, ?_⟩
  · rw [show plant.designSpeed? "lathe" "bolt" = _ from hspeed]
    decide +kernel
  · exact (hanswers.reason "JAM" longJam).2
      ⟨[{ name := "Jam", loss := .minorStoppages }], [], rfl, by decide +kernel, by simp⟩

end Plant

end LossCascade

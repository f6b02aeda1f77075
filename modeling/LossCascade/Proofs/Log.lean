import LossCascade.Proofs.Isolation
import LossCascade.Proofs.Records

/-!
# The store as a log

A store is reached through handles.  A copy of a handle reaches the same store, so that records
which are put in through one of them are found through the other; a new store has a handle of its
own.  However the handles are used, a store answers as the list of all insertions that were made
through any of its handles would.

* `Window.Selects` is what is selected of a log when a window is asked for, and
  `Window.overlaps_iff_shares` says that it is what has an instant in common with the window.
* `Store.Action` is what can be done through handles, and `Store.Session` the stores behind them.
  `Session.step` carries an action out.
* `Store.logFrom` is what actions put into one store.  It looks at the handles and at no store.
* `Session.store_step` says that an action puts into a store what it puts into the log, and
  `Session.store_run` is the induction over all actions.
* `Session.answersAs_log` is about the answers.
-/

namespace LossCascade

/-! ## What a window selects -/

namespace Window

variable {ρ : Type} [Spanning ρ] {w : Window}

/-- Whether a record lasts at an instant of a window. -/
def Shares (w : Window) (record : ρ) : Prop :=
  ∃ t : Timestamp, (w.start ≤ t ∧ t ≤ w.stop) ∧
    Spanning.startTime record ≤ t ∧ t ≤ Spanning.endTime record

theorem overlaps_eq_true {record : ρ} : w.overlaps record = true ↔
    Spanning.startTime record ≤ w.stop ∧ w.start ≤ Spanning.endTime record := by
  simp only [overlaps, Bool.and_eq_true, decide_eq_true_eq]

/-- If neither ends before it starts, a record overlaps a window exactly if they share an
instant. -/
theorem overlaps_iff_shares {record : ρ} (hwindow : w.start ≤ w.stop)
    (hrecord : Spanning.startTime record ≤ Spanning.endTime record) :
    w.overlaps record = true ↔ w.Shares record := by
  rw [overlaps_eq_true]
  constructor
  · rintro ⟨hstop, hstart⟩
    -- The later of the two starts lies in both.
    rcases Timestamp.le_total w.start (Spanning.startTime record) with hlater | hlater
    · exact ⟨Spanning.startTime record, ⟨hlater, hstop⟩, Timestamp.le_refl _, hrecord⟩
    · exact ⟨w.start, ⟨Timestamp.le_refl _, hwindow⟩, hlater, hstart⟩
  · rintro ⟨t, ⟨hlow, hhigh⟩, hstart, hstop⟩
    exact ⟨Timestamp.le_trans hstart hhigh, Timestamp.le_trans hlow hstop⟩

/-- The records that start no later than a window stops and end no earlier than it starts. -/
def select (w : Window) (log : List ρ) : List ρ :=
  log.filter fun r => Spanning.startTime r ≤ w.stop ∧ w.start ≤ Spanning.endTime r

/-- What is selected of a log when a window is asked for. -/
structure Selects (w : Window) (log selected : List ρ) : Prop where
  /-- The records are selected whole, as often as they are in the log and in its order. -/
  exact : selected = w.select log
  /-- Where nothing ends before it starts, these are the records that share an instant with the
  window. -/
  shared : w.start ≤ w.stop → ∀ r ∈ log, Spanning.startTime r ≤ Spanning.endTime r →
    (r ∈ selected ↔ w.Shares r)
  /-- A wider window only adds records. -/
  widened : ∀ wider : Window, wider.start ≤ w.start → w.stop ≤ wider.stop →
    selected.Sublist (wider.select log)

/-- The records that overlap a window are selected. -/
theorem selects_filter (w : Window) (log : List ρ) :
    w.Selects log (log.filter fun r => w.overlaps r) where
  exact := by
    refine List.filter_congr fun r _ => ?_
    rw [Bool.eq_iff_iff, overlaps_eq_true, decide_eq_true_eq]
  shared := by
    intro hwindow r hr hrecord
    rw [List.mem_filter, ← overlaps_iff_shares hwindow hrecord]
    exact and_iff_right hr
  widened := by
    intro wider hstart hstop
    refine List.monotone_filter_right log fun r hr => ?_
    rw [overlaps_eq_true] at hr
    rw [decide_eq_true_eq]
    exact ⟨Timestamp.le_trans hr.1 hstop, Timestamp.le_trans hstart hr.2⟩

end Window

namespace Store

/-! ## Handles -/

/-- What can be done through handles, which are numbered in the order in which they are made. -/
inductive Action where
  /-- Makes a store and a handle of it. -/
  | create
  /-- Makes another handle of the store that a handle reaches. -/
  | copy (handle : Nat)
  | insert (handle : Nat) (insertion : Insertion)
  | fetchAvailability (handle : Nat) (equipment : String) (window : Window)
  | fetchProduction (handle : Nat) (equipment : String) (window : Window)
  | count (handle : Nat) (equipment : String)

/-- What is answered to an action. -/
inductive Answer where
  | made (handle : Nat)
  | inserted
  | availability (records : List AvailabilitySummary)
  | production (records : List ProductionSummary)
  | counted (counts : Nat × Nat)
  | noHandle

/-- The stores that the handles reach after an action.  A store has the number of the handle that it
was made with. -/
def Action.reached (before : List Nat) : Action → List Nat
  | create => before ++ [before.length]
  | copy handle => before ++ before[handle]?.toList
  | _ => before

/-- Stores and the handles that reach them. -/
structure Session where
  /-- The number of the store that each handle reaches. -/
  reached : List Nat := []
  /-- The store of each number; one that was not made yet is empty. -/
  store : Nat → Store := fun _ => empty

namespace Session

/-- Does something with the store that a handle reaches. -/
def through (s : Session) (handle : Nat) (act : Store → Store × Answer) : Session × Answer :=
  match s.reached[handle]? with
  | some number =>
    let (store, answer) := act (s.store number)
    ({ s with store := Function.update s.store number store }, answer)
  | none => (s, .noHandle)

/-- Carries out an action. -/
def step (s : Session) (a : Action) : Session × Answer :=
  match a with
  | .create => ({ s with reached := a.reached s.reached }, .made s.reached.length)
  | .copy handle =>
    ({ s with reached := a.reached s.reached },
      if handle < s.reached.length then .made s.reached.length else .noHandle)
  | .insert handle insertion =>
    s.through handle fun store => (store.insert insertion, .inserted)
  | .fetchAvailability handle equipment window =>
    s.through handle fun store => (store, .availability (store.fetchAvailability equipment window))
  | .fetchProduction handle equipment window =>
    s.through handle fun store => (store, .production (store.fetchProduction equipment window))
  | .count handle equipment =>
    s.through handle fun store => (store, .counted (store.count equipment))

/-- The session after some actions. -/
def run (s : Session) (actions : List Action) : Session :=
  actions.foldl (fun s a => (s.step a).1) s

/-- The session after some actions, from the beginning. -/
def after (actions : List Action) : Session :=
  run {} actions

end Session

/-! ## Logs -/

/-- What an action puts into the log of a store. -/
def Action.logged (number : Nat) (reached : List Nat) : Action → List Insertion
  | insert handle insertion => if reached[handle]? = some number then [insertion] else []
  | _ => []

/-- What actions put into the log of a store, if the handles reach these stores at first. -/
def logFrom (number : Nat) (reached : List Nat) : List Action → List Insertion
  | [] => []
  | a :: rest => a.logged number reached ++ logFrom number (a.reached reached) rest

/-- The log of a store. -/
def log (number : Nat) (actions : List Action) : List Insertion :=
  logFrom number [] actions

namespace Session

variable {s : Session} {handle number : Nat}

theorem through_of_reached (h : s.reached[handle]? = some number)
    (act : Store → Store × Answer) : s.through handle act =
      ({ s with store := Function.update s.store number (act (s.store number)).1 },
        (act (s.store number)).2) := by
  unfold through
  rw [h]

/-- What only reads a store leaves all of them alone. -/
theorem through_read (h : s.reached[handle]? = some number) (answer : Store → Answer) :
    s.through handle (fun store => (store, answer store)) = (s, answer (s.store number)) := by
  rw [through_of_reached h]
  simp

theorem reached_through (s : Session) (handle : Nat) (act : Store → Store × Answer) :
    (s.through handle act).1.reached = s.reached := by
  unfold through
  split <;> rfl

/-- An action changes what the handles reach in its own way, whatever is in the stores. -/
theorem reached_step (s : Session) (a : Action) : (s.step a).1.reached = a.reached s.reached := by
  cases a with
  | create => rfl
  | copy handle => rfl
  | insert handle insertion => exact s.reached_through handle _
  | fetchAvailability handle equipment window => exact s.reached_through handle _
  | fetchProduction handle equipment window => exact s.reached_through handle _
  | count handle equipment => exact s.reached_through handle _

/-- What only reads a store is put into no log. -/
theorem store_through_read (s : Session) (handle number : Nat) (answer : Store → Answer) :
    (s.through handle fun store => (store, answer store)).1.store number = s.store number := by
  cases hreached : s.reached[handle]? with
  | some other => rw [through_read hreached]
  | none =>
    unfold through
    rw [hreached]

/-- An action does to every store what it does to its log. -/
theorem store_step (s : Session) (a : Action) (number : Nat) :
    (s.step a).1.store number =
      (a.logged number s.reached).foldl Store.insert (s.store number) := by
  cases a with
  | create => rfl
  | copy handle => rfl
  | insert handle insertion =>
    show (s.through handle _).1.store number =
      (if s.reached[handle]? = some number then [insertion] else []).foldl _ _
    cases hreached : s.reached[handle]? with
    | none =>
      unfold through
      simp [hreached]
    | some other =>
      rw [through_of_reached hreached]
      by_cases hsame : other = number
      · subst hsame
        simp
      · simp [hsame, Ne.symm hsame]
  | fetchAvailability handle equipment window => exact s.store_through_read handle number _
  | fetchProduction handle equipment window => exact s.store_through_read handle number _
  | count handle equipment => exact s.store_through_read handle number _

/-- After any actions every store is what the insertions of its log have made of it. -/
theorem store_run (s : Session) (actions : List Action) (number : Nat) :
    (s.run actions).store number =
      (logFrom number s.reached actions).foldl Store.insert (s.store number) := by
  induction actions generalizing s with
  | nil => rfl
  | cons a rest ih =>
    show ((s.step a).1.run rest).store number = _
    rw [ih, reached_step, store_step, logFrom, List.foldl_append]

theorem store_after (actions : List Action) (number : Nat) :
    (after actions).store number = Store.after (log number actions) :=
  store_run {} actions number

theorem run_append (s : Session) (actions more : List Action) :
    s.run (actions ++ more) = (s.run actions).run more := by
  unfold run
  rw [List.foldl_append]

/-- A copy is put into no log. -/
theorem log_concat_copy (actions : List Action) (handle number : Nat) :
    log number (actions ++ [.copy handle]) = log number actions := by
  have hfrom : ∀ reached,
      logFrom number reached (actions ++ [.copy handle]) = logFrom number reached actions := by
    induction actions with
    | nil =>
      intro reached
      rfl
    | cons a rest ih =>
      intro reached
      show a.logged number reached ++ logFrom number _ (rest ++ [.copy handle]) = _
      rw [ih]
      rfl
  exact hfrom []

/-- A copy of a handle reaches the store that the handle does. -/
theorem reached_copy {actions : List Action} (h : (after actions).reached[handle]? = some number) :
    (after (actions ++ [.copy handle])).reached[(after actions).reached.length]? =
      some number := by
  unfold after
  rw [run_append]
  show ((after actions).reached ++ (after actions).reached[handle]?.toList)[
    (after actions).reached.length]? = some number
  rw [h]
  simp

/-! ## Answers -/

/-- Whether what is asked through a handle is answered as a log of insertions says, and nothing
changes thereby. -/
structure AnswersAs (s : Session) (handle : Nat) (log : List Insertion) : Prop where
  availability : ∀ equipment window, ∃ records,
    s.step (.fetchAvailability handle equipment window) = (s, .availability records) ∧
      window.Selects (log.flatMap (Insertion.availabilityFor equipment)) records
  production : ∀ equipment window, ∃ records,
    s.step (.fetchProduction handle equipment window) = (s, .production records) ∧
      window.Selects (log.flatMap (Insertion.productionFor equipment)) records
  count : ∀ equipment, s.step (.count handle equipment) =
    (s, .counted ((log.flatMap (Insertion.availabilityFor equipment)).length,
      (log.flatMap (Insertion.productionFor equipment)).length))

theorem answersAs_of_reached {actions : List Action}
    (h : (after actions).reached[handle]? = some number) :
    (after actions).AnswersAs handle (log number actions) where
  availability := by
    intro equipment window
    refine ⟨((after actions).store number).fetchAvailability equipment window,
      through_read h fun store => .availability (store.fetchAvailability equipment window), ?_⟩
    rw [store_after, fetchAvailability, RecordTable.fetch,
      (records_after (log number actions) equipment).1]
    exact window.selects_filter _
  production := by
    intro equipment window
    refine ⟨((after actions).store number).fetchProduction equipment window,
      through_read h fun store => .production (store.fetchProduction equipment window), ?_⟩
    rw [store_after, fetchProduction, RecordTable.fetch,
      (records_after (log number actions) equipment).2]
    exact window.selects_filter _
  count := by
    intro equipment
    refine (through_read h fun store => .counted (store.count equipment)).trans ?_
    rw [store_after, Store.count, (records_after (log number actions) equipment).1,
      (records_after (log number actions) equipment).2]

/-- After any actions through any handles, a handle is answered as the log of all that was put into
its store says, through whichever handles that was.  A copy of the handle is answered alike. -/
theorem answersAs_log {actions : List Action}
    (h : (after actions).reached[handle]? = some number) :
    (after actions).AnswersAs handle (log number actions) ∧
      (after (actions ++ [.copy handle])).AnswersAs (after actions).reached.length
        (log number actions) := by
  refine ⟨answersAs_of_reached h, ?_⟩
  rw [← log_concat_copy actions handle]
  exact answersAs_of_reached (reached_copy h)

/-- Two handles of one store, and a store of its own that is none of theirs. -/
def threeHandles : List Action :=
  [.create, .insert 0 (.availability "press" [Service.secondOfMarch]), .copy 0, .create,
    .insert 2 (.availability "press" [Service.secondOfMarch]),
    .count 2 "press",
    .insert 1 (.availability "lathe" [Service.secondOfMarch]),
    .insert 1 (.availability "press" [Service.thirdOfMarch, Service.secondOfMarch])]

/-- What was put in through the second handle is found through the first, and what was put into the
other store is not. -/
theorem answersAs_log_threeHandles :
    (after threeHandles).reached[0]? = some 0 ∧
      (after threeHandles).step (.fetchAvailability 0 "press"
        ⟨Service.secondOfMarch.endTime, Service.secondOfMarch.endTime⟩) =
        (after threeHandles, .availability [Service.secondOfMarch, Service.secondOfMarch]) ∧
      (after threeHandles).step (.count 0 "press") = (after threeHandles, .counted (3, 0)) := by
  have hreached : (after threeHandles).reached[0]? = some 0 := rfl
  have hanswers := (answersAs_log hreached).1
  have hlog : (log 0 threeHandles).flatMap (Insertion.availabilityFor "press") =
      [Service.secondOfMarch, Service.thirdOfMarch, Service.secondOfMarch] := by
    decide +kernel
  obtain ⟨records, hstep, hselects⟩ := hanswers.availability "press"
    ⟨Service.secondOfMarch.endTime, Service.secondOfMarch.endTime⟩
  have hrecords : records = [Service.secondOfMarch, Service.secondOfMarch] := by
    rw [hselects.exact, hlog]
    decide +kernel
  rw [hrecords] at hstep
  refine ⟨hreached, hstep, ?_⟩
  rw [hanswers.count, hlog]
  rfl

end Session

end Store

end LossCascade

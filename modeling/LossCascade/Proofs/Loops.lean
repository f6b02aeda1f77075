import Mathlib

/-!
# Loops that end early

A loop of steps that may fail ends with the error of the first step that does.

* `bind_eq_ok` and `bind_eq_error` take a sequence of two steps apart, `seq_eq_ok` and
  `seq_eq_error` a check and what follows it.
* `forM_eq_ok_iff` and `forM_eq_error_iff` say what comes of a list of checks, and `mapM_eq_ok_iff`
  and `mapM_eq_error_iff` what comes of a traversal.
* `foldlM_eq_error_iff` finds the step of a fold that fails, and `foldlM_induction` carries an
  invariant through a fold that succeeds.
-/

namespace LossCascade

variable {ε α β : Type}

theorem bind_eq_ok {x : Except ε α} {f : α → Except ε β} {b : β} :
    (x >>= f) = .ok b ↔ ∃ a, x = .ok a ∧ f a = .ok b := by
  cases x <;> simp [bind, Except.bind]

theorem bind_eq_error {x : Except ε α} {f : α → Except ε β} {e : ε} :
    (x >>= f) = .error e ↔ x = .error e ∨ ∃ a, x = .ok a ∧ f a = .error e := by
  cases x <;> simp [bind, Except.bind]

theorem seq_eq_ok {x : Except ε Unit} {y : Except ε β} {b : β} :
    (x >>= fun _ => y) = .ok b ↔ x = .ok () ∧ y = .ok b := by
  cases x <;> simp [bind, Except.bind]

theorem seq_eq_error {x : Except ε Unit} {y : Except ε β} {e : ε} :
    (x >>= fun _ => y) = .error e ↔ x = .error e ∨ x = .ok () ∧ y = .error e := by
  cases x <;> simp [bind, Except.bind]

theorem mapError_eq_ok {δ : Type} {x : Except ε α} {f : ε → δ} {a : α} :
    x.mapError f = .ok a ↔ x = .ok a := by
  cases x <;> simp [Except.mapError]

theorem mapError_eq_error {δ : Type} {x : Except ε α} {f : ε → δ} {d : δ} :
    x.mapError f = .error d ↔ ∃ e, x = .error e ∧ f e = d := by
  cases x <;> simp [Except.mapError]

/-! ## Checks -/

/-- Whether an element is the first of a list that is of some kind. -/
def FirstWith (kind : α → Prop) (items : List α) (x : α) : Prop :=
  ∃ before after, items = before ++ x :: after ∧ (∀ b ∈ before, ¬kind b) ∧ kind x

theorem firstWith_cons_iff {kind : α → Prop} {x y : α} {rest : List α} :
    FirstWith kind (y :: rest) x ↔ kind y ∧ x = y ∨ ¬kind y ∧ FirstWith kind rest x := by
  constructor
  · intro h
    obtain ⟨before, after, hitems, hbefore, hkind⟩ := h
    cases before with
    | nil =>
      obtain ⟨rfl, rfl⟩ := List.cons.inj hitems
      exact .inl ⟨hkind, rfl⟩
    | cons b before =>
      obtain ⟨rfl, rfl⟩ := List.cons.inj hitems
      obtain ⟨hb, hbefore⟩ := List.forall_mem_cons.1 hbefore
      exact .inr ⟨hb, before, after, rfl, hbefore, hkind⟩
  · intro h
    rcases h with ⟨hkind, rfl⟩ | ⟨hy, before, after, rfl, hbefore, hkind⟩
    · exact ⟨[], rest, rfl, by simp, hkind⟩
    · exact ⟨y :: before, after, rfl, List.forall_mem_cons.2 ⟨hy, hbefore⟩, hkind⟩

section Checks

variable {check : α → Except ε Unit} {items : List α}

theorem forM_eq_ok_iff : items.forM check = .ok () ↔ ∀ x ∈ items, check x = .ok () := by
  induction items with
  | nil => simp [List.forM, pure, Except.pure]
  | cons x rest ih =>
    show (check x >>= fun _ => rest.forM check) = .ok () ↔ _
    rw [seq_eq_ok, List.forall_mem_cons, ih]

/-- The error of a list of checks is that of the first check that fails. -/
theorem forM_eq_error_iff {e : ε} : items.forM check = .error e ↔
    ∃ x, FirstWith (fun x => check x ≠ .ok ()) items x ∧ check x = .error e := by
  induction items with
  | nil => simp [FirstWith, pure, Except.pure]
  | cons y rest ih =>
    show (check y >>= fun _ => rest.forM check) = .error e ↔ _
    rw [seq_eq_error, ih]
    simp only [firstWith_cons_iff]
    constructor
    · rintro (hy | ⟨hy, x, hfirst, hx⟩)
      · exact ⟨y, .inl ⟨by simp [hy], rfl⟩, hy⟩
      · exact ⟨x, .inr ⟨by simp [hy], hfirst⟩, hx⟩
    · rintro ⟨x, ⟨-, rfl⟩ | ⟨hy, hfirst⟩, hx⟩
      · exact .inl hx
      · exact .inr ⟨not_not.1 hy, x, hfirst, hx⟩

end Checks

/-! ## Traversals -/

/-- A traversal yields the results of the items, in order. -/
theorem mapM_eq_ok_iff {f : α → Except ε β} {items : List α} {values : List β} :
    items.mapM f = .ok values ↔ List.Forall₂ (fun x y => f x = .ok y) items values := by
  induction items generalizing values with
  | nil => cases values <;> simp [pure, Except.pure]
  | cons x rest ih =>
    simp only [List.mapM_cons, bind_eq_ok]
    cases values with
    | nil => simp [pure, Except.pure]
    | cons y others =>
      rw [List.forall₂_cons, ← ih]
      constructor
      · rintro ⟨_, hx, _, hrest, hvalues⟩
        cases hvalues
        exact ⟨hx, hrest⟩
      · rintro ⟨hx, hrest⟩
        exact ⟨y, hx, others, hrest, rfl⟩

/-- A traversal fails exactly if it fails for one of the items. -/
theorem mapM_eq_error_iff {f : α → Except ε β} {items : List α} :
    (∃ e, items.mapM f = .error e) ↔ ∃ x ∈ items, ∃ e, f x = .error e := by
  induction items with
  | nil => simp [pure, Except.pure]
  | cons x rest ih =>
    rw [List.exists_mem_cons_iff, ← ih, List.mapM_cons]
    cases f x with
    | error e => simp [bind, Except.bind]
    | ok y => cases rest.mapM f <;> simp [bind, Except.bind, pure, Except.pure]

/-- What a traversal yields comes from the items. -/
theorem exists_of_mem_mapM {f : α → Except ε β} {items : List α} {values : List β}
    (h : items.mapM f = .ok values) : ∀ y ∈ values, ∃ x ∈ items, f x = .ok y := by
  intro y hy
  obtain ⟨i, hi, rfl⟩ := List.getElem_of_mem hy
  obtain ⟨hlength, hall⟩ := List.forall₂_iff_get.1 (mapM_eq_ok_iff.1 h)
  exact ⟨_, List.getElem_mem (hlength ▸ hi), hall i (hlength ▸ hi) hi⟩

/-! ## Folds -/

section Folds

variable {σ : Type} {f : σ → α → Except ε σ} {items : List α} {s s' : σ}

/-- A fold fails at an item up to which it succeeded. -/
theorem foldlM_eq_error_iff {e : ε} : items.foldlM f s = .error e ↔
    ∃ before x after s', items = before ++ x :: after ∧ before.foldlM f s = .ok s' ∧
      f s' x = .error e := by
  induction items generalizing s with
  | nil => simp [pure, Except.pure]
  | cons y rest ih =>
    rw [List.foldlM_cons, bind_eq_error]
    constructor
    · rintro (hy | ⟨t, hy, h⟩)
      · exact ⟨[], y, rest, s, rfl, rfl, hy⟩
      · obtain ⟨before, x, after, s', rfl, hbefore, hx⟩ := ih.1 h
        refine ⟨y :: before, x, after, s', rfl, ?_, hx⟩
        rw [List.foldlM_cons, hy]
        exact hbefore
    · rintro ⟨before, x, after, s', hitems, hbefore, hx⟩
      cases before with
      | nil =>
        obtain ⟨rfl, rfl⟩ := List.cons.inj hitems
        cases hbefore
        exact .inl hx
      | cons b before =>
        obtain ⟨rfl, rfl⟩ := List.cons.inj hitems
        rw [List.foldlM_cons] at hbefore
        obtain ⟨t, hy, hbefore⟩ := bind_eq_ok.1 hbefore
        exact .inr ⟨t, hy, ih.2 ⟨before, x, after, s', rfl, hbefore, hx⟩⟩

/-- What every step preserves holds after a fold, of all items that were taken in. -/
theorem foldlM_induction (Inv : List α → σ → Prop)
    (hstep : ∀ done x t t', Inv done t → f t x = .ok t' → Inv (done ++ [x]) t')
    (hstart : Inv [] s) (h : items.foldlM f s = .ok s') : Inv items s' := by
  suffices hrun : ∀ done, Inv done s → Inv (done ++ items) s' from hrun [] hstart
  clear hstart
  induction items generalizing s with
  | nil =>
    intro done hdone
    cases h
    simpa using hdone
  | cons x rest ih =>
    intro done hdone
    rw [List.foldlM_cons] at h
    obtain ⟨t, hx, hrest⟩ := bind_eq_ok.1 h
    simpa using ih hrest (done ++ [x]) (hstep done x s t hdone hx)

end Folds

end LossCascade

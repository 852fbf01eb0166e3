import Mathlib.Data.List.Forall2

/-!
# Steps that succeed

When steps one after another succeed, and with what: a step and what follows it, a check of each
item of a list, and a list of which each item is read.
-/

set_option autoImplicit false

namespace DecisionPoint

variable {ε α β : Type}

theorem bind_ok_iff (step : Except ε α) (next : α → Except ε β) (result : β) :
    (step >>= next) = .ok result ↔ ∃ value, step = .ok value ∧ next value = .ok result := by
  cases step with
  | error fault => simp [bind, Except.bind]
  | ok value => simp [bind, Except.bind]

theorem map_ok_iff (step : Except ε α) (change : α → β) (result : β) :
    step.map change = .ok result ↔ ∃ value, step = .ok value ∧ change value = result := by
  cases step with
  | error fault => simp [Except.map]
  | ok value => simp [Except.map]

theorem exists_ok_iff (check : Except ε Unit) : (∃ done, check = .ok done) ↔ check = .ok () := by
  constructor
  · rintro ⟨_, passed⟩
    exact passed
  · intro passed
    exact ⟨(), passed⟩

theorem forM_ok_iff (items : List α) (check : α → Except ε Unit) :
    items.forM check = .ok () ↔ ∀ item ∈ items, check item = .ok () := by
  induction items with
  | nil => simp [pure, Except.pure]
  | cons first rest ih =>
      change (check first >>= fun _ => rest.forM check) = .ok () ↔ _
      simp only [bind_ok_iff, exists_and_right, exists_ok_iff, List.forall_mem_cons, ih]

theorem exists_related {relation : α → β → Prop} {items : List α} {results : List β}
    (related : List.Forall₂ relation items results) {result : β} (mem : result ∈ results) :
    ∃ item ∈ items, relation item result := by
  induction related with
  | nil => cases mem
  | cons here _ ih =>
      rcases List.mem_cons.mp mem with rfl | mem
      · exact ⟨_, List.mem_cons_self, here⟩
      · obtain ⟨item, mem', also⟩ := ih mem
        exact ⟨item, List.mem_cons_of_mem _ mem', also⟩

theorem mapM_ok_iff (items : List α) (read : α → Except ε β) (results : List β) :
    items.mapM read = .ok results ↔
      List.Forall₂ (fun item result => read item = .ok result) items results := by
  induction items generalizing results with
  | nil => simp [pure, Except.pure, eq_comm]
  | cons first rest ih =>
      rw [List.mapM_cons, bind_ok_iff, List.forall₂_cons_left_iff]
      constructor
      · rintro ⟨result, taken, others⟩
        obtain ⟨results', taken', same⟩ := (bind_ok_iff _ _ _).mp others
        cases same
        exact ⟨result, results', taken, (ih results').mp taken', rfl⟩
      · rintro ⟨result, results', taken, others, rfl⟩
        exact ⟨result, taken, (bind_ok_iff _ _ _).mpr ⟨results', (ih results').mpr others, rfl⟩⟩

end DecisionPoint

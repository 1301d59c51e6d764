import Mathlib.Data.List.Forall2
import SemanticIndex.Error

/-!
# Collecting results

A step that may fail is taken for each element of a list, and the first failure ends the work.
The results of a success stand in the order of the elements, one for each of them.
-/

namespace SemanticIndex

variable {element result : Type}

theorem map_eq_ok_iff
    {change : element → result}
    {outcome : Except Error element}
    {changed : result} :
    outcome.map change = .ok changed ↔ ∃ value, outcome = .ok value ∧ changed = change value := by
  cases outcome <;> simp [Except.map, eq_comm]

theorem map_eq_error_iff
    {change : element → result}
    {outcome : Except Error element}
    {error : Error} :
    outcome.map change = .error error ↔ outcome = .error error := by
  cases outcome <;> simp [Except.map]

theorem mapM_cons_eq_ok_iff
    {step : element → Except Error result}
    {first : element}
    {rest : List element}
    {results : List result} :
    (first :: rest).mapM step = .ok results ↔
      ∃ head tail, step first = .ok head ∧ rest.mapM step = .ok tail ∧ results = head :: tail := by
  rw [List.mapM_cons]
  cases stepped : step first with
  | error error => simp [bind, Except.bind]
  | ok head =>
    cases collected : rest.mapM step with
    | error error => simp [bind, Except.bind]
    | ok tail => simp [bind, Except.bind, pure, Except.pure, eq_comm]

/-- Results are collected exactly when each of them is the result of its element. -/
theorem mapM_eq_ok_iff_forall₂
    {step : element → Except Error result}
    {elements : List element}
    {results : List result} :
    elements.mapM step = .ok results ↔
      List.Forall₂ (fun element result => step element = .ok result) elements results := by
  induction elements generalizing results with
  | nil =>
    rw [List.forall₂_nil_left_iff]
    constructor
    · intro collected
      exact (Except.ok.inj collected).symm
    · rintro rfl
      rfl
  | cons first rest induction =>
    rw [mapM_cons_eq_ok_iff, List.forall₂_cons_left_iff]
    simp only [induction]

theorem mapM_cons_eq_error_iff
    {step : element → Except Error result}
    {first : element}
    {rest : List element}
    {error : Error} :
    (first :: rest).mapM step = .error error ↔
      step first = .error error ∨
        (∃ head, step first = .ok head) ∧ rest.mapM step = .error error := by
  rw [List.mapM_cons]
  cases stepped : step first with
  | error error => simp [bind, Except.bind]
  | ok head => cases rest.mapM step <;> simp [bind, Except.bind, pure, Except.pure]

/-- Collecting fails with the error of the first element whose step fails. -/
theorem mapM_eq_error_iff
    {step : element → Except Error result}
    {elements : List element}
    {error : Error} :
    elements.mapM step = .error error ↔
      ∃ before failing after, elements = before ++ failing :: after ∧
        (∀ earlier ∈ before, ∃ found, step earlier = .ok found) ∧ step failing = .error error := by
  induction elements with
  | nil => simp [pure, Except.pure]
  | cons first rest induction =>
    rw [mapM_cons_eq_error_iff, induction]
    constructor
    · rintro (failed | ⟨⟨head, stepped⟩, before, failing, after, rfl, succeed, failed⟩)
      · exact ⟨[], first, rest, rfl, by simp, failed⟩
      · exact ⟨first :: before, failing, after, rfl,
          List.forall_mem_cons.mpr ⟨⟨head, stepped⟩, succeed⟩, failed⟩
    · rintro ⟨before, failing, after, split, succeed, failed⟩
      cases before with
      | nil =>
        obtain ⟨rfl, rfl⟩ := List.cons.inj split
        exact .inl failed
      | cons earlier others =>
        obtain ⟨rfl, rfl⟩ := List.cons.inj split
        rw [List.forall_mem_cons] at succeed
        exact .inr ⟨succeed.1, others, failing, after, rfl, succeed.2, failed⟩

/-- Steps that agree on all elements collect the same results. -/
theorem mapM_congr
    {step other : element → Except Error result}
    {elements : List element}
    (same : ∀ element ∈ elements, step element = other element) :
    elements.mapM step = elements.mapM other := by
  induction elements with
  | nil => rfl
  | cons first rest induction =>
    rw [List.forall_mem_cons] at same
    rw [List.mapM_cons, List.mapM_cons, same.1, induction same.2]

theorem length_of_mapM_eq_ok
    {step : element → Except Error result}
    {elements : List element}
    {results : List result}
    (collected : elements.mapM step = .ok results) :
    results.length = elements.length :=
  (mapM_eq_ok_iff_forall₂.mp collected).length_eq.symm

/-- The result of an element stands at the element's position. -/
theorem getElem?_of_mapM_eq_ok
    {step : element → Except Error result}
    {elements : List element}
    {results : List result}
    (collected : elements.mapM step = .ok results)
    {position : Nat}
    {value : element}
    (found : elements[position]? = some value) :
    ∃ image, results[position]? = some image ∧ step value = .ok image := by
  rcases List.forall₂_iff_get.mp (mapM_eq_ok_iff_forall₂.mp collected) with ⟨sameLength, each⟩
  rcases List.getElem?_eq_some_iff.mp found with ⟨within, rfl⟩
  exact ⟨_, List.getElem?_eq_getElem (sameLength ▸ within), each position within _⟩

end SemanticIndex

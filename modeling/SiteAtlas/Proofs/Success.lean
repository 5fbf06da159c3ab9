import Mathlib.Data.List.Forall2

/-! # Computations that succeed

A computation of several steps succeeds with a result exactly when each step succeeds and the last
one gives that result. A search stops at the first item that is found, or that cannot be looked at.
-/

namespace SiteAtlas

variable {ε β γ : Type} {first : Except ε β}

theorem bind_eq_ok_iff {next : β → Except ε γ} {result : γ} :
    first >>= next = .ok result ↔ ∃ x, first = .ok x ∧ next x = .ok result := by
  constructor
  · intro success
    cases first with
    | error e => cases success
    | ok x => exact ⟨x, rfl, success⟩
  · rintro ⟨x, rfl, success⟩
    exact success

/-- A step and what follows it succeed if the step does and what follows its result does. -/
theorem exists_bind_eq_ok_iff {next : β → Except ε γ} :
    (∃ result, first >>= next = .ok result) ↔
      ∃ x, first = .ok x ∧ ∃ result, next x = .ok result := by
  simp only [bind_eq_ok_iff]
  constructor
  · rintro ⟨result, x, success, rest⟩
    exact ⟨x, success, result, rest⟩
  · rintro ⟨x, success, result, rest⟩
    exact ⟨result, x, success, rest⟩

theorem exists_eq_ok_iff : (∃ x, first = .ok x) ↔ first.isOk = true := by
  cases first <;> simp [Except.isOk, Except.toBool]

theorem exists_pure_eq_ok {x : β} : ∃ result, (pure x : Except ε β) = .ok result := ⟨x, rfl⟩

theorem map_eq_ok_iff {next : β → γ} {result : γ} :
    first.map next = .ok result ↔ ∃ x, first = .ok x ∧ next x = result := by
  constructor
  · intro success
    cases first with
    | error e => cases success
    | ok x => exact ⟨x, rfl, Except.ok.inj success⟩
  · rintro ⟨x, rfl, rfl⟩
    rfl

theorem exists_map_eq_ok_iff {next : β → γ} :
    (∃ result, first.map next = .ok result) ↔ ∃ x, first = .ok x := by
  simp only [map_eq_ok_iff]
  constructor
  · rintro ⟨_, x, success, _⟩
    exact ⟨x, success⟩
  · rintro ⟨x, success⟩
    exact ⟨next x, x, success, rfl⟩

theorem mapError_eq_ok_iff {δ : Type} {rename : ε → δ} {result : β} :
    first.mapError rename = .ok result ↔ first = .ok result := by
  cases first <;> simp [Except.mapError]

/-- A step for every item of a list succeeds if each does, with the results in the same order. -/
theorem mapM_eq_ok_iff {step : β → Except ε γ} {items : List β} {results : List γ} :
    items.mapM step = .ok results ↔
      List.Forall₂ (fun item result => step item = .ok result) items results := by
  induction items generalizing results with
  | nil => cases results <;> simp [pure, Except.pure]
  | cons item rest ih =>
    simp only [List.mapM_cons, bind_eq_ok_iff, ih]
    constructor
    · rintro ⟨result, success, others, successes, made⟩
      cases made
      exact .cons success successes
    · intro successes
      cases successes with
      | cons success others => exact ⟨_, success, _, others, rfl⟩

/-- Some results come out for all items of a list if one does for each. -/
theorem exists_mapM_eq_ok_iff {step : β → Except ε γ} {items : List β} :
    (∃ results, items.mapM step = .ok results) ↔
      ∀ item ∈ items, ∃ result, step item = .ok result := by
  induction items with
  | nil => exact iff_of_true exists_pure_eq_ok nofun
  | cons item rest ih =>
    simp only [List.mapM_cons, exists_bind_eq_ok_iff, exists_pure_eq_ok, and_true, exists_and_right,
      ih, List.forall_mem_cons]

/-- Steps that do the same with every item do the same with the list. -/
theorem mapM_congr {step step' : β → Except ε γ} {items : List β}
    (same : ∀ item ∈ items, step item = step' item) : items.mapM step = items.mapM step' := by
  induction items with
  | nil => rfl
  | cons item rest ih =>
    obtain ⟨first, others⟩ := List.forall_mem_cons.mp same
    rw [List.mapM_cons, List.mapM_cons, first, ih others]

section Results

variable {step : β → Except ε γ} {items : List β} {results : List γ}
  (success : items.mapM step = .ok results)
include success

theorem exists_mem_items : ∀ result ∈ results, ∃ item ∈ items, step item = .ok result := by
  have steps := mapM_eq_ok_iff.mp success
  clear success
  induction steps with
  | nil => exact nofun
  | cons first _ ih =>
    refine List.forall_mem_cons.mpr ⟨⟨_, List.mem_cons_self, first⟩, fun result member => ?_⟩
    obtain ⟨item, given, made⟩ := ih result member
    exact ⟨item, List.mem_cons_of_mem _ given, made⟩

theorem exists_mem_results : ∀ item ∈ items, ∃ result ∈ results, step item = .ok result := by
  have steps := mapM_eq_ok_iff.mp success
  clear success
  induction steps with
  | nil => exact nofun
  | cons first _ ih =>
    refine List.forall_mem_cons.mpr ⟨⟨_, List.mem_cons_self, first⟩, fun item member => ?_⟩
    obtain ⟨result, given, made⟩ := ih item member
    exact ⟨result, List.mem_cons_of_mem _ given, made⟩

/-- What a step keeps of each item, the list keeps in order. -/
theorem map_results_eq {δ : Type} {ofItem : β → δ} {ofResult : γ → δ}
    (keeps : ∀ item result, step item = .ok result → ofResult result = ofItem item) :
    results.map ofResult = items.map ofItem := by
  have steps := mapM_eq_ok_iff.mp success
  clear success
  induction steps with
  | nil => rfl
  | cons first _ ih =>
    rw [List.map_cons, List.map_cons, keeps _ _ first, ih]

end Results

/-! ## Searches -/

/-- A search comes to an item if all items before it are looked at and are not what is meant. -/
inductive Reaches (test : β → Except ε Bool) : List β → β → Prop
  | first (item : β) (rest : List β) : Reaches test (item :: rest) item
  | next {item other : β} {rest : List β} :
    test item = .ok false → Reaches test rest other → Reaches test (item :: rest) other

section Search

variable {test : β → Except ε Bool} {items : List β} {found : β}

theorem Reaches.mem (reaches : Reaches test items found) : found ∈ items := by
  induction reaches with
  | first item rest => exact List.mem_cons_self
  | next _ _ ih => exact List.mem_cons_of_mem _ ih

theorem reaches_cons_iff {item : β} : Reaches test (item :: items) found ↔
    found = item ∨ test item = .ok false ∧ Reaches test items found := by
  constructor
  · intro reaches
    cases reaches with
    | first => exact .inl rfl
    | next other rest => exact .inr ⟨other, rest⟩
  · rintro (rfl | ⟨other, rest⟩)
    · exact .first _ _
    · exact .next other rest

/-- What is found is the first item of its kind. -/
theorem findM?_eq_some_iff : items.findM? test = .ok (some found) ↔
    Reaches test items found ∧ test found = .ok true := by
  induction items with
  | nil => exact iff_of_false nofun fun both => absurd both.1.mem List.not_mem_nil
  | cons item rest ih =>
    rw [List.findM?, reaches_cons_iff]
    rcases answer : test item with error | _ | _
    · simp only [bind, Except.bind, reduceCtorEq, false_and, or_false, false_iff, not_and]
      rintro rfl
      simp [answer]
    · simp only [bind, Except.bind, ih, true_and]
      constructor
      · rintro ⟨reaches, isFound⟩
        exact ⟨.inr reaches, isFound⟩
      · rintro ⟨rfl | reaches, isFound⟩
        · simp [answer] at isFound
        · exact ⟨reaches, isFound⟩
    · simp only [bind, Except.bind, pure, Except.pure, Except.ok.injEq, Option.some.injEq,
        Bool.true_eq_false, false_and, or_false]
      constructor
      · rintro rfl
        exact ⟨rfl, answer⟩
      · rintro ⟨rfl, -⟩
        rfl

/-- Nothing is found if all items are looked at and none is what is meant. -/
theorem findM?_eq_none_iff :
    items.findM? test = .ok none ↔ ∀ item ∈ items, test item = .ok false := by
  induction items with
  | nil => exact iff_of_true rfl nofun
  | cons item rest ih =>
    rw [List.findM?, List.forall_mem_cons]
    rcases answer : test item with error | _ | _
    · simp [bind, Except.bind]
    · simp [bind, Except.bind, ih]
    · simp [bind, Except.bind, pure, Except.pure]

/-- A search is refused at the first item that it comes to and that cannot be looked at. -/
theorem findM?_eq_error_iff {error : ε} : items.findM? test = .error error ↔
    ∃ item, Reaches test items item ∧ test item = .error error := by
  induction items with
  | nil => exact iff_of_false nofun fun ⟨_, reaches, _⟩ => absurd reaches.mem List.not_mem_nil
  | cons item rest ih =>
    simp only [List.findM?, reaches_cons_iff, or_and_right, exists_or, exists_eq_left]
    rcases answer : test item with error | _ | _
    · simp [bind, Except.bind]
    · simp [bind, Except.bind, ih]
    · simp [bind, Except.bind, pure, Except.pure]

/-- Items behind others are looked at if nothing is found among the others. -/
theorem findM?_append (before after : List β) : (before ++ after).findM? test =
    before.findM? test >>= fun found? =>
      match found? with
      | some found => .ok (some found)
      | none => after.findM? test := by
  induction before with
  | nil => rfl
  | cons item rest ih =>
    rw [List.cons_append, List.findM?, List.findM?]
    rcases test item with error | _ | _
    · rfl
    · exact ih
    · rfl

end Search

end SiteAtlas

import Mathlib.Data.List.Forall2
set_option autoImplicit false

/-! Results of steps that can fail: when a result that was mapped,
continued or chosen is one without an error. -/

namespace TaskGraph

theorem map_eq_ok_iff {ε α β : Type} {f : α → β} {result : Except ε α} {b : β} :
    result.map f = .ok b ↔ ∃ a, result = .ok a ∧ f a = b := by
  constructor
  · intro mapped
    cases result with
    | error cause => cases mapped
    | ok a =>
        cases mapped
        exact ⟨a, rfl, rfl⟩
  · rintro ⟨a, rfl, rfl⟩
    rfl

theorem bind_eq_ok_iff {ε α β : Type} {next : α → Except ε β} {result : Except ε α} {b : β} :
    result.bind next = .ok b ↔ ∃ a, result = .ok a ∧ next a = .ok b := by
  constructor
  · intro bound
    cases result with
    | error cause => cases bound
    | ok a => exact ⟨a, rfl, bound⟩
  · rintro ⟨a, rfl, same⟩
    exact same

theorem not_exists_error_eq_ok {ε α : Type} {cause : ε} : ¬∃ a : α, Except.error cause = .ok a := by
  rintro ⟨_, ⟨⟩⟩

theorem exists_map_eq_ok_iff {ε α β : Type} {f : α → β} {result : Except ε α} :
    (∃ b, result.map f = .ok b) ↔ ∃ a, result = .ok a := by
  cases result with
  | error cause => exact iff_of_false not_exists_error_eq_ok not_exists_error_eq_ok
  | ok a => exact iff_of_true ⟨f a, rfl⟩ ⟨a, rfl⟩

theorem exists_ite_eq_ok_iff {ε α : Type} {condition : Prop} [Decidable condition]
    {a : α} {cause : ε} :
    (∃ b, (if condition then Except.ok a else .error cause) = .ok b) ↔ condition := by
  by_cases holds : condition
  · rw [if_pos holds]
    exact iff_of_true ⟨a, rfl⟩ holds
  · rw [if_neg holds]
    exact iff_of_false not_exists_error_eq_ok holds

/-! ### Rows -/

theorem mapM_cons_eq_ok_iff {ε α β : Type} {f : α → Except ε β} {item : α} {rest : List α}
    {results : List β} :
    (item :: rest).mapM f = .ok results ↔
      ∃ first, f item = .ok first ∧ ∃ others, rest.mapM f = .ok others ∧
        first :: others = results := by
  have step : (item :: rest).mapM f = (f item).bind fun first =>
    (rest.mapM f).map (first :: ·) := by
    rw [List.mapM_cons]
    cases f item with
    | error cause => rfl
    | ok first => cases rest.mapM f <;> rfl
  simp only [step, bind_eq_ok_iff, map_eq_ok_iff]

/-- A function that takes one step after the other takes a row as a whole. -/
theorem eq_mapM {ε α β : Type} {f : α → Except ε β} {g : List α → Except ε (List β)}
    (done : g [] = .ok [])
    (step : ∀ item rest, g (item :: rest) = (f item).bind fun first => (g rest).map (first :: ·))
    (items : List α) : g items = items.mapM f := by
  induction items with
  | nil => exact done
  | cons item rest ih =>
      rw [step, ih, List.mapM_cons]
      cases f item with
      | error cause => rfl
      | ok first => cases rest.mapM f <;> rfl

/-- A row has results exactly if every item of it has one. -/
theorem exists_mapM_iff {ε α β : Type} {f : α → Except ε β} {items : List α} :
    (∃ results, items.mapM f = .ok results) ↔ ∀ item ∈ items, ∃ result, f item = .ok result := by
  induction items with
  | nil => exact iff_of_true ⟨[], rfl⟩ (List.forall_mem_nil _)
  | cons item rest ih =>
      simp only [mapM_cons_eq_ok_iff]
      rw [List.forall_mem_cons, ← ih]
      constructor
      · rintro ⟨_, first, here, others, later, _⟩
        exact ⟨⟨first, here⟩, others, later⟩
      · rintro ⟨⟨first, here⟩, others, later⟩
        exact ⟨_, first, here, others, later, rfl⟩

theorem mapM_eq_ok_iff_forall₂ {ε α β : Type} {f : α → Except ε β} {items : List α}
    {results : List β} :
    items.mapM f = .ok results ↔
      List.Forall₂ (fun item result => f item = .ok result) items results := by
  induction items generalizing results with
  | nil =>
      rw [List.forall₂_nil_left_iff]
      exact ⟨fun same => (Except.ok.inj same).symm, fun same => same ▸ rfl⟩
  | cons item rest ih =>
      rw [mapM_cons_eq_ok_iff, List.forall₂_cons_left_iff]
      constructor
      · rintro ⟨first, here, others, later, rfl⟩
        exact ⟨first, others, here, ih.mp later, rfl⟩
      · rintro ⟨first, others, here, later, rfl⟩
        exact ⟨first, here, others, ih.mpr later, rfl⟩

theorem mapM_ok (ε : Type) {α : Type} (items : List α) :
    items.mapM (.ok : α → Except ε α) = .ok items :=
  mapM_eq_ok_iff_forall₂.mpr (List.forall₂_same.mpr fun _ _ => rfl)

/-- Two rows that are related item by item have the same properties if related items have. -/
theorem forall_mem_iff_of_forall₂ {α β : Type} {related : α → β → Prop} {first : α → Prop}
    {second : β → Prop} {items : List α} {results : List β}
    (rows : List.Forall₂ related items results)
    (each : ∀ item ∈ items, ∀ result, related item result → (second result ↔ first item)) :
    (∀ result ∈ results, second result) ↔ ∀ item ∈ items, first item := by
  induction rows with
  | nil => exact iff_of_true (List.forall_mem_nil _) (List.forall_mem_nil _)
  | cons here _ ih =>
      obtain ⟨both, later⟩ := List.forall_mem_cons.mp each
      rw [List.forall_mem_cons, List.forall_mem_cons, both _ here, ih later]

/-- If what one step makes can be changed into what another one makes, item by item, so can their
rows. -/
theorem map_eq_of_mapM {ε ε' α β γ : Type} {f : α → Except ε β} {g : α → Except ε' γ}
    {change : β → γ} {items : List α} {results : List β} {others : List γ}
    (made : items.mapM f = .ok results) (made' : items.mapM g = .ok others)
    (each : ∀ item ∈ items, ∀ result other, f item = .ok result → g item = .ok other →
      change result = other) :
    results.map change = others := by
  induction items generalizing results others with
  | nil =>
      cases made
      cases made'
      rfl
  | cons item rest ih =>
      obtain ⟨here, later⟩ := List.forall_mem_cons.mp each
      obtain ⟨first, isFirst, more, areMore, rfl⟩ := mapM_cons_eq_ok_iff.mp made
      obtain ⟨second, isSecond, more', areMore', rfl⟩ := mapM_cons_eq_ok_iff.mp made'
      rw [List.map_cons, here first second isFirst isSecond, ih areMore areMore' later]

theorem exists_of_mem_mapM {ε α β : Type} {f : α → Except ε β} {items : List α} {results : List β}
    (made : items.mapM f = .ok results) {result : β} (member : result ∈ results) :
    ∃ item ∈ items, f item = .ok result := by
  rw [mapM_eq_ok_iff_forall₂] at made
  induction made with
  | nil => cases member
  | cons here _ ih =>
      obtain rfl | later := List.mem_cons.mp member
      · exact ⟨_, List.mem_cons_self, here⟩
      · obtain ⟨item, inside, same⟩ := ih later
        exact ⟨item, List.mem_cons_of_mem _ inside, same⟩

def onBoth {ε α β γ δ : Type} (f : α → Except ε γ) (g : β → Except ε δ) (pair : α × β) :
    Except ε (γ × δ) :=
  (f pair.1).bind fun first => (g pair.2).map (first, ·)

section
variable {ε α β γ δ : Type} {f : α → Except ε γ} {g : β → Except ε δ}

theorem onBoth_eq_ok_iff {pair : α × β} {results : γ × δ} :
    onBoth f g pair = .ok results ↔ f pair.1 = .ok results.1 ∧ g pair.2 = .ok results.2 := by
  simp only [onBoth, bind_eq_ok_iff, map_eq_ok_iff]
  constructor
  · rintro ⟨first, here, second, there, rfl⟩
    exact ⟨here, there⟩
  · rintro ⟨here, there⟩
    exact ⟨results.1, here, results.2, there, rfl⟩

theorem exists_mapM_onBoth_iff {pairs : List (α × β)} :
    (∃ results, pairs.mapM (onBoth f g) = .ok results) ↔
      (∀ pair ∈ pairs, ∃ name, f pair.1 = .ok name) ∧ ∀ pair ∈ pairs, ∃ first,
        g pair.2 = .ok first := by
  simp only [exists_mapM_iff, onBoth_eq_ok_iff, Prod.exists, exists_and_left, exists_and_right,
    ← forall₂_and]

end

end TaskGraph

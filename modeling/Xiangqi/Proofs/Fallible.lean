/-!
# Steps that can fail

A chain of steps gives a value exactly when each step does. Where a test or a step gives an answer
for every item of a list, the loops over the list give what the plain list functions give. Where some
item fails, and all that fail do so with one fault, the loops fail with that fault.
-/

namespace Xiangqi.Fallible

variable {ε α β : Type}

/-- Two steps in a row give a value exactly when both do. -/
theorem bind_eq_ok_iff {first : Except ε α} {next : α → Except ε β} {result : β} :
    (first >>= next) = .ok result ↔ ∃ value, first = .ok value ∧ next value = .ok result := by
  cases first with
  | error fault => simp [bind, Except.bind]
  | ok value => simp [bind, Except.bind]

/-- A step at whose value one can look has a value. -/
theorem exists_ok_of_map_eq_some {step : Except ε α} {look : α → β} {seen : β}
    (looked : step.toOption.map look = some seen) :
    ∃ value, step = .ok value ∧ look value = seen := by
  cases step with
  | error fault => cases looked
  | ok value => exact ⟨value, rfl, Option.some.inj looked⟩

theorem eq_ok_of_toOption_eq_some {step : Except ε α} {value : α}
    (looked : step.toOption = some value) : step = .ok value := by
  cases step with
  | error fault => cases looked
  | ok found => exact congrArg Except.ok (Option.some.inj looked)

/-- The accumulating loop behind `List.filterM`, with what it has kept so far in reverse. -/
private theorem filterAuxM_eq_ok {test : α → Except ε Bool} {answer : α → Bool} {items : List α}
    (answered : ∀ item ∈ items, test item = .ok (answer item)) (kept : List α) :
    items.filterAuxM test kept = .ok ((items.filter answer).reverse ++ kept) := by
  induction items generalizing kept with
  | nil => rfl
  | cons item rest ih =>
    have first := answered item List.mem_cons_self
    have others := ih fun other member => answered other (List.mem_cons_of_mem item member)
    simp only [List.filterAuxM, first, bind, Except.bind, others]
    cases keeps : answer item with
    | true => simp [keeps]
    | false => simp [keeps]

theorem filterM_eq_ok {test : α → Except ε Bool} {answer : α → Bool} {items : List α}
    (answered : ∀ item ∈ items, test item = .ok (answer item)) :
    items.filterM test = .ok (items.filter answer) := by
  simp only [List.filterM, filterAuxM_eq_ok answered, bind, Except.bind, pure, Except.pure,
    List.append_nil, List.reverse_reverse]

theorem anyM_eq_ok {test : α → Except ε Bool} {answer : α → Bool} {items : List α}
    (answered : ∀ item ∈ items, test item = .ok (answer item)) :
    items.anyM test = .ok (items.any answer) := by
  induction items with
  | nil => rfl
  | cons item rest ih =>
    have first := answered item List.mem_cons_self
    have others := ih fun other member => answered other (List.mem_cons_of_mem item member)
    simp only [List.anyM, first, bind, Except.bind, others, List.any_cons]
    cases answer item with
    | true => rfl
    | false => rfl

/-- Where every step has a value, in any kind of steps, the loop collects the values. -/
theorem mapM_eq_pure {m : Type → Type} [Monad m] [LawfulMonad m] {step : α → m β} {value : α → β}
    {items : List α} (answered : ∀ item ∈ items, step item = pure (value item)) :
    items.mapM step = pure (items.map value) := by
  induction items with
  | nil => rfl
  | cons item rest ih =>
    have first := answered item List.mem_cons_self
    have others := ih fun other member => answered other (List.mem_cons_of_mem item member)
    rw [List.mapM_cons, first, others, pure_bind, pure_bind, List.map_cons]

theorem mapM_eq_ok {step : α → Except ε β} {value : α → β} {items : List α}
    (answered : ∀ item ∈ items, step item = .ok (value item)) :
    items.mapM step = .ok (items.map value) :=
  mapM_eq_pure answered

section Faults

variable {fault : ε} {items : List α}

/-- Some item fails with the fault, and none fails in another way. -/
def Faulty (step : α → Except ε β) (fault : ε) (items : List α) : Prop :=
  (∃ item ∈ items, step item = .error fault) ∧
    ∀ item ∈ items, ∀ other, step item = .error other → other = fault

theorem faulty_cons {step : α → Except ε β} {item : α} {value : β}
    (passed : step item = .ok value) (faulty : Faulty step fault (item :: items)) :
    Faulty step fault items := by
  obtain ⟨⟨failing, member, failed⟩, only⟩ := faulty
  constructor
  · cases member with
    | head => simp [passed] at failed
    | tail _ member => exact ⟨failing, member, failed⟩
  · intro other member
    exact only other (List.mem_cons_of_mem item member)

theorem mapM_eq_error {step : α → Except ε β} (faulty : Faulty step fault items) :
    items.mapM step = .error fault := by
  induction items with
  | nil =>
    obtain ⟨⟨item, member, -⟩, -⟩ := faulty
    cases member
  | cons item rest ih =>
    rw [List.mapM_cons]
    cases first : step item with
    | error other =>
      have same := faulty.2 item List.mem_cons_self other first
      subst same
      rfl
    | ok value =>
      rw [ih (faulty_cons first faulty)]
      rfl

private theorem filterAuxM_eq_error {test : α → Except ε Bool} (faulty : Faulty test fault items)
    (kept : List α) : items.filterAuxM test kept = .error fault := by
  induction items generalizing kept with
  | nil =>
    obtain ⟨⟨item, member, -⟩, -⟩ := faulty
    cases member
  | cons item rest ih =>
    rw [List.filterAuxM]
    cases first : test item with
    | error other =>
      have same := faulty.2 item List.mem_cons_self other first
      subst same
      rfl
    | ok keeps =>
      have others := ih (faulty_cons first faulty)
      simp only [bind, Except.bind, others]

theorem filterM_eq_error {test : α → Except ε Bool} (faulty : Faulty test fault items) :
    items.filterM test = .error fault := by
  simp only [List.filterM, filterAuxM_eq_error faulty, bind, Except.bind]

/-- A search that stops at the first hit meets the fault if there is no hit. -/
theorem anyM_eq_error {test : α → Except ε Bool} (faulty : Faulty test fault items)
    (noHit : ∀ item ∈ items, test item ≠ .ok true) : items.anyM test = .error fault := by
  induction items with
  | nil =>
    obtain ⟨⟨item, member, -⟩, -⟩ := faulty
    cases member
  | cons item rest ih =>
    rw [List.anyM]
    cases first : test item with
    | error other =>
      have same := faulty.2 item List.mem_cons_self other first
      subst same
      rfl
    | ok hit =>
      cases hit with
      | true => exact absurd first (noHit item List.mem_cons_self)
      | false =>
        apply ih (faulty_cons first faulty)
        intro other member
        exact noHit other (List.mem_cons_of_mem item member)

end Faults

end Xiangqi.Fallible

import Mathlib

/-! When attempts that may fail succeed, one alone and one after another. -/

namespace LoadServer

variable {ε δ α β : Type} {attempt : Except ε α}

instance decidableSucceeds (attempt : Except ε α) : Decidable (∃ value, attempt = .ok value) :=
  match attempt with
  | .ok value => isTrue ⟨value, rfl⟩
  | .error _ => isFalse fun ⟨_, succeeded⟩ => by cases succeeded

instance decidableSucceedsWith (attempt : Except ε α) (p : α → Prop) [DecidablePred p] :
    Decidable (∃ value, attempt = .ok value ∧ p value) :=
  match attempt with
  | .ok value => decidable_of_iff (p value) (by simp)
  | .error _ => isFalse fun ⟨_, succeeded, _⟩ => by cases succeeded

/-- An attempt with its result changed succeeds as the attempt does. -/
@[simp] theorem map_eq_ok_iff {change : α → β} {result : β} :
    attempt.map change = .ok result ↔ ∃ found, attempt = .ok found ∧ change found = result := by
  cases attempt <;> simp [Except.map]

/-- The same holds where the change is written as that of a functor. -/
@[simp] theorem functorMap_eq_ok_iff {change : α → β} {result : β} :
    change <$> attempt = .ok result ↔ ∃ found, attempt = .ok found ∧ change found = result :=
  -- The arrow of the functor is the map by definition.
  map_eq_ok_iff

/-- An attempt with its failure changed succeeds as the attempt does. -/
@[simp] theorem mapError_eq_ok_iff {change : ε → δ} {result : α} :
    attempt.mapError change = .ok result ↔ attempt = .ok result := by
  cases attempt <;> simp [Except.mapError]

/-- Such an attempt fails as the attempt does, with its failure changed. -/
theorem mapError_eq_error_iff {change : ε → δ} {fault : δ} :
    attempt.mapError change = .error fault ↔
      ∃ found, attempt = .error found ∧ change found = fault := by
  cases attempt <;> simp [Except.mapError]

/-- An attempt that goes on with the result of another one succeeds if both do. -/
@[simp] theorem bind_eq_ok_iff {next : α → Except ε β} {result : β} :
    attempt >>= next = .ok result ↔ ∃ found, attempt = .ok found ∧ next found = .ok result := by
  -- A failure of the first half is the failure of the whole.
  cases attempt <;> simp [bind, Except.bind]

/-- An attempt whose result is changed afterwards has a result before. -/
theorem exists_of_map {change : α → β} (succeeds : ∃ result, attempt.map change = .ok result) :
    ∃ found, attempt = .ok found := by
  -- A change of the result never turns a failure into a success.
  obtain ⟨result, changed⟩ := succeeds
  obtain ⟨found, succeeded, -⟩ := map_eq_ok_iff.mp changed
  exact ⟨found, succeeded⟩

/-! ## One step after another -/

variable {σ : Type} {take : σ → α → Except ε σ} {items : List α}

/-- Steps of which none can fail succeed one after another. -/
theorem exists_foldlM_eq_ok
    (each : ∀ item ∈ items, ∀ part, ∃ next, take part item = .ok next) (part : σ) :
    ∃ last, items.foldlM take part = .ok last := by
  -- Whatever a step leaves behind, the next one succeeds on it.
  induction items generalizing part with
  | nil => exact ⟨part, rfl⟩
  | cons item items ih =>
    obtain ⟨next, first⟩ := each item (by simp) part
    obtain ⟨last, rest⟩ := ih (fun other member => each other (by simp [member])) next
    exact ⟨last, bind_eq_ok_iff.mpr ⟨next, first, rest⟩⟩

/-- Each item that is taken on the way is taken at some point. -/
theorem exists_of_foldlM_eq_ok {part last : σ} (taken : items.foldlM take part = .ok last)
    {item : α} (member : item ∈ items) : ∃ before after, take before item = .ok after := by
  -- The item is the first one or is taken after the first one.
  induction items generalizing part with
  | nil => cases member
  | cons first items ih =>
    obtain ⟨next, took, rest⟩ := bind_eq_ok_iff.mp taken
    rcases List.mem_cons.mp member with rfl | later
    · exact ⟨part, next, took⟩
    · exact ih rest later

end LoadServer

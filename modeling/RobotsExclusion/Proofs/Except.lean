/-!
# Results of steps in sequence

Taking apart a computation that ends at its first error.

## Main results

* `ok_bind`, `bind_eq_ok_iff`, `bind_eq_error_iff` — two steps, one after the other
* `mapError_eq_ok_iff`, `mapError_eq_error_iff` — a step whose errors are renamed
* `getD_map_eq_error_iff` — a step that is left out where there is nothing to do
* `elim_eq_ok_iff` — a step that fails where there is nothing
-/

namespace RobotsExclusion

variable {ε ε' α β : Type} {x : Except ε α} {next : α → Except ε β} {name : ε → ε'}

/-- What follows a step follows its result. -/
theorem ok_bind (a : α) (next : α → Except ε β) : (Except.ok a >>= next) = next a := rfl

/-- Two steps succeed if both do. -/
theorem bind_eq_ok_iff {b : β} : (x >>= next) = .ok b ↔ ∃ a, x = .ok a ∧ next a = .ok b := by
  cases x with
  | error e => exact ⟨fun h => (nomatch h), fun ⟨_, h, _⟩ => (nomatch h)⟩
  | ok a => exact ⟨fun h => ⟨a, rfl, h⟩, fun ⟨_, h, hb⟩ => Except.ok.inj h ▸ hb⟩

/-- Two steps fail if the first one does, or the second one behind it. -/
theorem bind_eq_error_iff {e : ε} :
    (x >>= next) = .error e ↔ x = .error e ∨ ∃ a, x = .ok a ∧ next a = .error e := by
  cases x with
  | error f =>
    refine ⟨fun h => .inl (congrArg _ (Except.error.inj h)), fun h => ?_⟩
    rcases h with h | ⟨_, h, _⟩
    · exact congrArg _ (Except.error.inj h)
    · cases h
  | ok a =>
    refine ⟨fun h => .inr ⟨a, rfl, h⟩, fun h => ?_⟩
    rcases h with h | ⟨_, h, hb⟩
    · cases h
    · exact Except.ok.inj h ▸ hb

theorem mapError_eq_ok_iff {a : α} : x.mapError name = .ok a ↔ x = .ok a := by
  cases x with
  | error e => exact ⟨fun h => (nomatch h), fun h => (nomatch h)⟩
  | ok b => exact ⟨fun h => congrArg _ (Except.ok.inj h), fun h => congrArg _ (Except.ok.inj h)⟩

theorem mapError_eq_error_iff {e : ε'} :
    x.mapError name = .error e ↔ ∃ f, x = .error f ∧ name f = e := by
  cases x with
  | error f =>
    refine ⟨fun h => ⟨f, rfl, Except.error.inj h⟩, fun ⟨_, h, he⟩ => ?_⟩
    rw [← he, ← Except.error.inj h]
    rfl
  | ok a => exact ⟨fun h => (nomatch h), fun ⟨_, h, _⟩ => (nomatch h)⟩

/-- A step that is taken only where there is something to take it with fails there alone. -/
theorem getD_map_eq_error_iff {a? : Option α} {b : β} {e : ε} :
    (a?.map next).getD (.ok b) = .error e ↔ ∃ a, a? = some a ∧ next a = .error e := by
  cases a? with
  | none => exact ⟨fun h => (nomatch h), fun ⟨_, h, _⟩ => (nomatch h)⟩
  | some a => exact ⟨fun h => ⟨a, rfl, h⟩, fun ⟨_, h, he⟩ => Option.some.inj h ▸ he⟩

theorem toOption_eq_some_iff {a : α} : x.toOption = some a ↔ x = .ok a := by
  cases x with
  | error e => exact ⟨fun h => (nomatch h), fun h => (nomatch h)⟩
  | ok b => exact ⟨fun h => congrArg _ (Option.some.inj h), fun h => congrArg some (Except.ok.inj h)⟩

theorem toOption_isSome_iff : x.toOption.isSome = true ↔ ∃ a, x = .ok a := by
  cases x with
  | error e => exact ⟨fun h => (nomatch h), fun ⟨_, h⟩ => (nomatch h)⟩
  | ok a => exact iff_of_true rfl ⟨a, rfl⟩

/-- A step that fails for want of something succeeds with what there is. -/
theorem elim_eq_ok_iff {a? : Option α} {a : α} {e : ε} :
    a?.elim (.error e) .ok = (.ok a : Except ε α) ↔ a? = some a := by
  cases a? with
  | none => exact ⟨fun h => (nomatch h), fun h => (nomatch h)⟩
  | some b => exact ⟨fun h => congrArg some (Except.ok.inj h), fun h => congrArg _ (Option.some.inj h)⟩

end RobotsExclusion

import ServiceExposure.Failure

/-! # Outcomes of attempts

What an action that may fail gives in a state, told from what its parts give. -/

namespace ServiceExposure.Attempt

variable {σ α β : Type}

/-- What an action gives in a state, and the state after it. -/
def outcome (action : Attempt (StateM σ) α) (s : σ) : Except Failure α × σ :=
  StateT.run (ExceptT.run action) s

theorem outcome_bind (action : Attempt (StateM σ) α) (next : α → Attempt (StateM σ) β) (s : σ) :
    (action >>= next).outcome s =
      match action.outcome s with
      | (.ok a, s) => (next a).outcome s
      | (.error failure, s) => (.error failure, s) := by
  simp only [outcome, ExceptT.run_bind, StateT.run_bind]
  rcases StateT.run (ExceptT.run action) s with ⟨failure | a, s⟩ <;> rfl

theorem outcome_map (f : α → β) (action : Attempt (StateM σ) α) (s : σ) :
    (f <$> action).outcome s = ((action.outcome s).1.map f, (action.outcome s).2) := by
  simp only [outcome, ExceptT.run_map, StateT.run_map]
  rfl

theorem outcome_within (context : String) (action : Attempt (StateM σ) α) (s : σ) :
    (within context action).outcome s = ((action.outcome s).1.mapError (.within context),
      (action.outcome s).2) := by
  simp only [outcome, within]
  rfl

section

variable {action : Attempt (StateM σ) α} {s after : σ}

theorem outcome_bind_eq_ok_iff {next : α → Attempt (StateM σ) β} {b : β} :
    (action >>= next).outcome s = (.ok b, after) ↔
      ∃ a between, action.outcome s = (.ok a, between) ∧
        (next a).outcome between = (.ok b, after) := by
  rw [outcome_bind]
  rcases action.outcome s with ⟨failure | a, between⟩
  · simp
  · exact ⟨fun h => ⟨a, between, rfl, h⟩, by rintro ⟨_, _, ⟨⟩, h⟩; exact h⟩

theorem outcome_map_eq_ok_iff {f : α → β} {b : β} :
    (f <$> action).outcome s = (.ok b, after) ↔
    ∃ a, action.outcome s = (.ok a, after) ∧ f a = b := by
  rw [outcome_map]
  rcases action.outcome s with ⟨failure | a, between⟩
  · simp [Except.map]
  · exact ⟨by rintro ⟨⟩; exact ⟨a, rfl, rfl⟩, by rintro ⟨_, ⟨⟩, rfl⟩; rfl⟩

theorem outcome_within_eq_ok_iff {context : String} {a : α} :
    (within context action).outcome s = (.ok a, after) ↔ action.outcome s = (.ok a, after) := by
  rw [outcome_within]
  rcases action.outcome s with ⟨failure | a, between⟩
  · exact ⟨nofun, nofun⟩
  · exact Iff.rfl

end

/-! ## What an action can give -/

/-- Whatever the action gives, in whichever state, has the property. -/
def Gives (P : α → Prop) (action : Attempt (StateM σ) α) : Prop :=
  ∀ ⦃s a after⦄, action.outcome s = (.ok a, after) → P a

variable {P : α → Prop} {Q : β → Prop}

theorem gives_pure {a : α} (h : P a) : Gives P (pure a : Attempt (StateM σ) α) := by
  rintro s b after ⟨⟩
  exact h

theorem gives_fail (cause : Cause) : Gives P (fail cause : Attempt (StateM σ) α) := by
  rintro s a after ⟨⟩

theorem gives_ofExcept {result : Except Failure α} (h : ∀ a, result = .ok a → P a) :
    Gives P (ofExcept result : Attempt (StateM σ) α) :=
  fun _ a _ houtcome => h a (congrArg Prod.fst houtcome)

namespace Gives

variable {action : Attempt (StateM σ) α}

theorem trivial (action : Attempt (StateM σ) α) : action.Gives fun _ => True :=
  fun _ _ _ _ => True.intro

theorem imp {P' : α → Prop} (h : action.Gives P) (himp : ∀ a, P a → P' a) : action.Gives P' :=
  fun _ a _ houtcome => himp a (h houtcome)

theorem bind {next : α → Attempt (StateM σ) β} (h : action.Gives P)
    (hnext : ∀ a, P a → (next a).Gives Q) :
    (action >>= next).Gives Q := by
  intro s b after houtcome
  obtain ⟨a, between, ha, hb⟩ := outcome_bind_eq_ok_iff.1 houtcome
  exact hnext a (h ha) hb

theorem map {f : α → β} (h : action.Gives fun a => Q (f a)) : (f <$> action).Gives Q := by
  intro s b after houtcome
  obtain ⟨a, ha, rfl⟩ := outcome_map_eq_ok_iff.1 houtcome
  exact h ha

theorem within (h : action.Gives P) (context : String) : (Attempt.within context action).Gives P :=
  fun _ _ _ houtcome => h (outcome_within_eq_ok_iff.1 houtcome)

end Gives

end ServiceExposure.Attempt

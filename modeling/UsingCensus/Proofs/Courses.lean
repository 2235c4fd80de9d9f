import UsingCensus.Census.Course

namespace UsingCensus

instance decidableEqExcept [DecidableEq ε] [DecidableEq α] : DecidableEq (Except ε α)
  | .error first, .error second => decidable_of_iff (first = second) (by simp)
  | .ok first, .ok second => decidable_of_iff (first = second) (by simp)
  | .error _, .ok _ => .isFalse (by simp)
  | .ok _, .error _ => .isFalse (by simp)

namespace Course

/-- The course ends well with a value, coming from one state of progress to another. -/
def Yields (course : Course α) (before : Progress) (value : α) (after : Progress) : Prop :=
  course.run.run before = (.ok value, after)

theorem yields_of_follow {course : Course α} (ran : course.follow.1 = .ok value) :
    ∃ after, course.Yields .start value after :=
  ⟨course.follow.2, Prod.ext ran rfl⟩

theorem follow_of_yields {course : Course α} (ran : course.Yields .start value after) :
    course.follow.1 = .ok value :=
  congrArg Prod.fst ran

theorem yields_pure_iff {given value : α} :
    (pure given : Course α).Yields before value after ↔ value = given ∧ after = before := by
  constructor
  · intro ran
    cases ran
    exact ⟨rfl, rfl⟩
  · rintro ⟨rfl, rfl⟩
    rfl

/-- A course goes on after its first part unless that ended in a fault. -/
theorem run_bind (first : Course α) (next : α → Course β) (before : Progress) :
    (first >>= next).run.run before =
      match first.run.run before with
      | (.ok middle, between) => (next middle).run.run between
      | (.error fault, between) => (.error fault, between) := by
  simp only [ExceptT.run_bind, StateT.run_bind]
  change (match first.run.run before with | (result, between) => _) = _
  cases first.run.run before with
  | mk result between => cases result <;> rfl

theorem yields_bind_iff {first : Course α} {next : α → Course β} :
    (first >>= next).Yields before value after ↔
      ∃ middle between, first.Yields before middle between ∧ (next middle).Yields between value after := by
  unfold Yields
  rw [run_bind]
  cases ended : first.run.run before with
  | mk result between =>
    cases result with
    | error fault =>
      constructor
      · intro ran
        cases ran
      · rintro ⟨_, _, same, _⟩
        cases same
    | ok middle =>
      constructor
      · intro ran
        exact ⟨middle, between, rfl, ran⟩
      · rintro ⟨_, _, same, ran⟩
        cases same
        exact ran

theorem bind_congr_of_yields {first : Course α} {next other : α → Course β}
    (same : ∀ before value after, first.Yields before value after → other value = next value) :
    first >>= other = first >>= next := by
  refine ExceptT.ext (StateT.ext fun before => ?_)
  rw [run_bind, run_bind]
  cases ended : first.run.run before with
  | mk result between =>
    cases result with
    | error fault => rfl
    | ok middle =>
      dsimp only
      rw [same before middle between ended]

theorem not_yields_throw {fault : CensusFault} : ¬ (throw fault : Course α).Yields before value after := by
  intro ran
  cases ran

theorem yields_checkpoint_iff {value : Unit} :
    checkpoint.Yields before value after ↔ before.cancelled = false ∧ after = before := by
  unfold checkpoint
  rw [yields_bind_iff]
  constructor
  · rintro ⟨seen, between, got, ran⟩
    cases got
    by_cases stopped : before.cancelled = true
    · rw [if_pos stopped] at ran
      exact absurd ran not_yields_throw
    · rw [if_neg stopped] at ran
      exact ⟨by simpa using stopped, (yields_pure_iff.mp ran).2⟩
  · rintro ⟨running, rfl⟩
    exact ⟨after, after, rfl, by rw [running]; rfl⟩

theorem yields_attempt_iff {cause : ε → CensusFault} {result : Except ε α} :
    (attempt cause result).Yields before value after ↔ result = .ok value ∧ after = before := by
  cases result with
  | error fault =>
    simp only [attempt, reduceCtorEq, false_and, iff_false]
    exact not_yields_throw
  | ok given =>
    rw [attempt, yields_pure_iff, Except.ok.injEq]
    exact and_congr_left fun _ => eq_comm

/-- What a course comes to from a state of progress. -/
def outcome (course : Course α) (before : Progress) : Except CensusFault α := (course.run.run before).1

theorem follow_eq_outcome (course : Course α) : course.follow.1 = course.outcome .start := rfl

theorem outcome_bind_of_yields {first : Course α} {next : α → Course β}
    (ran : first.Yields before middle between) :
    (first >>= next).outcome before = (next middle).outcome between := by
  unfold Yields at ran
  rw [outcome, run_bind, ran]
  rfl

theorem outcome_bind_of_fault {first : Course α} {next : α → Course β}
    (failed : first.outcome before = .error fault) : (first >>= next).outcome before = .error fault := by
  unfold outcome at failed
  rw [outcome, run_bind]
  cases ended : first.run.run before with
  | mk result between =>
    rw [ended] at failed
    dsimp only at failed
    rw [failed]

/-! ### Moments -/

variable {disturbance : Option Disturbance} {before : Progress}

theorem yields_log (records : List LogRecord) (before : Progress) :
    (log records).Yields before () { before with records := before.records ++ records } :=
  rfl

theorem yields_reach (disturbance : Option Disturbance) (moment : Moment) (before : Progress) :
    (reach disturbance moment).Yields before () { before with
      moments := before.moments ++ [moment]
      cancelled := before.cancelled || disturbance = some (.cancellation moment) } :=
  rfl

theorem exists_yields_meet (disturbance : Option Disturbance) (moment : Moment) (before : Progress) :
    ∃ after, (meet disturbance moment).Yields before () after ∧
      after.cancelled = (before.cancelled || decide (disturbance = some (.cancellation moment))) := by
  unfold meet
  by_cases struck : disturbance = some (.cancellation moment)
  · rw [if_pos struck]
    exact ⟨_, yields_reach disturbance moment before, rfl⟩
  · rw [if_neg struck]
    exact ⟨before, rfl, by simp [struck]⟩

theorem yields_checkpoint (running : before.cancelled = false) : checkpoint.Yields before () before :=
  yields_checkpoint_iff.mpr ⟨running, rfl⟩

theorem outcome_checkpoint_of_cancelled (cancelled : before.cancelled = true) :
    checkpoint.outcome before = .error .cancelled := by
  have seen : (get : Course Progress).Yields before before before := rfl
  unfold checkpoint
  rw [outcome_bind_of_yields seen, if_pos cancelled]
  rfl

/-- After a moment a course goes on unless the cancellation came with it. -/
theorem outcome_reach_bind (disturbance : Option Disturbance) (moment : Moment) (next : Unit → Course α)
    (running : before.cancelled = false) :
    ∃ after, after.cancelled = false ∧
      (reach disturbance moment >>= fun _ => checkpoint >>= next).outcome before =
        if disturbance = some (.cancellation moment) then .error .cancelled else (next ()).outcome after := by
  have noted := yields_reach disturbance moment before
  by_cases struck : disturbance = some (.cancellation moment)
  · refine ⟨before, running, ?_⟩
    rw [if_pos struck, outcome_bind_of_yields noted]
    exact outcome_bind_of_fault (outcome_checkpoint_of_cancelled (by simp [struck]))
  · let after : Progress := ⟨before.records, before.moments ++ [moment], before.cancelled ||
      disturbance = some (.cancellation moment)⟩
    have quiet : after.cancelled = false := by simp [after, running, struck]
    refine ⟨after, quiet, ?_⟩
    rw [if_neg struck, outcome_bind_of_yields noted, outcome_bind_of_yields (yields_checkpoint quiet)]

end Course
end UsingCensus

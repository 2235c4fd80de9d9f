import UsingCensus.Census.Tour
import UsingCensus.Proofs.Accounts

namespace UsingCensus

/-- Does the disturbance come in while a census of these documents is taken? Only documents that can be read
are parsed. -/
def Disturbance.comes (around : Surroundings) (documents : List Path) : Disturbance → Bool
  | .interruption => true
  | .cancellation .start => false
  | .cancellation .grammar => true
  | .cancellation .workspace => true
  | .cancellation .document => documents.any fun document => (around.importsOf document).isOk

theorem Disturbance.any_comes_iff {around : Surroundings} {documents : List Path}
    {disturbance : Option Disturbance} :
    disturbance.any (Disturbance.comes around documents) = true ↔
      disturbance = some .interruption ∨ disturbance = some (.cancellation .grammar) ∨
      disturbance = some (.cancellation .workspace) ∨
      disturbance = some (.cancellation .document) ∧
        documents.any fun document => (around.importsOf document).isOk := by
  rcases disturbance with _ | ⟨_ | _ | _ | _⟩ | _ <;> simp [Disturbance.comes]

namespace Course

variable {around : Surroundings} {disturbance : Option Disturbance} {before : Progress}

/-! ### Phases -/

theorem outcome_findGrammar_bind (modules : List GrammarModule) (disturbance : Option Disturbance)
    (name : String) (next : Grammar → Course α) (running : before.cancelled = false) :
    ∃ after, after.cancelled = false ∧ (findGrammar modules disturbance name >>= next).outcome before =
      if disturbance = some .interruption then .error .interrupted
      else
        match Grammar.locate modules name with
        | .error fault => .error (.grammar fault)
        | .ok found =>
          if disturbance = some (.cancellation .grammar) then .error .cancelled
          else (next found).outcome after := by
  unfold findGrammar
  by_cases interrupted : disturbance = some .interruption
  · refine ⟨before, running, ?_⟩
    rw [if_pos interrupted, if_pos interrupted]
    rfl
  · simp only [if_neg interrupted, bind_assoc, pure_bind]
    cases located : Grammar.locate modules name with
    | error fault => exact ⟨before, running, rfl⟩
    | ok found =>
      let noted : Progress := { before with records := before.records ++ [grammarRecord found] }
      have running : noted.cancelled = false := running
      exact outcome_reach_bind disturbance .grammar (fun _ => next found) running

theorem outcome_load_bind (around : Surroundings) (disturbance : Option Disturbance) (file : Path)
    (next : Loading → Course α) (running : before.cancelled = false) :
    ∃ after, after.cancelled = false ∧ (load around disturbance file >>= next).outcome before =
      match (around.openWorkspace file).fault with
      | some fault => .error (.load fault)
      | none =>
        if disturbance = some (.cancellation .workspace) then .error .cancelled
        else (next (around.openWorkspace file)).outcome after := by
  unfold load
  simp only [bind_assoc]
  let called : Progress :=
    { before with records := before.records ++ [.of "orchestrator" .info ("Loading " ++ file.name)] }
  let noted : Progress :=
    { called with records := called.records ++ (around.openWorkspace file).events.map loadRecord }
  have running : noted.cancelled = false := running
  rw [outcome_bind_of_yields (yields_log _ _), outcome_bind_of_yields (yields_log _ _)]
  cases failed : (around.openWorkspace file).fault with
  | some fault => exact ⟨before, running, outcome_bind_of_fault rfl⟩
  | none =>
    obtain ⟨after, quiet, goes⟩ := outcome_reach_bind disturbance .workspace
      (fun _ => next (around.openWorkspace file)) running
    refine ⟨after, quiet, ?_⟩
    simp only [bind_assoc, pure_bind]
    exact goes

theorem exists_yields_select (selection : Selection) (projects : List Project)
    (running : before.cancelled = false) :
    ∃ after, (select selection projects).Yields before (selection.documents projects) after ∧
      after.cancelled = false := by
  unfold select
  refine ⟨_, yields_bind_iff.mpr ⟨(), _, yields_log _ _, yields_bind_iff.mpr ⟨(), _, yields_log _ _, rfl⟩⟩, ?_⟩
  exact running

/-! ### Reading -/

/-- Once cancelled, reading ends as cancelled, at the next document or after the last one. -/
theorem outcome_foldlM_gather_of_cancelled (documents : List Path) (harvest : Harvest)
    (next : Harvest → Course α) (cancelled : before.cancelled = true) :
    (documents.foldlM (gather around disturbance) harvest >>= fun yielded =>
      checkpoint >>= fun _ => next yielded).outcome before = .error .cancelled := by
  cases documents with
  | nil =>
    rw [List.foldlM_nil, pure_bind]
    exact outcome_bind_of_fault (outcome_checkpoint_of_cancelled cancelled)
  | cons document rest =>
    rw [List.foldlM_cons, bind_assoc]
    refine outcome_bind_of_fault ?_
    unfold gather
    exact outcome_bind_of_fault (outcome_checkpoint_of_cancelled cancelled)

/-- A cancellation that comes when a document was read comes in if some document can be read. -/
theorem outcome_foldlM_gather_bind (around : Surroundings) (disturbance : Option Disturbance)
    (documents : List Path) (harvest : Harvest) (next : Harvest → Course α)
    (running : before.cancelled = false) :
    ∃ after, after.cancelled = false ∧
      (documents.foldlM (gather around disturbance) harvest >>= fun yielded =>
        checkpoint >>= fun _ => next yielded).outcome before =
      if disturbance = some (.cancellation .document) ∧
          documents.any (fun document => (around.importsOf document).isOk) then .error .cancelled
      else (next (around.reap harvest documents)).outcome after := by
  induction documents generalizing harvest before with
  | nil =>
    refine ⟨before, running, ?_⟩
    rw [if_neg (by simp), List.foldlM_nil, pure_bind, outcome_bind_of_yields (yields_checkpoint running)]
    rfl
  | cons document rest ih =>
    obtain ⟨between, gathered, struck⟩ :=
      exists_yields_gather around disturbance harvest document running
    rw [List.foldlM_cons, bind_assoc, outcome_bind_of_yields gathered]
    simp only [List.any_cons, Bool.or_eq_true, and_or_left, ← struck]
    by_cases cancelled : between.cancelled = true
    · refine ⟨before, running, ?_⟩
      rw [if_pos (.inl cancelled)]
      exact outcome_foldlM_gather_of_cancelled rest _ next cancelled
    · obtain ⟨after, quiet, goes⟩ :=
        ih (harvest.add document (around.importsOf document)) (by simpa using cancelled)
      refine ⟨after, quiet, ?_⟩
      simp only [cancelled, Bool.false_eq_true, false_or]
      exact goes

theorem outcome_gatherAll_bind (around : Surroundings) (disturbance : Option Disturbance)
    (workers : Option Int) (documents : List Path) (next : Harvest → Course α)
    (running : before.cancelled = false) :
    ∃ after, after.cancelled = false ∧
      (gatherAll around disturbance workers documents >>= fun yielded =>
        checkpoint >>= fun _ => next yielded).outcome before =
      if documents ≠ [] ∧ workers.any (· < 0) then .error .noWorkers
      else if disturbance = some (.cancellation .document) ∧
          documents.any (fun document => (around.importsOf document).isOk) then .error .cancelled
      else (next (around.reap Harvest.empty documents)).outcome after := by
  unfold gatherAll
  by_cases none : documents = []
  · subst none
    refine ⟨before, running, ?_⟩
    rw [if_pos rfl, if_neg (by simp), if_neg (by simp), pure_bind,
      outcome_bind_of_yields (yields_checkpoint running)]
    rfl
  · rw [if_neg none]
    by_cases refused : workers.any (· < 0) = true
    · refine ⟨before, running, ?_⟩
      rw [if_pos refused, if_pos ⟨none, refused⟩]
      rfl
    · obtain ⟨after, quiet, goes⟩ :=
        outcome_foldlM_gather_bind around disturbance documents Harvest.empty next running
      refine ⟨after, quiet, ?_⟩
      rw [if_neg refused, if_neg (fun both : _ ∧ _ => refused both.2), ← goes]

end Course

/-- What a census comes to, phase by phase: it may be interrupted while it looks for the grammar, a phase may
end it with its fault, and a cancellation is noticed after the phase in which it came. -/
theorem Surroundings.outcome_census (around : Surroundings) (modules : List GrammarModule)
    (disturbance : Option Disturbance) (options : CensusOptions) (target : Target)
    (running : before.cancelled = false) :
    (around.census modules disturbance options target).outcome before =
      if disturbance = some .interruption then .error .interrupted
      else
        match Grammar.locate modules options.grammar with
        | .error fault => .error (.grammar fault)
        | .ok _ =>
          if disturbance = some (.cancellation .grammar) then .error .cancelled
          else
            let loading := around.openWorkspace target.resolved
            let documents := options.selection.documents loading.projects
            match loading.fault with
            | some fault => .error (.load fault)
            | none =>
              if disturbance = some (.cancellation .workspace) then .error .cancelled
              else if documents ≠ [] ∧ options.workers.any (· < 0) then .error .noWorkers
              else if disturbance = some (.cancellation .document) ∧
                  documents.any (fun document => (around.importsOf document).isOk) then .error .cancelled
              else
                Milestone.conclude options target loading documents
                  (around.reap Harvest.empty documents) := by
  unfold Surroundings.census
  let told : Progress := { before with records := before.records ++ [Course.targetRecord target] }
  have running : told.cancelled = false := running
  rw [Course.outcome_bind_of_yields (Course.yields_log _ _),
    Course.outcome_bind_of_yields (Course.yields_checkpoint running)]
  obtain ⟨_, running, searched⟩ := Course.outcome_findGrammar_bind modules disturbance options.grammar _ running
  rw [searched]
  refine ite_congr rfl (fun _ => rfl) fun _ => ?_
  cases Grammar.locate modules options.grammar with
  | error fault => rfl
  | ok found =>
    dsimp only
    refine ite_congr rfl (fun _ => rfl) fun _ => ?_
    obtain ⟨_, running, loaded⟩ := Course.outcome_load_bind around disturbance target.resolved _ running
    rw [loaded]
    cases (around.openWorkspace target.resolved).fault with
    | some fault => rfl
    | none =>
      dsimp only
      refine ite_congr rfl (fun _ => rfl) fun _ => ?_
      obtain ⟨_, selects, running⟩ :=
        Course.exists_yields_select options.selection (around.openWorkspace target.resolved).projects running
      rw [Course.outcome_bind_of_yields selects]
      obtain ⟨_, _, gathered⟩ := Course.outcome_gatherAll_bind around disturbance options.workers
        (options.selection.documents (around.openWorkspace target.resolved).projects) _ running
      rw [gathered]
      refine ite_congr rfl (fun _ => rfl) fun _ => ite_congr rfl (fun _ => rfl) fun _ => ?_
      unfold Milestone.conclude
      cases rank options.count (around.reap Harvest.empty
        (options.selection.documents (around.openWorkspace target.resolved).projects)).tally.snapshot with
      | ok rows => rfl
      | error fault => rfl

/-- Any two numbers of workers that are numbers of workers come to the same. -/
theorem Surroundings.follow_census_workers (around : Surroundings) (modules : List GrammarModule)
    (disturbance : Option Disturbance) (options : CensusOptions) (target : Target) {workers : Option Int}
    (staffed : options.workers.any (· < 0) = false) (others : workers.any (· < 0) = false) :
    (around.census modules disturbance { options with workers := workers } target).follow.1 =
      (around.census modules disturbance options target).follow.1 := by
  have running : Progress.start.cancelled = false := rfl
  rw [Course.follow_eq_outcome, Course.follow_eq_outcome,
    around.outcome_census modules disturbance _ target running,
    around.outcome_census modules disturbance _ target running]
  simp only [staffed, others, Bool.false_eq_true, and_false, if_false, Milestone.conclude]

end UsingCensus

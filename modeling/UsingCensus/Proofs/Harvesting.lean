import UsingCensus.Census.Harvest
import UsingCensus.Proofs.Counting
import UsingCensus.Proofs.Courses

namespace UsingCensus

namespace Surroundings

def importedBy (around : Surroundings) (document : Path) : List String :=
  match around.readSource document with
  | .ok source => CSharp.importsOfBytes source
  | .error _ => []

def failureOf? (around : Surroundings) (document : Path) : Option String :=
  match around.readSource document with
  | .ok _ => none
  | .error fault => some (Harvest.failure document fault)

def reap (around : Surroundings) (harvest : Harvest) (documents : List Path) : Harvest :=
  documents.foldl (fun harvest document => harvest.add document (around.importsOf document)) harvest

theorem add_importsOf (around : Surroundings) (harvest : Harvest) (document : Path) :
    harvest.add document (around.importsOf document) =
      ⟨harvest.tally.addAll (around.importedBy document),
        harvest.failures ++ (around.failureOf? document).toList⟩ := by
  unfold importsOf importedBy failureOf?
  cases around.readSource document with
  | ok source => simp [Harvest.add]
  | error fault => simp [Harvest.add, Tally.addAll]

theorem reap_eq (around : Surroundings) (harvest : Harvest) (documents : List Path) :
    around.reap harvest documents =
      ⟨harvest.tally.addAll (documents.flatMap around.importedBy),
        harvest.failures ++ documents.filterMap around.failureOf?⟩ := by
  induction documents generalizing harvest with
  | nil => simp [reap, Tally.addAll]
  | cons document rest ih =>
    have later := ih (harvest.add document (around.importsOf document))
    unfold reap at later ⊢
    rw [List.foldl_cons, later, add_importsOf, List.flatMap_cons, Tally.addAll_append]
    cases failing : around.failureOf? document <;> simp [failing]

end Surroundings

namespace Course

theorem yields_gather {around : Surroundings} {disturbance : Option Disturbance} {harvest : Harvest}
    {document : Path} (ran : (gather around disturbance harvest document).Yields before value after) :
    value = harvest.add document (around.importsOf document) := by
  unfold gather at ran
  obtain ⟨_, between, _, ran⟩ := yields_bind_iff.mp ran
  cases found : around.importsOf document with
  | error fault =>
    rw [found] at ran
    exact (yields_pure_iff.mp ran).1
  | ok names =>
    rw [found] at ran
    obtain ⟨_, _, _, ran⟩ := yields_bind_iff.mp ran
    obtain ⟨_, _, _, ran⟩ := yields_bind_iff.mp ran
    exact (yields_pure_iff.mp ran).1

theorem yields_foldlM_gather {around : Surroundings} {disturbance : Option Disturbance}
    {harvest : Harvest} {documents : List Path}
    (ran : (documents.foldlM (gather around disturbance) harvest).Yields before value after) :
    value = around.reap harvest documents := by
  induction documents generalizing harvest before with
  | nil => exact (yields_pure_iff.mp ran).1
  | cons document rest ih =>
    rw [List.foldlM_cons] at ran
    obtain ⟨next, between, first, later⟩ := yields_bind_iff.mp ran
    have added := yields_gather first
    subst added
    exact ih later

theorem yields_gatherAll {around : Surroundings} {disturbance : Option Disturbance}
    {workers : Option Int} {documents : List Path}
    (ran : (gatherAll around disturbance workers documents).Yields before value after) :
    value = around.reap Harvest.empty documents := by
  unfold gatherAll at ran
  split at ran
  · rename_i none
    subst none
    exact (yields_pure_iff.mp ran).1
  · dsimp only at ran
    split at ran
    · obtain ⟨_, _, thrown, _⟩ := yields_bind_iff.mp ran
      exact absurd thrown not_yields_throw
    · exact yields_foldlM_gather ran

theorem exists_yields_gather (around : Surroundings) (disturbance : Option Disturbance) (harvest : Harvest)
    (document : Path) (running : before.cancelled = false) :
    ∃ after, (gather around disturbance harvest document).Yields before
        (harvest.add document (around.importsOf document)) after ∧
      (after.cancelled = true ↔
        disturbance = some (.cancellation .document) ∧ (around.importsOf document).isOk) := by
  have passed := yields_checkpoint running
  unfold gather
  cases found : around.importsOf document with
  | error fault =>
    refine ⟨before, yields_bind_iff.mpr ⟨(), before, passed, rfl⟩, ?_⟩
    simp [running, Except.isOk, Except.toBool]
  | ok names =>
    obtain ⟨met, meets, struck⟩ := exists_yields_meet disturbance .document before
    refine ⟨{ met with records := met.records ++ [Harvest.importRecord document names] },
      yields_bind_iff.mpr ⟨(), before, passed, yields_bind_iff.mpr ⟨(), met, meets, ?_⟩⟩, ?_⟩
    · exact yields_bind_iff.mpr ⟨(), _, yields_log _ _, rfl⟩
    · simp [struck, running, Except.isOk, Except.toBool]

theorem exists_yields_reap (around : Surroundings) (harvest : Harvest) (documents : List Path)
    (running : before.cancelled = false) :
    ∃ after, (documents.foldlM (gather around none) harvest).Yields before
      (around.reap harvest documents) after ∧ after.cancelled = false := by
  induction documents generalizing harvest before with
  | nil => exact ⟨before, yields_pure_iff.mpr ⟨rfl, rfl⟩, running⟩
  | cons document rest ih =>
    obtain ⟨between, first, struck⟩ := exists_yields_gather around none harvest document running
    have still : between.cancelled = false := by simpa using struck
    obtain ⟨after, later, quiet⟩ := ih (harvest.add document (around.importsOf document)) still
    rw [List.foldlM_cons]
    exact ⟨after, yields_bind_iff.mpr ⟨_, between, first, later⟩, quiet⟩

theorem exists_yields_foldlM_gather (around : Surroundings) (harvest : Harvest) (documents : List Path)
    (running : before.cancelled = false) :
    ∃ after, (documents.foldlM (gather around none) harvest).Yields before
      (around.reap harvest documents) after := by
  obtain ⟨after, ran, _⟩ := exists_yields_reap around harvest documents running
  exact ⟨after, ran⟩

end Course
end UsingCensus

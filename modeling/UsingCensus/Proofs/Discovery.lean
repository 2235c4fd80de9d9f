import UsingCensus.Proofs.Visits

/-!
Discovery of projects. Main statement: loading goes breadth first over all that is reached, looks at each
path once, and loads exactly what can be loaded.
-/
namespace UsingCensus

def Visit.events : Visit → List LoadEvent
  | loaded project reports => reports.map .warned ++ [.loaded project]
  | skipped message => [.warned message]
  | ended _ => []

def Visit.project? : Visit → Option Project
  | loaded project _ => some project
  | _ => none

theorem Visit.project?_eq_some {visit : Visit} {project : Project} :
    visit.project? = some project ↔ ∃ reports, visit = .loaded project reports := by
  cases visit <;> simp [Visit.project?, eq_comm]

namespace Loading

theorem projects_after (events : List LoadEvent) (loading : Loading) :
    (loading.after events).projects = (Loading.mk events none).projects ++ loading.projects := by
  simp [projects, after]

theorem fault_after (events : List LoadEvent) (loading : Loading) :
    (loading.after events).fault = loading.fault := rfl

theorem warnings_after (events : List LoadEvent) (loading : Loading) :
    (loading.after events).warnings = (Loading.mk events none).warnings ++ loading.warnings := by
  simp [warnings, after]

theorem projects_events (visit : Visit) : (Loading.mk visit.events none).projects = visit.project?.toList := by
  cases visit with
  | loaded project reports =>
    simp only [projects, Visit.events, Visit.project?, List.filterMap_append, List.filterMap_map]
    simp
  | skipped message => rfl
  | ended fault => rfl

end Loading

namespace Surroundings

/-- The first spelling of each path in a queue that was not seen before. -/
def unseen (around : Surroundings) : List Path → List Path → List Path
  | _, [] => []
  | seen, path :: rest =>
    if around.projectKey path ∈ seen then around.unseen seen rest
    else path :: around.unseen (around.projectKey path :: seen) rest

theorem unseen_cons_of_seen {around : Surroundings} {seen rest : List Path} {path : Path}
    (known : around.projectKey path ∈ seen) : around.unseen seen (path :: rest) = around.unseen seen rest := by
  rw [unseen, if_pos known]

theorem unseen_cons {around : Surroundings} {seen rest : List Path} {path : Path}
    (new : around.projectKey path ∉ seen) :
    around.unseen seen (path :: rest) = path :: around.unseen (around.projectKey path :: seen) rest := by
  rw [unseen, if_neg new]

theorem mem_of_mem_unseen {around : Surroundings} {seen queue : List Path} {path : Path}
    (member : path ∈ around.unseen seen queue) : path ∈ queue ∧ around.projectKey path ∉ seen := by
  induction queue generalizing seen with
  | nil => cases member
  | cons first rest ih =>
    by_cases known : around.projectKey first ∈ seen
    · rw [unseen_cons_of_seen known] at member
      obtain ⟨later, new⟩ := ih member
      exact ⟨List.mem_cons_of_mem _ later, new⟩
    · rw [unseen_cons known] at member
      rcases List.mem_cons.mp member with rfl | member
      · exact ⟨List.mem_cons_self, known⟩
      · obtain ⟨later, new⟩ := ih member
        exact ⟨List.mem_cons_of_mem _ later, fun old => new (List.mem_cons_of_mem _ old)⟩

theorem nodup_unseen (around : Surroundings) (seen queue : List Path) :
    ((around.unseen seen queue).map around.projectKey).Nodup := by
  induction queue generalizing seen with
  | nil => exact List.nodup_nil
  | cons first rest ih =>
    by_cases known : around.projectKey first ∈ seen
    · rw [unseen_cons_of_seen known]
      exact ih seen
    · rw [unseen_cons known, List.map_cons, List.nodup_cons]
      refine ⟨?_, ih _⟩
      intro member
      obtain ⟨other, later, same⟩ := List.mem_map.mp member
      exact (mem_of_mem_unseen later).2 (same ▸ List.mem_cons_self)

theorem exists_mem_unseen {around : Surroundings} {seen queue : List Path} {path : Path}
    (member : path ∈ queue) (new : around.projectKey path ∉ seen) :
    ∃ first ∈ around.unseen seen queue, around.projectKey first = around.projectKey path := by
  induction queue generalizing seen with
  | nil => cases member
  | cons first rest ih =>
    by_cases known : around.projectKey first ∈ seen
    · rw [unseen_cons_of_seen known]
      rcases List.mem_cons.mp member with rfl | later
      · exact absurd known new
      · exact ih later new
    · rw [unseen_cons known]
      by_cases same : around.projectKey first = around.projectKey path
      · exact ⟨first, List.mem_cons_self, same⟩
      · rcases List.mem_cons.mp member with rfl | later
        · exact absurd rfl same
        · have still : around.projectKey path ∉ around.projectKey first :: seen := by
            simpa [Ne.symm same] using new
          obtain ⟨found, listed, spelled⟩ := ih later still
          exact ⟨found, List.mem_cons_of_mem _ listed, spelled⟩

/-! ### The loop -/

/-- The course of loading a queue, whatever bounds it: paths that were seen are passed, every other path is
looked at, and what a loaded project refers to comes after the queue. -/
inductive Loads (around : Surroundings) : List Path → List Path → Loading → Prop where
  | done : around.Loads seen [] ⟨[], none⟩
  | pass (known : around.projectKey path ∈ seen) (rest : around.Loads seen queue loading) :
      around.Loads seen (path :: queue) loading
  | stop (new : around.projectKey path ∉ seen) (ends : around.visit path = .ended fault) :
      around.Loads seen (path :: queue) ⟨[], some fault⟩
  | look (new : around.projectKey path ∉ seen) (whole : ∀ fault, around.visit path ≠ .ended fault)
      (rest : around.Loads (around.projectKey path :: seen)
        (queue ++ (around.visit path).project?.toList.flatMap Project.references) loading) :
      around.Loads seen (path :: queue) (loading.after (around.visit path).events)

variable {around : Surroundings} {P : Path → Prop} {keys seen queue rest : List Path} {path : Path}
  {loading : Loading}

/-- A queue is loaded in one way only. -/
theorem Loads.unique {other : Loading} (loads : around.Loads seen queue loading)
    (also : around.Loads seen queue other) : loading = other := by
  induction loads generalizing other with
  | done =>
    cases also
    rfl
  | pass known _ ih =>
    cases also with
    | pass _ rest => exact ih rest
    | stop new _ => exact absurd known new
    | look new _ _ => exact absurd known new
  | stop new ends =>
    cases also with
    | pass known _ => exact absurd known new
    | stop _ also =>
      rw [ends] at also
      cases also
      rfl
    | look _ whole _ => exact absurd ends (whole _)
  | look new whole _ ih =>
    cases also with
    | pass known _ => exact absurd known new
    | stop _ ends => exact absurd ends (whole _)
    | look _ _ rest => rw [ih rest]

theorem forall_mem_look
    (closed : ∀ path project reports, P path → around.visit path = .loaded project reports →
      ∀ reference ∈ project.references, P reference) (within : ∀ other ∈ path :: queue, P other) :
    ∀ other ∈ queue ++ (around.visit path).project?.toList.flatMap Project.references, P other := by
  intro other member
  rcases List.mem_append.mp member with earlier | referred
  · exact within other (List.mem_cons_of_mem _ earlier)
  · obtain ⟨project, found, reference⟩ := List.mem_flatMap.mp referred
    obtain ⟨reports, loaded⟩ := Visit.project?_eq_some.mp (Option.mem_toList.mp found)
    exact closed path project reports (within path List.mem_cons_self) loaded other reference

theorem filter_unseen_cons (keys seen : List Path) (key : Path) :
    keys.filter (· ∉ key :: seen) = (keys.filter (· ∉ seen)).filter (· ≠ key) := by
  rw [List.filter_filter]
  apply List.filter_congr
  intro other _
  simp

theorem length_unseen_lt {key : Path} (listed : key ∈ keys) (new : key ∉ seen) :
    (keys.filter (· ∉ key :: seen)).length < (keys.filter (· ∉ seen)).length := by
  rw [filter_unseen_cons, List.length_filter_lt_length_iff_exists]
  exact ⟨key, List.mem_filter.mpr ⟨listed, by simpa using new⟩, by simp⟩

theorem loads_passOver {goOn : List Path → List Path → Loading} {budget : Nat}
    (closed : ∀ path project reports, P path → around.visit path = .loaded project reports →
      ∀ reference ∈ project.references, P reference)
    (known : ∀ path project reports, P path → around.visit path = .loaded project reports →
      around.projectKey path ∈ keys)
    (later : ∀ seen queue, (∀ path ∈ queue, P path) → (keys.filter (· ∉ seen)).length < budget →
      around.Loads seen queue (goOn seen queue))
    (within : ∀ path ∈ queue, P path) (room : (keys.filter (· ∉ seen)).length ≤ budget) :
    around.Loads seen queue (around.passOver goOn seen queue) := by
  induction queue generalizing seen with
  | nil => exact .done
  | cons path rest ih =>
    have rests : ∀ other ∈ rest, P other := fun other member => within other (List.mem_cons_of_mem _ member)
    have holds := within path List.mem_cons_self
    rw [passOver]
    by_cases old : around.projectKey path ∈ seen
    · rw [if_pos old]
      exact .pass old (ih rests room)
    rw [if_neg old]
    cases looks : around.visit path with
    | ended fault => exact .stop old looks
    | skipped message =>
      have fewer : (keys.filter (· ∉ around.projectKey path :: seen)).length ≤ budget := by
        rw [filter_unseen_cons]
        exact Nat.le_trans (List.length_filter_le _ _) room
      have going : around.Loads (around.projectKey path :: seen)
          (rest ++ (around.visit path).project?.toList.flatMap Project.references)
          (around.passOver goOn (around.projectKey path :: seen) rest) := by
        simpa [looks, Visit.project?] using ih rests fewer
      have looked := Loads.look old (by simp [looks]) going
      rw [looks] at looked
      exact looked
    | loaded project reports =>
      have fewer := length_unseen_lt (known path project reports holds looks) old
      have queued : ∀ other ∈ rest ++ project.references, P other := by
        intro other member
        rcases List.mem_append.mp member with earlier | reference
        · exact rests other earlier
        · exact closed path project reports holds looks other reference
      have going : around.Loads (around.projectKey path :: seen)
          (rest ++ (around.visit path).project?.toList.flatMap Project.references)
          (goOn (around.projectKey path :: seen) (rest ++ project.references)) := by
        simpa [looks, Visit.project?] using later _ _ queued (Nat.lt_of_lt_of_le fewer room)
      have looked := Loads.look old (by simp [looks]) going
      rw [looks] at looked
      exact looked

/-- No bound is felt that is not below the number of unseen keys of projects that load. -/
theorem loads_loadQueue
    (closed : ∀ path project reports, P path → around.visit path = .loaded project reports →
      ∀ reference ∈ project.references, P reference)
    (known : ∀ path project reports, P path → around.visit path = .loaded project reports →
      around.projectKey path ∈ keys)
    {fuel : Nat} (within : ∀ path ∈ queue, P path) (room : (keys.filter (· ∉ seen)).length ≤ fuel) :
    around.Loads seen queue (around.loadQueue fuel seen queue) := by
  induction fuel generalizing seen queue with
  | zero => exact loads_passOver closed known (fun _ _ _ none => absurd none (Nat.not_lt_zero _)) within room
  | succ fewer ih =>
    exact loads_passOver closed known
      (fun seen queue within few => ih within (Nat.le_of_lt_succ few)) within room

/-! ### What was looked at -/

/-- What loading found in a queue: the paths that it looked at are the first spellings in the queue and in
what the projects refer to, in this order; all of them have a property, and none of them ended it. -/
structure Explored (around : Surroundings) (P : Path → Prop) (seen queue : List Path)
    (loading : Loading) : Prop where
  events : loading.events =
    (around.unseen seen (queue ++ loading.projects.flatMap Project.references)).flatMap
      fun path => (around.visit path).events
  sound : ∀ path ∈ around.unseen seen (queue ++ loading.projects.flatMap Project.references), P path
  whole : ∀ path ∈ around.unseen seen (queue ++ loading.projects.flatMap Project.references),
    ∀ fault, around.visit path ≠ .ended fault

theorem unseen_look (new : around.projectKey path ∉ seen) (loading : Loading) :
    around.unseen seen (path :: queue ++
      (loading.after (around.visit path).events).projects.flatMap Project.references) =
        path :: around.unseen (around.projectKey path :: seen)
          (queue ++ (around.visit path).project?.toList.flatMap Project.references ++
            loading.projects.flatMap Project.references) := by
  rw [List.cons_append, unseen_cons new, Loading.projects_after, Loading.projects_events,
    List.flatMap_append, List.append_assoc]

theorem Loads.explored
    (closed : ∀ path project reports, P path → around.visit path = .loaded project reports →
      ∀ reference ∈ project.references, P reference)
    (loads : around.Loads seen queue loading) (within : ∀ path ∈ queue, P path)
    (ends : loading.fault = none) : Explored around P seen queue loading := by
  induction loads with
  | done => exact ⟨rfl, by simp [Loading.projects, unseen], by simp [Loading.projects, unseen]⟩
  | pass known _ ih =>
    have explored := ih (fun other member => within other (List.mem_cons_of_mem _ member)) ends
    refine ⟨?_, ?_, ?_⟩
    all_goals rw [List.cons_append, unseen_cons_of_seen known]
    · exact explored.events
    · exact explored.sound
    · exact explored.whole
  | stop => cases ends
  | @look seen path queue loading new whole _ ih =>
    have explored := ih (forall_mem_look closed within) ends
    refine ⟨?_, ?_, ?_⟩
    all_goals rw [unseen_look new]
    · rw [List.flatMap_cons, ← explored.events]
      rfl
    · exact List.forall_mem_cons.mpr ⟨within path List.mem_cons_self, explored.sound⟩
    · exact List.forall_mem_cons.mpr ⟨whole, explored.whole⟩

end Surroundings
end UsingCensus

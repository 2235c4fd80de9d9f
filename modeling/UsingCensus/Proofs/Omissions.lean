import UsingCensus.Proofs.LoadFaults

namespace UsingCensus

namespace Surroundings

variable {around other : Surroundings} {seen queue start : List Path} {key path file : Path}
  {loading : Loading}

/-- The paths of a queue that are not known by a key. -/
def omitted (around : Surroundings) (key : Path) (queue : List Path) : List Path :=
  queue.filter fun path => around.projectKey path ≠ key

end Surroundings

/-- The project without its references to what is known by a key. -/
def Project.omit (around : Surroundings) (key : Path) (project : Project) : Project :=
  { project with references := around.omitted key project.references }

def Visit.omit (around : Surroundings) (key : Path) : Visit → Visit
  | loaded project reports => loaded (project.omit around key) reports
  | skipped message => skipped message
  | ended fault => ended fault

def LoadEvent.omit (around : Surroundings) (key : Path) : LoadEvent → LoadEvent
  | loaded project => loaded (project.omit around key)
  | event => event

namespace Surroundings

variable {around other : Surroundings} {seen queue start : List Path} {key path file : Path}
  {loading : Loading}

theorem events_omit (around : Surroundings) (key : Path) (visit : Visit) :
    (visit.omit around key).events = visit.events.map (LoadEvent.omit around key) := by
  cases visit <;> simp [Visit.omit, Visit.events, LoadEvent.omit, Function.comp_def]

/-- Other surroundings where nothing that is reached refers to a key, and all else is the same. -/
structure Omits (around other : Surroundings) (start : List Path) (key : Path) : Prop where
  settled : other.Settled
  directory : other.directory = around.directory
  visits : ∀ path, around.Reached start path → around.projectKey path ≠ key →
    other.visit path = (around.visit path).omit around key

theorem Omits.projectKey_eq (omits : around.Omits other start key) (path : Path) :
    other.projectKey path = around.projectKey path := by
  unfold projectKey absolute
  rw [omits.directory]

theorem omitted_cons_of_eq (named : around.projectKey path = key) (queue : List Path) :
    around.omitted key (path :: queue) = around.omitted key queue :=
  List.filter_cons_of_neg (by simpa using named)

theorem omitted_cons_of_ne (different : around.projectKey path ≠ key) (queue : List Path) :
    around.omitted key (path :: queue) = path :: around.omitted key queue :=
  List.filter_cons_of_pos (by simpa using different)

theorem omitted_append (around : Surroundings) (key : Path) (queue rest : List Path) :
    around.omitted key (queue ++ rest) = around.omitted key queue ++ around.omitted key rest :=
  List.filter_append ..

theorem references_omit (around : Surroundings) (key : Path) (visit : Visit) :
    (visit.omit around key).project?.toList.flatMap Project.references =
      around.omitted key (visit.project?.toList.flatMap Project.references) := by
  cases visit <;> simp [Visit.omit, Visit.project?, Project.omit, omitted]

theorem omit_eq_ended_iff (around : Surroundings) (key : Path) {visit : Visit} {fault : LoadFault} :
    visit.omit around key = .ended fault ↔ visit = .ended fault := by
  cases visit <;> simp [Visit.omit]

theorem Omits.look (omits : around.Omits other start key) (reached : around.Reached start path)
    (different : around.projectKey path ≠ key) {others : List Path} (new : around.projectKey path ∉ others)
    (whole : ∀ fault, around.visit path ≠ .ended fault) {events : List LoadEvent} {fault : Option LoadFault}
    (loads : other.Loads (around.projectKey path :: others)
      (around.omitted key (queue ++ (around.visit path).project?.toList.flatMap Project.references))
      ⟨events.map (LoadEvent.omit around key), fault⟩) :
    other.Loads others (around.omitted key (path :: queue))
      ⟨((around.visit path).events ++ events).map (LoadEvent.omit around key), fault⟩ := by
  have same := omits.visits path reached different
  rw [← omits.projectKey_eq] at new
  rw [← omits.projectKey_eq, omitted_append, ← references_omit, ← same] at loads
  rw [omitted_cons_of_ne different, List.map_append, ← events_omit, ← same]
  refine .look new (fun fault ended => ?_) loads
  rw [same, omit_eq_ended_iff] at ended
  exact whole fault ended

/-- Leaving out what is passed over takes away one warning at most, and what was seen is not told. -/
theorem Loads.omit (omits : around.Omits other start key)
    (skips : ∀ path, around.Reached start path → around.projectKey path = key →
      ∃ message, around.visit path = .skipped message)
    (loads : around.Loads seen queue loading) (within : ∀ path ∈ queue, around.Reached start path)
    (others : List Path) (alike : ∀ path, around.projectKey path ≠ key →
      (around.projectKey path ∈ others ↔ around.projectKey path ∈ seen)) :
    ∃ before told after, loading.events = before ++ told ++ after ∧ (key ∈ seen → told = []) ∧
      (told = [] ∨ ∃ message, told = [.warned message]) ∧
      other.Loads others (around.omitted key queue)
        ⟨(before ++ after).map (LoadEvent.omit around key), loading.fault⟩ := by
  induction loads generalizing others with
  | done => exact ⟨[], [], [], rfl, fun _ => rfl, .inl rfl, .done⟩
  | @pass seen path queue loading known rest ih =>
    obtain ⟨before, told, after, events, silent, one, loads⟩ :=
      ih (fun other member => within other (List.mem_cons_of_mem _ member)) others alike
    refine ⟨before, told, after, events, silent, one, ?_⟩
    by_cases named : around.projectKey path = key
    · rw [omitted_cons_of_eq named]
      exact loads
    · rw [omitted_cons_of_ne named]
      refine .pass ?_ loads
      rw [omits.projectKey_eq]
      exact (alike path named).mpr known
  | @stop seen path queue fault new ends =>
    have reached := within path List.mem_cons_self
    have named : around.projectKey path ≠ key := by
      intro same
      obtain ⟨message, skipped⟩ := skips path reached same
      cases ends.symm.trans skipped
    refine ⟨[], [], [], rfl, fun _ => rfl, .inl rfl, ?_⟩
    rw [omitted_cons_of_ne named]
    refine .stop ?_ ((omits.visits path reached named).trans ((omit_eq_ended_iff around key).mpr ends))
    rw [omits.projectKey_eq]
    exact fun member => new ((alike path named).mp member)
  | @look seen path queue loading new whole rest ih =>
    have reached := within path List.mem_cons_self
    have queued := forall_mem_look (Reached.closed around start) within
    by_cases named : around.projectKey path = key
    · -- the one warning: what is left has seen the key
      obtain ⟨message, skipped⟩ := skips path reached named
      obtain ⟨before, told, after, events, silent, _, loads⟩ :=
        ih queued others fun path apart => by
          rw [alike path apart, named, List.mem_cons]
          exact ⟨.inr, fun seen => seen.resolve_left apart⟩
      rw [silent (named ▸ List.mem_cons_self), List.append_nil] at events
      refine ⟨[], [.warned message], before ++ after, ?_, ?_, .inr ⟨message, rfl⟩, ?_⟩
      · rw [Loading.after, events, skipped]
        rfl
      · exact fun seen => absurd (named ▸ seen) new
      · rw [omitted_cons_of_eq named]
        simpa [skipped, Visit.project?, Loading.after] using loads
    · obtain ⟨before, told, after, events, silent, one, loads⟩ :=
        ih queued (around.projectKey path :: others) fun later apart => by
          rw [List.mem_cons, List.mem_cons, alike later apart]
      refine ⟨(around.visit path).events ++ before, told, after, ?_, ?_, one, ?_⟩
      · simp [Loading.after, events]
      · exact fun seen => silent (List.mem_cons_of_mem _ seen)
      · rw [List.append_assoc]
        exact omits.look reached named (fun member => new ((alike path named).mp member)) whole loads

theorem projects_omit (around : Surroundings) (key : Path) (events : List LoadEvent)
    (fault : Option LoadFault) : (Loading.mk (events.map (LoadEvent.omit around key)) fault).projects =
      (Loading.mk events fault).projects.map (Project.omit around key) := by
  unfold Loading.projects
  rw [List.filterMap_map, List.map_filterMap]
  congr 1
  funext event
  cases event <;> rfl

/-- A path that is passed over costs one warning: without it the same projects load in the same order, and
all else is told. -/
theorem load_omit (settled : around.Settled) (proper : ∀ path ∈ start, path.Proper)
    (omits : around.Omits other start key)
    (skips : ∀ path, around.Reached start path → around.projectKey path = key →
      ∃ message, around.visit path = .skipped message) :
    ∃ before told after, (around.load start).events = before ++ told ++ after ∧
      (told = [] ∨ ∃ message, told = [.warned message]) ∧
      other.load (around.omitted key start) =
        ⟨(before ++ after).map (LoadEvent.omit around key), (around.load start).fault⟩ ∧
      (other.load (around.omitted key start)).projects =
        (around.load start).projects.map (Project.omit around key) := by
  obtain ⟨before, told, after, events, _, one, loads⟩ :=
    (loads_load settled proper).omit omits skips (fun _ => .start) [] (fun _ _ => Iff.rfl)
  have kept : ∀ path ∈ around.omitted key start, path.Proper :=
    fun path member => proper path (List.mem_filter.mp member).1
  have same := (loads_load omits.settled kept).unique loads
  refine ⟨before, told, after, events, one, same, ?_⟩
  rw [same, projects_omit]
  unfold Loading.projects
  rw [events]
  rcases one with rfl | ⟨message, rfl⟩ <;> simp

end Surroundings
end UsingCensus

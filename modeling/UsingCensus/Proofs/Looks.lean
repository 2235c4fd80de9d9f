import UsingCensus.Proofs.Accounts
import UsingCensus.Proofs.GrownListings
import UsingCensus.Proofs.Openings
import UsingCensus.Proofs.Verdicts

namespace UsingCensus

/-- A question that is put to the file tree. -/
inductive Look where
  /-- What does the path lead to? -/
  | path (text : String)
  /-- Which file does the directory stand for? -/
  | descriptor (directory : Path)
  /-- Which sources lie below the directory? -/
  | sources (directory : Path)
  /-- Which paths does the item list stand for? -/
  | items (directory : Path) (list : String)
  deriving DecidableEq, Repr

namespace Course

theorem locate_of_yields {modules : List GrammarModule} {disturbance : Option Disturbance} {name : String}
    {grammar : Grammar} {before after : Progress}
    (finds : (findGrammar modules disturbance name).Yields before grammar after) :
    Grammar.locate modules name = .ok grammar := by
  unfold findGrammar at finds
  split at finds
  · obtain ⟨_, _, thrown, _⟩ := yields_bind_iff.mp finds
    exact absurd thrown not_yields_throw
  · obtain ⟨found, _, attempted, finds⟩ := yields_bind_iff.mp finds
    obtain ⟨_, _, _, finds⟩ := yields_bind_iff.mp finds
    obtain ⟨_, _, _, finds⟩ := yields_bind_iff.mp finds
    obtain ⟨_, _, _, finds⟩ := yields_bind_iff.mp finds
    rw [(yields_pure_iff.mp finds).1]
    exact (yields_attempt_iff.mp attempted).1

end Course

namespace Surroundings

open ProjectFile

/-- Does a question have the same answer elsewhere? -/
def Shows (around other : Surroundings) : Look → Prop
  | .path text => other.find true text = around.find true text
  | .descriptor directory => other.firstDescriptor? directory = around.firstDescriptor? directory
  | .sources directory => other.defaultItems directory = around.defaultItems directory
  | .items directory list => other.itemPaths directory list = around.itemPaths directory list

instance (around other : Surroundings) : (look : Look) → Decidable (around.Shows other look)
  | .path text => inferInstanceAs (Decidable (other.find true text = around.find true text))
  | .descriptor directory =>
    inferInstanceAs (Decidable (other.firstDescriptor? directory = around.firstDescriptor? directory))
  | .sources directory => inferInstanceAs (Decidable (other.defaultItems directory = around.defaultItems directory))
  | .items directory list =>
    inferInstanceAs (Decidable (other.itemPaths directory list = around.itemPaths directory list))

/-! ### What is looked at -/

def targetLooks (around : Surroundings) (text : String) : List Look :=
  .path text ::
    if around.isDirectory text && !Target.isDescriptor text then [.descriptor (Path.ofString text)] else []

def configurationLooks (around : Surroundings) (path : Path) : List Look :=
  match around.expandHome path with
  | .error _ => []
  | .ok expanded => .path expanded.toString ::
    match around.configurationFile path with
    | .error _ => []
    | .ok file => [.path file.toString]

/-- `Exclude` is not looked at without `Include`. -/
def itemLooks (directory : Path) (item : Xml.Element) : List Look :=
  (if attributeText item "Include" = "" then [] else
    [.items directory (attributeText item "Include"), .items directory (attributeText item "Exclude")]) ++
    [.items directory (attributeText item "Remove")]

def describeLooks (path : Path) (language : Language) (root : Xml.Element) : List Look :=
  (if language = .csharp && isSdkStyle root && defaultItemsEnabled root then [.sources path.parent] else []) ++
    (root.named (itemName root "Compile")).flatMap (itemLooks path.parent) ++
    (root.named (itemName root "ProjectReference")).map fun item =>
      .items path.parent (attributeText item "Include")

def evaluateLooks (around : Surroundings) (path : Path) : List Look :=
  match Language.of? (around.projectKey path) with
  | none => []
  | some language => .path (around.projectKey path).toString ::
    match around.read (around.projectKey path).toString with
    | .error _ => []
    | .ok bytes =>
      match Xml.parse bytes with
      | .error _ => []
      | .ok root => describeLooks (around.projectKey path) language root

def visitLooks (around : Surroundings) (path : Path) : List Look :=
  .path path.toString :: if around.isFile path.toString then around.evaluateLooks path else []

/-- Paths up to the first that ends loading. -/
def upToEnd (around : Surroundings) : List Path → List Path
  | [] => []
  | path :: rest =>
    match around.visit path with
    | .ended _ => [path]
    | _ => path :: around.upToEnd rest

def workspaceLooks (around : Surroundings) (file : Path) : List Look :=
  (if Text.lowerText file.suffix = ".sln" then [.path file.toString] else []) ++
    (around.upToEnd (around.discovered (around.startPaths file) (around.openWorkspace file).projects)).flatMap
      around.visitLooks

/-- Nothing is read if loading ends before its end. -/
def documentLooks (around : Surroundings) (selection : Selection) (file : Path) : List Look :=
  match (around.openWorkspace file).fault with
  | some _ => []
  | none => (around.documentsOf selection file).map fun document => .path document.toString

/-- Nothing is looked at without a grammar. -/
def censusLooks (around : Surroundings) (modules : List GrammarModule) (options : CensusOptions)
    (target : Target) : List Look :=
  match Grammar.locate modules options.grammar with
  | .error _ => []
  | .ok _ => around.workspaceLooks target.resolved ++ around.documentLooks options.selection target.resolved

/-! ### What follows from it -/

variable {grown : Location → Prop} {around other : Surroundings}

theorem Shows.probe_eq {text : String} (shows : around.Shows other (.path text)) :
    other.probe text = around.probe text := by
  unfold probe
  rw [show other.find true text = around.find true text from shows]

theorem Shows.read_eq {text : String} (shows : around.Shows other (.path text)) :
    other.read text = around.read text := by
  unfold Surroundings.read
  rw [show other.find true text = around.find true text from shows]

theorem Shows.isFile_eq {text : String} (shows : around.Shows other (.path text)) :
    other.isFile text = around.isFile text := by
  unfold isFile
  rw [show other.find true text = around.find true text from shows]

namespace Grown

/-! ### Targets and configurations -/

theorem resolveTarget_eq (grows : Grown grown around other) {text : String}
    (shows : ∀ look ∈ around.targetLooks text, around.Shows other look) :
    other.resolveTarget text = around.resolveTarget text := by
  obtain ⟨found, chosen⟩ := List.forall_mem_cons.mp shows
  unfold resolveTarget pathExists isValidPath locateDescriptor
  simp only [grows.isDirectory_eq, found.isFile_eq, grows.expandHome_eq, funext grows.canonical_eq]
  by_cases spelled : Target.isDescriptor text = true
  · simp only [if_pos spelled]
  · by_cases directory : around.isDirectory text = true
    · have first : other.firstDescriptor? (Path.ofString text) = around.firstDescriptor? (Path.ofString text) :=
        chosen (.descriptor (Path.ofString text)) (by simp [spelled, directory])
      rw [first]
    · simp [spelled, directory]

theorem canonicalOf_eq (grows : Grown grown around other) (path : Path) :
    other.canonicalOf path = around.canonicalOf path := by
  unfold canonicalOf
  rw [grows.canonical_eq]

theorem configuration_eq (grows : Grown grown around other) {path : Path} {required : Bool}
    (shows : ∀ look ∈ around.configurationLooks path, around.Shows other look) :
    other.configuration path required = around.configuration path required := by
  unfold configurationLooks at shows
  have file : other.configurationFile path = around.configurationFile path := by
    unfold configurationFile
    rw [grows.expandHome_eq]
    cases expanded : around.expandHome path with
    | error fault => rfl
    | ok home =>
      rw [expanded] at shows
      have probed := (List.forall_mem_cons.mp shows).1
      simp only [probed.probe_eq, grows.canonicalOf_eq]
  unfold configuration
  rw [file]
  cases stands : around.configurationFile path with
  | error fault => rfl
  | ok file =>
    have shown : around.Shows other (.path file.toString) := by
      cases expanded : around.expandHome path with
      | error fault =>
        unfold configurationFile at stands
        rw [expanded] at stands
        cases stands
      | ok home =>
        rw [expanded, stands] at shows
        exact shows _ (by simp)
    simp only [bind, Except.bind, readConfiguration, shown.probe_eq, shown.read_eq, grows.canonicalOf_eq]

/-! ### Projects -/

theorem itemPaths_empty (around : Surroundings) (directory : Path) : around.itemPaths directory "" = [] := rfl

theorem includedBy_eq {directory : Path} {item : Xml.Element}
    (shows : ∀ look ∈ if attributeText item "Include" = "" then [] else
      [Look.items directory (attributeText item "Include"), .items directory (attributeText item "Exclude")],
      around.Shows other look) :
    other.includedBy directory item = around.includedBy directory item := by
  unfold includedBy
  by_cases none : attributeText item "Include" = ""
  · rw [none, itemPaths_empty, itemPaths_empty]
    rfl
  · rw [if_neg none] at shows
    obtain ⟨one, two⟩ := List.forall_mem_cons.mp shows
    have included : other.itemPaths directory (attributeText item "Include") =
        around.itemPaths directory (attributeText item "Include") := one
    have excluded : other.itemPaths directory (attributeText item "Exclude") =
        around.itemPaths directory (attributeText item "Exclude") := two _ List.mem_cons_self
    rw [included, excluded]

theorem describe_eq {path : Path} {language : Language} {root : Xml.Element}
    (shows : ∀ look ∈ describeLooks path language root, around.Shows other look) :
    other.describe path language root = around.describe path language root := by
  unfold describeLooks at shows
  obtain ⟨⟨sources, compiled⟩, referred⟩ : ((∀ look ∈ _, _) ∧ ∀ look ∈ _, _) ∧ ∀ look ∈ _, _ :=
    ⟨List.forall_mem_append.mp (List.forall_mem_append.mp shows).1, (List.forall_mem_append.mp shows).2⟩
  have starting : other.startingDocuments language path.parent root =
      around.startingDocuments language path.parent root := by
    unfold startingDocuments
    split
    · rename_i applies
      rw [if_pos applies] at sources
      exact sources (.sources path.parent) List.mem_cons_self
    · rfl
  have applied (documents : List Path) (item : Xml.Element)
      (member : item ∈ root.named (itemName root "Compile")) :
      other.applyItem path.parent documents item = around.applyItem path.parent documents item := by
    have looks : ∀ look ∈ itemLooks path.parent item, around.Shows other look := fun look listed =>
      compiled look (List.mem_flatMap.mpr ⟨item, member, listed⟩)
    rw [itemLooks, List.forall_mem_append, List.forall_mem_singleton] at looks
    have removed : other.removedBy path.parent item = around.removedBy path.parent item := looks.2
    unfold applyItem
    rw [removed, includedBy_eq looks.1]
  have references : (root.named (itemName root "ProjectReference")).flatMap (fun item =>
      other.itemPaths path.parent (attributeText item "Include")) =
        (root.named (itemName root "ProjectReference")).flatMap fun item =>
          around.itemPaths path.parent (attributeText item "Include") :=
    List.flatMap_congr fun item member => referred _ (List.mem_map_of_mem member)
  unfold describe
  simp only [starting, references]
  rw [List.foldl_ext _ _ _ applied]

theorem evaluate_eq (grows : Grown grown around other) {path : Path}
    (shows : ∀ look ∈ around.evaluateLooks path, around.Shows other look) :
    other.evaluate path = around.evaluate path := by
  have key : (other.absolute path).normal = around.projectKey path := grows.projectKey_eq path
  have same : (around.absolute path).normal = around.projectKey path := rfl
  unfold evaluateLooks at shows
  unfold evaluate
  simp only [key, same]
  cases known : Language.of? (around.projectKey path) with
  | none => rfl
  | some language =>
    rw [known] at shows
    obtain ⟨file, described⟩ := List.forall_mem_cons.mp shows
    dsimp only
    rw [file.read_eq]
    cases holds : around.read (around.projectKey path).toString with
    | error fault => cases fault <;> rfl
    | ok bytes =>
      rw [holds] at described
      dsimp only
      cases parsed : Xml.parse bytes with
      | error fault => cases fault <;> rfl
      | ok root =>
        dsimp only at described
        rw [parsed] at described
        dsimp only
        rw [describe_eq described]

theorem visit_eq (grows : Grown grown around other) {path : Path}
    (shows : ∀ look ∈ around.visitLooks path, around.Shows other look) :
    other.visit path = around.visit path := by
  obtain ⟨found, evaluated⟩ := List.forall_mem_cons.mp shows
  unfold visit
  rw [found.probe_eq]
  split
  · rfl
  · rename_i bytes probed
    have file : around.isFile path.toString = true := by
      unfold probe at probed
      unfold isFile
      split at probed <;> simp_all
    rw [if_pos file] at evaluated
    rw [grows.evaluate_eq evaluated]
  · rfl

/-! ### Workspaces -/

/-- A queue is loaded alike if each path that is looked at is visited alike. -/
theorem loads_of_loads (grows : Grown grown around other) {seen queue : List Path} {loading : Loading}
    (loads : around.Loads seen queue loading)
    (same : ∀ path ∈ around.upToEnd (around.unseen seen (queue ++ loading.projects.flatMap Project.references)),
      other.visit path = around.visit path) : other.Loads seen queue loading := by
  induction loads with
  | done => exact .done
  | @pass seen path queue loading known rest ih =>
    rw [List.cons_append, unseen_cons_of_seen known] at same
    exact .pass (grows.projectKey_eq path ▸ known) (ih same)
  | @stop seen path fault queue new ends =>
    rw [List.cons_append, unseen_cons new, upToEnd, ends] at same
    refine .stop (grows.projectKey_eq path ▸ new) ?_
    rw [same path List.mem_cons_self, ends]
  | @look seen path queue loading new whole rest ih =>
    rw [unseen_look new] at same
    have goes (others : List Path) : around.upToEnd (path :: others) = path :: around.upToEnd others := by
      rw [upToEnd]
      cases visited : around.visit path with
      | ended fault => exact absurd visited (whole fault)
      | _ => rfl
    rw [goes] at same
    obtain ⟨here, later⟩ := List.forall_mem_cons.mp same
    have going := ih later
    rw [← here, ← grows.projectKey_eq path] at going
    rw [← here]
    exact .look (grows.projectKey_eq path ▸ new) (here ▸ whole) going

theorem load_eq (grows : Grown grown around other) (settled : around.Settled) {start : List Path}
    (proper : ∀ path ∈ start, path.Proper)
    (same : ∀ path ∈ around.upToEnd (around.discovered start (around.load start).projects),
      other.visit path = around.visit path) : other.load start = around.load start :=
  (loads_load (grows.settled settled) proper).unique (grows.loads_of_loads (loads_load settled proper) same)

theorem openWorkspace_eq (grows : Grown grown around other) (settled : around.Settled) {file : Path}
    (proper : file.Proper) (shows : ∀ look ∈ around.workspaceLooks file, around.Shows other look) :
    other.openWorkspace file = around.openWorkspace file := by
  obtain ⟨solution, visited⟩ := List.forall_mem_append.mp shows
  have entries (isSolution : Text.lowerText file.suffix = ".sln") :
      other.solutionEntries file = around.solutionEntries file := by
    rw [if_pos isSolution, List.forall_mem_singleton] at solution
    unfold solutionEntries
    rw [solution.read_eq]
  by_cases speakable : Unspeakable file
  · unfold openWorkspace
    rw [if_pos speakable.1, if_pos speakable.1, entries speakable.1,
      (solutionEntries_eq_embeddedNull_iff around).mpr speakable.2]
  · have starts : other.startPaths file = around.startPaths file := by
      unfold startPaths
      split
      · rename_i isSolution
        rw [entries isSolution]
      · rfl
    have told : other.announced file = around.announced file := by
      unfold announced
      rw [starts]
      split
      · rename_i isSolution
        rw [entries isSolution]
      · rfl
    rw [around.openWorkspace_eq speakable, projects_announced] at visited
    have loaded : other.load (around.startPaths file) = around.load (around.startPaths file) :=
      grows.load_eq settled (isStart_startPaths around proper).spelled.1 fun path looked =>
        grows.visit_eq fun look listed => visited look (List.mem_flatMap.mpr ⟨path, looked, listed⟩)
    rw [other.openWorkspace_eq speakable, around.openWorkspace_eq speakable, starts, told, loaded]

/-! ### Censuses -/

theorem importsOf_eq {document : Path} (shows : around.Shows other (.path document.toString)) :
    other.importsOf document = around.importsOf document := by
  unfold importsOf readSource
  rw [shows.read_eq]

theorem gatherAll_eq {disturbance : Option Disturbance} {workers : Option Int} {documents : List Path}
    (same : ∀ document ∈ documents, other.importsOf document = around.importsOf document) :
    Course.gatherAll other disturbance workers documents = Course.gatherAll around disturbance workers documents := by
  have folded (harvest : Harvest) : documents.foldlM (Course.gather other disturbance) harvest =
      documents.foldlM (Course.gather around disturbance) harvest := by
    induction documents generalizing harvest with
    | nil => rfl
    | cons document rest ih =>
      obtain ⟨here, later⟩ := List.forall_mem_cons.mp same
      have gathered : Course.gather other disturbance harvest document =
          Course.gather around disturbance harvest document := by
        unfold Course.gather
        rw [here]
      rw [List.foldlM_cons, List.foldlM_cons, gathered]
      exact Course.bind_congr_of_yields fun _ value _ _ => ih later value
  unfold Course.gatherAll
  rw [folded]

theorem census_eq (grows : Grown grown around other) (settled : around.Settled)
    {modules : List GrammarModule} {disturbance : Option Disturbance} {options : CensusOptions} {target : Target}
    (proper : target.resolved.Proper)
    (shows : ∀ look ∈ around.censusLooks modules options target, around.Shows other look) :
    other.census modules disturbance options target = around.census modules disturbance options target := by
  unfold Surroundings.census
  refine Course.bind_congr_of_yields fun _ _ _ _ => ?_
  refine Course.bind_congr_of_yields fun _ _ _ _ => ?_
  refine Course.bind_congr_of_yields fun _ grammar _ finds => ?_
  unfold censusLooks at shows
  rw [Course.locate_of_yields finds] at shows
  obtain ⟨workspace, documents⟩ := List.forall_mem_append.mp shows
  have opened := grows.openWorkspace_eq settled proper workspace
  have loads : Course.load other disturbance target.resolved = Course.load around disturbance target.resolved := by
    unfold Course.load
    rw [opened]
  rw [loads]
  refine Course.bind_congr_of_yields fun _ loading _ loads => ?_
  refine Course.bind_congr_of_yields fun _ chosen _ selects => ?_
  obtain ⟨same, ends⟩ := Course.yields_load loads
  have counts := Course.yields_select selects
  unfold documentLooks at documents
  rw [← same, ends] at documents
  have read : Course.gatherAll other disturbance options.workers chosen =
      Course.gatherAll around disturbance options.workers chosen := by
    refine gatherAll_eq fun document member => importsOf_eq (documents _ (List.mem_map_of_mem ?_))
    rwa [documentsOf, ← same, ← counts]
  rw [read]

end Grown
end Surroundings

namespace Session

open Surroundings

variable {grown : Location → Prop} {around other : Surroundings} {modules : List GrammarModule}
  {disturbance : Option Disturbance} {arguments : CommandLine.Arguments}

def configurationPath (around : Surroundings) (arguments : CommandLine.Arguments) : Path :=
  match arguments.config.filter (· ≠ "") with
  | some file => Path.ofString file
  | none =>
    let raw := Path.ofString arguments.path
    if around.isDirectory arguments.path then raw else raw.parent

/-- What a run with given arguments looks at, if nothing disturbs it. -/
def looks (around : Surroundings) (modules : List GrammarModule) (arguments : CommandLine.Arguments) : List Look :=
  around.targetLooks arguments.path ++
    match around.resolveTarget arguments.path with
    | .error _ => []
    | .ok target => around.configurationLooks (configurationPath around arguments) ++
      match around.configurationFor arguments with
      | .error _ => []
      | .ok configuration => around.censusLooks modules (options arguments configuration) target

theorem configurationFor_eq (grows : Grown grown around other)
    (shows : ∀ look ∈ around.configurationLooks (configurationPath around arguments), around.Shows other look) :
    other.configurationFor arguments = around.configurationFor arguments := by
  unfold configurationFor
  unfold configurationPath at shows
  rw [grows.isDirectory_eq]
  split
  · rename_i file asked
    rw [asked] at shows
    exact grows.configuration_eq shows
  · rename_i asked
    rw [asked] at shows
    exact grows.configuration_eq shows

/-- A run looks for the same grammar wherever it finds the same. -/
theorem grammarSought?_eq (grows : Grown grown around other)
    (shows : ∀ look ∈ looks around modules arguments, around.Shows other look) :
    grammarSought? other disturbance arguments = grammarSought? around disturbance arguments := by
  obtain ⟨targets, later⟩ := List.forall_mem_append.mp shows
  have resolved := grows.resolveTarget_eq targets
  unfold grammarSought?
  rw [resolved]
  cases resolves : around.resolveTarget arguments.path with
  | error fault => rfl
  | ok target =>
    rw [resolves] at later
    have same := configurationFor_eq grows (List.forall_mem_append.mp later).1
    dsimp only
    rw [Session.configuration_eq (resolved.trans resolves), Session.configuration_eq resolves, same]

end Session
end UsingCensus

import Mathlib.Algebra.Ring.Nat
import Waymark.Proofs.Metrics
import Waymark.Proofs.Service.Run

/-! # What the counters say

A process creates a registry, reloads and publishes, and resolves and builds through the current
router or through one that was kept. The counters of its report say how often each of this
happened, and how it ended; and the gauge of routes is the size of the live table, after every
step.
-/

namespace Waymark

/-! ## How building a URL ends -/

namespace Build

/-- What building a URL does, and how it ends: a required parameter is missing and nothing is
counted; or the URL is written; or the entity resolver is asked for it. -/
inductive Ends : List BuildStep → Except RoutingError String → Prop
  | unsupplied (routeId keyword : String) : Ends [] (.error (.missingParameter routeId keyword))
  | written {mode : BuildMode} (hmode : mode ≠ .canonical) (url : String) :
      Ends [.mode mode] (.ok url)
  | asked (call : EntityCall) {outcome : Except RoutingError String}
      (hsupplied : ∀ routeId keyword, outcome ≠ .error (.missingParameter routeId keyword)) :
      Ends [.mode .canonical, .asked call] outcome

variable {entities : EntityResolver} {scope : Scope} {routeId : String} {params : Params}

theorem Ends.map {steps : List BuildStep} {outcome : Except RoutingError String}
    (h : Ends steps outcome) (f : String → String) : Ends steps (outcome.map f) := by
  cases h with
  | unsupplied routeId keyword => exact .unsupplied routeId keyword
  | written hmode url => exact .written hmode (f url)
  | asked call hsupplied =>
      refine .asked call fun routeId keyword heq => ?_
      cases outcome with
      | error cause => exact hsupplied routeId keyword heq
      | ok url => cases heq

theorem ends_canonicalUrl (kind : EntityKind) :
    Ends (canonicalUrl entities scope routeId kind params).trace
      (canonicalUrl entities scope routeId kind params).outcome := by
  unfold canonicalUrl
  cases params.get? "id" with
  | none => exact .unsupplied routeId "id"
  | some id =>
      refine .asked _ fun other keyword => ?_
      dsimp only
      cases entities.reverse id kind scope .canonical with
      | error cause => nofun
      | ok url? => cases url? <;> nofun

theorem ends_knownUrl (route : Route) (options : BuildOptions) :
    Ends (knownUrl entities scope routeId route params options).trace
      (knownUrl entities scope routeId route params options).outcome := by
  unfold knownUrl
  split
  next kind _ => exact ends_canonicalUrl kind
  next =>
    split
    next keyword _ => exact .unsupplied route.routeId keyword
    next =>
      split
      next => exact .written (by decide) _
      next => exact .written (by decide) _

theorem ends_buildUrl (table : Table) (options : BuildOptions) :
    Ends (buildUrl table entities scope routeId params options).trace
      (buildUrl table entities scope routeId params options).outcome := by
  unfold buildUrl
  dsimp only
  refine Ends.map ?_ _
  cases table.get? scope routeId with
  | none => exact .written (by decide) _
  | some handle => exact ends_knownUrl handle.route options

end Build

/-! ## What clients see -/

/-- What a client gets from an action: how a reload, a resolution or a build ended, and what a build
asked the entity resolver. -/
inductive Answer where
  | reloaded (outcome : Except CollaboratorError Unit)
  | resolved (outcome : Except RoutingError Resolution)
  | built (outcome : Except RoutingError String) (calls : List EntityCall)

namespace Answer

/-- Whether a request was resolved. -/
def isResolved : Answer → Bool
  | resolved _ => true
  | _ => false

/-- Whether a request was resolved and ended in a certain way. -/
def endedAs : Outcome → Answer → Bool
  | .matched source, resolved (.ok (.matched found)) => found.source = source
  | .notFound, resolved (.ok .notFound) => true
  | .error, resolved (.error _) => true
  | _, _ => false

/-- Whether a URL was built, or was not for another reason than a missing parameter. -/
def isSupplied : Answer → Bool
  | built (.error (.missingParameter _ _)) _ => false
  | built _ _ => true
  | _ => false

/-- Whether building a URL reached the entity resolver. -/
def asksResolver : Answer → Bool
  | built _ calls => calls ≠ []
  | _ => false

/-- Whether a reload succeeded, or whether it failed. -/
def reloadedAs : Bool → Answer → Bool
  | true, reloaded (.ok _) => true
  | false, reloaded (.error _) => true
  | _, _ => false

theorem isSupplied_built {outcome : Except RoutingError String} (calls : List EntityCall)
    (h : ∀ routeId keyword, outcome ≠ .error (.missingParameter routeId keyword)) :
    isSupplied (.built outcome calls) = true := by
  unfold isSupplied
  split
  next heq =>
    cases heq
    exact absurd rfl (h _ _)
  next => rfl
  next hnot => exact absurd rfl (hnot _ _)

theorem endedAs_resolved (outcome : Outcome) (result : Except RoutingError Resolution) :
    endedAs outcome (.resolved result) = decide (Outcome.ofResult result = outcome) := by
  rcases result with cause | found | _
  · cases outcome <;> rfl
  · cases outcome with
    | matched source => simp [endedAs, Outcome.ofResult]
    | _ => rfl
  · cases outcome <;> rfl

/-- A request that was resolved ended in exactly one way. -/
theorem sum_endedAs (answers : List Answer) :
    (Outcome.all.map fun outcome => answers.countP (endedAs outcome)).sum =
      answers.countP isResolved := by
  induction answers with
  | nil => rfl
  | cons answer answers ih =>
      simp only [Outcome.all, List.map_cons, List.map_nil, List.sum_cons, List.sum_nil,
        List.countP_cons] at ih ⊢
      cases answer with
      | reloaded outcome => simpa [endedAs, isResolved] using ih
      | built outcome calls => simpa [endedAs, isResolved] using ih
      | resolved result =>
          simp only [endedAs_resolved, isResolved]
          rcases Outcome.ofResult result with source | _ | _
          · cases source <;> simp <;> omega
          · simp
            omega
          · simp
            omega

end Answer

/-! ## What one step counts -/

/-- What a step does to the live snapshot, what it answers, and what it counts. -/
inductive Recorded : (before after : Option Snapshot) → Option Answer → List Event → Prop
  /-- Nothing is published, though routes may be compiled, and left out. -/
  | rejected (current : Option Snapshot) (count : Nat) :
      Recorded current current none (Registry.rejections count)
  /-- A snapshot is published, and the routes that it was compiled without were left out. -/
  | published (before : Option Snapshot) (count : Nat) (snapshot : Snapshot) :
      Recorded before (some snapshot) none
        (Registry.rejections count ++ [.routes snapshot.table.size])
  | reloaded (before : Option Snapshot) (count : Nat) (snapshot : Snapshot) :
      Recorded before (some snapshot) (some (.reloaded (.ok ())))
        (Registry.rejections count ++ [.routes snapshot.table.size, .reload true])
  | notReloaded (current : Option Snapshot) (count : Nat) (cause : CollaboratorError) :
      Recorded current current (some (.reloaded (.error cause)))
        (Registry.rejections count ++ [.reload false])
  | resolved (current : Option Snapshot) (outcome : Except RoutingError Resolution) :
      Recorded current current (some (.resolved outcome)) [.resolution (.ofResult outcome)]
  | built (current : Option Snapshot) {steps : List BuildStep}
      {outcome : Except RoutingError String} (hends : Build.Ends steps outcome) :
      Recorded current current (some (.built outcome (Service.callsOf steps)))
        (Service.eventsOf steps)

/-- Events that count the answers that clients got: how often each came, and how it ended. -/
structure Records (answers : List Answer) (events : List Event) : Prop where
  resolutions : ∀ outcome,
    events.count (.resolution outcome) = answers.countP (Answer.endedAs outcome)
  builds : (BuildMode.all.map fun mode => events.count (.build mode)).sum =
    answers.countP Answer.isSupplied
  canonical : events.count (.build .canonical) = answers.countP Answer.asksResolver
  reloads : ∀ succeeded,
    events.count (.reload succeeded) = answers.countP (Answer.reloadedAs succeeded)

namespace Records

theorem nil : Records [] [] where
  resolutions _ := rfl
  builds := rfl
  canonical := rfl
  reloads _ := rfl

theorem append {answers after : List Answer} {events more : List Event} (h : Records answers events)
    (hmore : Records after more) : Records (answers ++ after) (events ++ more) where
  resolutions outcome := by
    rw [List.count_append, List.countP_append, h.resolutions, hmore.resolutions]
  builds := by
    rw [List.countP_append, ← h.builds, ← hmore.builds]
    simp only [BuildMode.all, List.map_cons, List.map_nil, List.sum_cons, List.sum_nil,
      List.count_append]
    omega
  canonical := by rw [List.count_append, List.countP_append, h.canonical, hmore.canonical]
  reloads succeeded := by
    rw [List.count_append, List.countP_append, h.reloads, hmore.reloads]

theorem rejections (count : Nat) : Records [] (Registry.rejections count) := by
  have hzero : ∀ e, e ≠ .rejectedTemplate → (Registry.rejections count).count e = 0 := by
    intro e hne
    rw [Registry.rejections, List.count_replicate, if_neg (by simpa using hne.symm)]
  refine ⟨fun _ => hzero _ nofun, ?_, hzero _ nofun, fun _ => hzero _ nofun⟩
  simp [hzero]

theorem routes (count : Nat) : Records [] [.routes count] where
  resolutions _ := rfl
  builds := rfl
  canonical := rfl
  reloads _ := rfl

theorem reload (outcome : Except CollaboratorError Unit) :
    Records [.reloaded outcome] [.reload outcome.isOk] where
  resolutions outcome := by cases outcome <;> rfl
  builds := rfl
  canonical := rfl
  reloads succeeded := by cases outcome <;> cases succeeded <;> rfl

theorem resolution (outcome : Except RoutingError Resolution) :
    Records [.resolved outcome] [.resolution (.ofResult outcome)] where
  resolutions other := by
    rw [List.countP_singleton, Answer.endedAs_resolved, List.count_singleton]
    simp
  builds := rfl
  canonical := rfl
  reloads succeeded := by cases succeeded <;> rfl

theorem build {steps : List BuildStep} {outcome : Except RoutingError String}
    (h : Build.Ends steps outcome) :
    Records [.built outcome (Service.callsOf steps)] (Service.eventsOf steps) := by
  cases h with
  | unsupplied routeId keyword =>
      exact ⟨fun other => by cases other <;> rfl, rfl, rfl, fun other => by cases other <;> rfl⟩
  | @written mode hmode url =>
      refine ⟨fun other => by cases other <;> rfl, ?_, ?_, fun other => by cases other <;> rfl⟩
      · cases mode <;> rfl
      · cases mode with
        | canonical => exact absurd rfl hmode
        | _ => rfl
  | asked call hsupplied =>
      refine ⟨fun other => by cases other <;> rfl, ?_, rfl, fun other => by cases other <;> rfl⟩
      rw [List.countP_singleton, if_pos (Answer.isSupplied_built _ hsupplied)]
      rfl

end Records

namespace Recorded

variable {before after : Option Snapshot} {answer? : Option Answer} {events : List Event}

/-- A step counts what it answers. -/
theorem records (h : Recorded before after answer? events) : Records answer?.toList events := by
  cases h with
  | rejected count => exact .rejections count
  | published count snapshot => exact (Records.rejections count).append (.routes _)
  | reloaded count snapshot =>
      exact (Records.rejections count).append ((Records.routes _).append (.reload (.ok ())))
  | notReloaded count cause => exact (Records.rejections count).append (.reload (.error cause))
  | resolved outcome => exact .resolution outcome
  | built hends => exact .build hends

/-- A step that publishes a snapshot sets the gauge to the size of its table, and no other step
touches the gauge. -/
theorem gauge (h : Recorded before after answer? events) {sofar : List Event}
    (hbefore : (Event.report sofar).lookup Event.routesLabel = before.map (·.table.size)) :
    (Event.report (sofar ++ events)).lookup Event.routesLabel = after.map (·.table.size) := by
  have hrejections : ∀ count, ∀ e ∈ Registry.rejections count, e ∈ Event.counters := by
    intro count e he
    rw [List.eq_of_mem_replicate he]
    decide
  cases h with
  | rejected count =>
      rw [Event.lookup_routesLabel_append_of_counters (hrejections count), hbefore]
  | published count snapshot =>
      rw [← List.append_assoc]
      exact Event.lookup_routesLabel_append nofun
  | reloaded count snapshot =>
      rw [← List.append_assoc]
      exact Event.lookup_routesLabel_append (by decide)
  | notReloaded count cause =>
      rw [← List.append_assoc, Event.lookup_routesLabel_append_of_counters (by decide),
        Event.lookup_routesLabel_append_of_counters (hrejections count), hbefore]
  | resolved outcome =>
      rw [Event.lookup_routesLabel_append_of_counters, hbefore]
      intro e he
      rw [List.mem_singleton.mp he]
      exact Event.mem_counters nofun
  | built hends =>
      rw [Event.lookup_routesLabel_append_of_counters, hbefore]
      intro e he
      obtain ⟨step, -, hstep⟩ := List.mem_filterMap.mp he
      refine Event.mem_counters ?_
      rintro count rfl
      cases step <;> cases hstep

end Recorded

namespace Service

/-- What a client gets from an action. -/
def answer? (s : Service) : Action → Option Answer
  | .reload provider settings entities => some (.reloaded (s.reload provider settings entities).1)
  | .resolve router context => some (.resolved (s.resolve (s.router router) context).1)
  | .build router scope routeId params templated anchor =>
      let url := (s.router router).build scope routeId params templated anchor
      some (.built (s.built url).1 (callsOf url.trace))
  | _ => none

/-- Every action counts what it answers, and publishes nothing unnoticed. -/
theorem recorded_step (s : Service) (action : Action) :
    ∃ events, (s.step action).events = s.events ++ events ∧
      Recorded (some s.current) (some (s.step action).current) (s.answer? action) events := by
  cases action with
  | reload provider settings entities =>
      unfold step answer? Service.reload Registry.reload
      dsimp only
      cases (Snapshot.load provider settings entities s.registry.cache).outcome with
      | ok snapshot => exact ⟨_, rfl, .reloaded _ _ snapshot⟩
      | error cause => exact ⟨_, rfl, .notReloaded _ _ cause⟩
  | load name provider settings entities =>
      unfold step
      dsimp only
      rw [load_eq]
      cases (s.loaded provider settings entities).outcome with
      | ok snapshot => exact ⟨_, rfl, .rejected _ _⟩
      | error cause => exact ⟨_, rfl, .rejected _ _⟩
  | publish name =>
      unfold step
      dsimp only
      cases s.kept.get? name with
      | some snapshot => exact ⟨_, rfl, .published _ 0 snapshot⟩
      | none => exact ⟨[], (List.append_nil _).symm, .rejected _ 0⟩
  | adopt snapshot => exact ⟨_, rfl, .published _ 0 snapshot⟩
  | keep name router => exact ⟨[], (List.append_nil _).symm, .rejected _ 0⟩
  | release name => exact ⟨[], (List.append_nil _).symm, .rejected _ 0⟩
  | resolve router context => exact ⟨_, rfl, .resolved _ _⟩
  | build router scope routeId params templated anchor =>
      exact ⟨_, rfl, .built _ (Build.ends_buildUrl _ _)⟩

end Service

/-! ## Processes -/

/-- A process that has counted events but has no registry yet, or that is in service. -/
inductive Process where
  | idle (events : List Event)
  | live (service : Service)

namespace Process

/-- What was counted. -/
def events : Process → List Event
  | idle events => events
  | live s => s.events

/-- The live snapshot. -/
def current? : Process → Option Snapshot
  | idle _ => none
  | live s => some s.current

/-- Counts events. -/
def count (p : Process) (more : List Event) : Process :=
  match p with
  | idle events => idle (events ++ more)
  | live s => live (s.count more)

/-- Takes a registry into service, in place of the one before. Routers that are kept stay. -/
def serve (p : Process) (registry : Registry) : Process :=
  match p with
  | idle events => live ⟨registry, .empty, events, []⟩
  | live s => live { s with registry }

/-- Creates a registry, which may fail. -/
def create (p : Process) (provider : Provider) (settings : Settings) (entities : EntityResolver) :
    Process :=
  let started := Registry.start provider settings entities
  match started.outcome with
  | .ok registry => (p.serve registry).count started.trace
  | .error _ => p.count started.trace

/-- What a process does. -/
inductive Action where
  | create (provider : Provider) (settings : Settings) (entities : EntityResolver)
  /-- Something that needs a registry. -/
  | use (action : Service.Action)

/-- What an action makes of a process. -/
def step (p : Process) : Action → Process
  | .create provider settings entities => p.create provider settings entities
  | .use action =>
      match p with
      | idle events => idle events
      | live s => live (s.step action)

/-- What a client gets from an action. -/
def answer? (p : Process) : Action → Option Answer
  | .create _ _ _ => none
  | .use action =>
      match p with
      | idle _ => none
      | live s => s.answer? action

/-- The process after some actions. -/
def run (p : Process) (actions : List Action) : Process := actions.foldl step p

/-- What clients get from some actions. -/
def answers (p : Process) : List Action → List Answer
  | [] => []
  | action :: actions => (p.answer? action).toList ++ (p.step action).answers actions

variable {p : Process}

@[simp]
theorem events_count (p : Process) (more : List Event) :
    (p.count more).events = p.events ++ more := by
  cases p <;> rfl

@[simp]
theorem current?_count (p : Process) (more : List Event) :
    (p.count more).current? = p.current? := by
  cases p <;> rfl

@[simp]
theorem events_serve (p : Process) (registry : Registry) :
    (p.serve registry).events = p.events := by
  cases p <;> rfl

@[simp]
theorem current?_serve (p : Process) (registry : Registry) :
    (p.serve registry).current? = some registry.current := by
  cases p <;> rfl

theorem recorded_create (p : Process) (provider : Provider) (settings : Settings)
    (entities : EntityResolver) :
    ∃ events, (p.create provider settings entities).events = p.events ++ events ∧
      Recorded p.current? (p.create provider settings entities).current? none events := by
  unfold create Registry.start
  dsimp only
  cases (Snapshot.load provider settings entities .empty).outcome with
  | ok snapshot =>
      simp only [events_count, events_serve, current?_count, current?_serve]
      exact ⟨_, rfl, .published _ _ snapshot⟩
  | error cause =>
      simp only [events_count, current?_count]
      exact ⟨_, rfl, .rejected _ _⟩

/-- Every action of a process counts what it answers, and publishes nothing unnoticed. -/
theorem recorded_step (p : Process) (action : Action) :
    ∃ events, (p.step action).events = p.events ++ events ∧
      Recorded p.current? (p.step action).current? (p.answer? action) events := by
  cases action with
  | create provider settings entities => exact p.recorded_create provider settings entities
  | use action =>
      cases p with
      | idle events => exact ⟨[], (List.append_nil _).symm, .rejected _ 0⟩
      | live s => exact s.recorded_step action

/-- A process counts the answers of its whole run. -/
theorem records_run {sofar : List Answer} (hstart : Records sofar p.events)
    (actions : List Action) : Records (sofar ++ p.answers actions) (p.run actions).events := by
  induction actions generalizing p sofar with
  | nil => rwa [answers, List.append_nil]
  | cons action actions ih =>
      obtain ⟨events, hevents, hrecorded⟩ := p.recorded_step action
      have hstep : Records (sofar ++ (p.answer? action).toList) (p.step action).events :=
        hevents ▸ hstart.append hrecorded.records
      rw [answers, ← List.append_assoc]
      exact ih hstep

theorem gauge_run (hstart : (Event.report p.events).lookup Event.routesLabel =
      p.current?.map (·.table.size)) (actions : List Action) :
    (Event.report (p.run actions).events).lookup Event.routesLabel =
      (p.run actions).current?.map (·.table.size) := by
  induction actions generalizing p with
  | nil => exact hstart
  | cons action actions ih =>
      obtain ⟨events, hevents, hrecorded⟩ := p.recorded_step action
      exact ih (hevents ▸ hrecorded.gauge hstart)

/-- The report of a process accounts for all that its clients got. -/
structure Accounts (answers : List Answer) (p : Process) : Prop where
  /-- Resolutions are counted by the way they ended. -/
  resolutions : ∀ outcome, Event.value p.events (Event.resolution outcome).label =
    answers.countP (Answer.endedAs outcome)
  allResolutions : (Outcome.all.map fun outcome =>
      Event.value p.events (Event.resolution outcome).label).sum =
    answers.countP Answer.isResolved
  /-- Builds are counted unless a parameter is missing. -/
  allBuilds : (BuildMode.all.map fun mode => Event.value p.events (Event.build mode).label).sum =
    answers.countP Answer.isSupplied
  /-- Builds that reach the entity resolver are counted as such. -/
  canonical : Event.value p.events (Event.build .canonical).label =
    answers.countP Answer.asksResolver
  reloads : ∀ succeeded, Event.value p.events (Event.reload succeeded).label =
    answers.countP (Answer.reloadedAs succeeded)
  /-- The gauge is the size of the live table. -/
  gauge : (Event.report p.events).lookup Event.routesLabel = p.current?.map (·.table.size)

/-- Whatever a process does, and in whatever order: after every step its report accounts for all
that its clients got. -/
theorem run_accounts (actions : List Action) :
    Accounts ((idle []).answers actions) ((idle []).run actions) := by
  have hrecords : Records ([] ++ (idle []).answers actions) ((idle []).run actions).events :=
    records_run .nil actions
  rw [List.nil_append] at hrecords
  have hvalue : ∀ e : Event, (∀ count, e ≠ .routes count) →
      Event.value ((idle []).run actions).events e.label =
        ((idle []).run actions).events.count e :=
    fun e he => Event.value_label (Event.mem_counters he) _
  have hresolutions : ∀ outcome,
      Event.value ((idle []).run actions).events (Event.resolution outcome).label =
        ((idle []).answers actions).countP (Answer.endedAs outcome) := fun outcome =>
    (hvalue (.resolution outcome) nofun).trans (hrecords.resolutions outcome)
  refine ⟨hresolutions, ?_, ?_, ?_, ?_, gauge_run (Event.lookup_report [] _) actions⟩
  · simp only [hresolutions, Answer.sum_endedAs]
  · rw [← hrecords.builds]
    exact congrArg List.sum (List.map_congr_left fun mode _ => hvalue (.build mode) nofun)
  · exact (hvalue (.build .canonical) nofun).trans hrecords.canonical
  · exact fun succeeded => (hvalue (.reload succeeded) nofun).trans (hrecords.reloads succeeded)

end Process

end Waymark

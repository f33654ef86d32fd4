import RuntimeBridge.Library.Chunks
import RuntimeBridge.Library.Machine
import RuntimeBridge.Library.Update
import RuntimeBridge.Manager.Commands

/-! `runner_manager.ts` and the runners that it forks: which runner is given a
worker, what a runner reports, and where a command for a worker goes.  Messages
between two processes arrive in the order in which they are sent. -/

namespace RuntimeBridge.Manager

open Library

/-- `prb.IWorkerState` as a runner sends it; JSON leaves out what is undefined. -/
structure WorkerState where
  status : Option String
  initialized : Option Bool
  parentHeaderSynchedTo : Option Int
  paraHeaderSynchedTo : Option Int
  paraBlockDispatchedTo : Option Int
  worker : Option WorkerPb
  publicKey : Option String
  lastMessage : Option String
  workerAccountId : Option String
  sessionInfoJson : String
  deriving DecidableEq, Repr

structure SyncProgress where
  parentHeaderSynchedTo : Int
  paraHeaderSynchedTo : Int
  paraBlockDispatchedTo : Int
  deriving DecidableEq, Repr

/-- What `getWorkerStates` reads of `runtime`; `infoJson` is the text of
`{ runtimeInfo: info }`. -/
structure RuntimeView where
  initialized : Option Bool
  publicKey : Option String
  syncStatus : Option SyncProgress
  infoJson : String
  deriving DecidableEq, Repr

/-- What `getWorkerStates` reads of a worker context. -/
structure ContextView where
  stateMachineState : String
  message : String
  snapshotBrief : WorkerPb
  runtime : Option RuntimeView
  accountId : Option String
  sessionJson : Option String
  deriving DecidableEq, Repr

def noInfoJson : String := "\x7b\n  \"runtimeInfo\": \x7b\x7d\n\x7d"

def workerState (context : Option ContextView) : WorkerState :=
  let runtime := context.bind (·.runtime)
  let syncStatus := runtime.bind (·.syncStatus)
  { status := context.map (·.stateMachineState)
    initialized := runtime.bind (·.initialized)
    parentHeaderSynchedTo := syncStatus.map (·.parentHeaderSynchedTo)
    paraHeaderSynchedTo := syncStatus.map (·.paraHeaderSynchedTo)
    paraBlockDispatchedTo := syncStatus.map (·.paraBlockDispatchedTo)
    worker := context.map (·.snapshotBrief)
    publicKey := runtime.bind (·.publicKey)
    lastMessage := context.map (·.message)
    workerAccountId := context.bind (·.accountId)
    sessionInfoJson := (context.bind (·.sessionJson)).getD
      ((runtime.map (·.infoJson)).getD noInfoJson) }

def getWorkerStates (ids : List String)
    (workers : String → Option ContextView) : List (String × WorkerState) :=
  ids.map fun id => (id, workerState (workers id))

/-- An entry of `runnerManager.workers`; `runner` is the id of its `RunnerMeta`. -/
structure WorkerEntry where
  id : String
  runner : String
  status : Option Nat
  initialized : Option Bool
  parentHeaderSynchedTo : Option Int
  paraHeaderSynchedTo : Option Int
  paraBlockDispatchedTo : Option Int
  worker : Option WorkerPb
  publicKey : Option String
  lastMessage : Option String
  workerAccountId : Option String
  sessionInfoJson : Option String
  deriving DecidableEq, Repr

abbrev WorkerEntries := String → Option WorkerEntry

def WorkerEntry.create (id runner : String) : WorkerEntry where
  id
  runner
  status := none
  initialized := none
  parentHeaderSynchedTo := none
  paraHeaderSynchedTo := none
  paraBlockDispatchedTo := none
  worker := none
  publicKey := none
  lastMessage := none
  workerAccountId := none
  sessionInfoJson := none

/-- `Object.assign` of a report: what it leaves out stays, but for the status. -/
def WorkerEntry.assign (statusOf : String → Option Nat) (entry : WorkerEntry)
    (state : WorkerState) : WorkerEntry :=
  { entry with
    status := state.status.bind statusOf
    initialized := state.initialized.or entry.initialized
    parentHeaderSynchedTo :=
      state.parentHeaderSynchedTo.or entry.parentHeaderSynchedTo
    paraHeaderSynchedTo :=
      state.paraHeaderSynchedTo.or entry.paraHeaderSynchedTo
    paraBlockDispatchedTo :=
      state.paraBlockDispatchedTo.or entry.paraBlockDispatchedTo
    worker := state.worker.or entry.worker
    publicKey := state.publicKey.or entry.publicKey
    lastMessage := state.lastMessage.or entry.lastMessage
    workerAccountId := state.workerAccountId.or entry.workerAccountId
    sessionInfoJson := some state.sessionInfoJson }

/-- `managerShouldUpdateWorkerInfo`; `statusOf` is `prb.WorkerState.Status`. -/
def updateWorkerInfo (statusOf : String → Option Nat) (runner : String)
    (workers : WorkerEntries) (info : List (String × WorkerState)) :
    WorkerEntries :=
  info.foldl (fun workers report =>
    Function.update workers report.1 (some
      (((workers report.1).getD (.create report.1 runner)).assign statusOf
        report.2))) workers

/-- What `Worker.findAll` may return, in an order of its own. -/
def LocalDb.enabledWorkers (db : LocalDb) : List String :=
  (db.workers.rows.filter (·.enabled)).map (·.id)

/-- One pass of the `reduce`.  An element under a negative index is none of the
array. -/
def pushWorker (perChunk : Int) (groups : List (List String))
    (entry : String × Nat) : List (List String) :=
  match Int.fdiv entry.2 perChunk with
  | .ofNat chunkIndex => pushAt groups chunkIndex entry.1
  | .negSucc _ => groups

def workerIdGroups (perChunk : Int) (allWorkers : List String) :
    List (List String) :=
  (allWorkers.zipIdx.foldl (pushWorker perChunk) []).filter (·.length ≠ 0)

inductive RunnerStage where
  | booting
  /-- `managerShouldInitRunner` is sent. -/
  | announced
  /-- `startWorkers` runs. -/
  | starting (ids : List String)
  /-- `updateStateLoop` runs. -/
  | running (ids : List String)
  | exited
  deriving DecidableEq, Repr

inductive ToRunner where
  | runnerShouldInit (ids : List String)
  | command (method : String) (ids : List String)
  deriving DecidableEq, Repr

inductive ToManager where
  | managerShouldInitRunner (runnerId : String)
  | managerShouldUpdateWorkerInfo (info : List (String × WorkerState))
  deriving DecidableEq, Repr

/-- A `RunnerMeta`, the process that was forked for it, and the messages between
them. -/
structure RunnerProcess where
  id : String
  workerIds : List String
  stage : RunnerStage
  contexts : String → Option ContextView
  toRunner : List ToRunner
  toManager : List ToManager

def RunnerProcess.fork (id : String) (workerIds : List String) :
    RunnerProcess where
  id
  workerIds
  stage := .booting
  contexts _ := none
  toRunner := []
  toManager := []

structure ManagerState where
  runners : List RunnerProcess
  workers : WorkerEntries
  exitCode : Option Int

inductive ManagerEvent where
  | announces (place : Nat)
  | managerReceives (place : Nat)
  | runnerReceives (place : Nat)
  /-- `startWorkers` is done; a row that is gone has no context. -/
  | startsWorkers (place : Nat) (contexts : List (String × ContextView))
  /-- A context goes on, or a command has replaced it. -/
  | changes (place : Nat) (id : String) (context : ContextView)
  | reports (place : Nat)
  | requests (request : CommandRequest) (db : LocalDb) (ids : List String)
  | exits (place : Nat) (code : Int)

/-- What the commands of `ptp/lifecycle.ts` see of an entry. -/
def WorkerEntry.toMeta (entry : WorkerEntry) : WorkerMeta where
  id := entry.id
  runner := entry.runner
  status := (entry.status.map toString).getD ""

namespace ManagerState

def setRunner (state : ManagerState) (place : Nat) (runner : RunnerProcess) :
    ManagerState :=
  { state with runners := state.runners.set place runner }

def deliver (state : ManagerState) (command : Command) : ManagerState :=
  { state with
    runners := state.runners.map fun runner =>
      if runner.id = command.runner then
        { runner with
          toRunner := runner.toRunner ++ [.command command.method command.ids] }
      else runner }

/-- The handlers of `fork` in `createRunnerManager`. -/
def receive (statusOf : String → Option Nat) (state : ManagerState)
    (place : Nat) (runner : RunnerProcess) : ToManager → ManagerState
  | .managerShouldInitRunner remoteRunnerId =>
      if runner.id ≠ remoteRunnerId then
        { state with exitCode := some 200 }
      else
        state.setRunner place { runner with
          toRunner := runner.toRunner ++ [.runnerShouldInit runner.workerIds] }
  | .managerShouldUpdateWorkerInfo info =>
      { state.setRunner place runner with
        workers := updateWorkerInfo statusOf runner.id state.workers info }

/-- Every other command changes the contexts in its own time. -/
def runnerReceives (runner : RunnerProcess) : ToRunner → RunnerProcess
  | .runnerShouldInit ids => { runner with stage := .starting ids }
  | .command method ids =>
      if method = "runnerShouldUpdateWorker" then
        { runner with
          toManager := runner.toManager ++
            [.managerShouldUpdateWorkerInfo
              (getWorkerStates ids runner.contexts)] }
      else runner

def stepRunner (statusOf : String → Option Nat) (holdOnSubprocessExit : Bool)
    (state : ManagerState) (place : Nat) (runner : RunnerProcess) :
    ManagerEvent → Option ManagerState
  | .announces _ =>
      match runner.stage with
      | .booting => some (state.setRunner place { runner with
          stage := .announced
          toManager := runner.toManager ++
            [.managerShouldInitRunner runner.id] })
      | _ => none
  | .managerReceives _ =>
      match runner.toManager with
      | [] => none
      | message :: rest => some (state.receive statusOf place
          { runner with toManager := rest } message)
  | .runnerReceives _ =>
      match runner.stage, runner.toRunner with
      | .exited, _ => none
      | _, [] => none
      | _, message :: rest => some (state.setRunner place
          (runnerReceives { runner with toRunner := rest } message))
  | .startsWorkers _ contexts =>
      match runner.stage with
      | .starting ids =>
          if ∀ context ∈ contexts, context.1 ∈ ids then
            some (state.setRunner place { runner with
              stage := .running ids
              contexts := fun id => contexts.lookup id })
          else none
      | _ => none
  | .changes _ id context =>
      match runner.stage with
      | .running _ =>
          if (runner.contexts id).isSome then
            some (state.setRunner place { runner with
              contexts := Function.update runner.contexts id (some context) })
          else none
      | _ => none
  | .reports _ =>
      match runner.stage with
      | .running ids => some (state.setRunner place { runner with
          toManager := runner.toManager ++
            [.managerShouldUpdateWorkerInfo
              (getWorkerStates ids runner.contexts)] })
      | _ => none
  | .requests _ _ _ => none
  | .exits _ code =>
      match runner.stage with
      | .exited => none
      | _ =>
          if holdOnSubprocessExit then
            some (state.setRunner place { runner with
              stage := .exited, contexts := fun _ => none })
          else
            some { state with exitCode := some code }

def step (statusOf : String → Option Nat) (holdOnSubprocessExit : Bool)
    (state : ManagerState) (event : ManagerEvent) : Option ManagerState :=
  match state.exitCode with
  | some _ => none
  | none =>
      match event with
      | .requests request db ids =>
          let handled :=
            request.handle db (fun id => (state.workers id).map (·.toMeta)) ids
          some (handled.sent.foldl deliver state)
      | .announces place | .managerReceives place | .runnerReceives place
      | .startsWorkers place _ | .changes place _ _ | .reports place
      | .exits place _ =>
          (state.runners[place]?).bind fun runner =>
            state.stepRunner statusOf holdOnSubprocessExit place runner event

/-- `createRunnerManager` once all its runners are forked; `uuid` is what
`randomUUID` returns. -/
def createRunnerManager (perChunk : Int) (uuid : Nat → String)
    (allWorkers : List String) : ManagerState where
  runners := (workerIdGroups perChunk allWorkers).mapIdx fun index ids =>
    .fork (uuid index) ids
  workers _ := none
  exitCode := none

end ManagerState

def runnerManagerMachine (statusOf : String → Option Nat)
    (holdOnSubprocessExit : Bool) (perChunk : Int) (uuid : Nat → String)
    (allWorkers : List String) : Machine ManagerState ManagerEvent where
  start := .createRunnerManager perChunk uuid allWorkers
  step := ManagerState.step statusOf holdOnSubprocessExit

def RunnerStage.Started : RunnerStage → Prop
  | .running _ | .exited => True
  | _ => False

/-- What is said and what is asked is about the workers of the runner. -/
structure RunnerProcess.Own (runner : RunnerProcess) : Prop where
  toManager : ∀ message ∈ runner.toManager,
    message = .managerShouldInitRunner runner.id ∨
      ∃ info, message = .managerShouldUpdateWorkerInfo info ∧
        runner.stage.Started ∧ ∀ report ∈ info, report.1 ∈ runner.workerIds
  toRunner : ∀ message ∈ runner.toRunner,
    message = .runnerShouldInit runner.workerIds ∨
      ∃ method ids, message = .command method ids ∧
        runner.stage.Started ∧ ∀ id ∈ ids, id ∈ runner.workerIds
  contexts : ∀ id, (runner.contexts id).isSome →
    id ∈ runner.workerIds ∧ runner.stage.Started

/-- The runner is told its workers once. -/
def RunnerProcess.Staged (runner : RunnerProcess) : Prop :=
  match runner.stage with
  | .booting => runner.toManager = [] ∧ runner.toRunner = []
  | .announced =>
      runner.toManager = [.managerShouldInitRunner runner.id] ∧
          runner.toRunner = [] ∨
        runner.toManager = [] ∧
          runner.toRunner = [.runnerShouldInit runner.workerIds]
  | .starting ids =>
      ids = runner.workerIds ∧ runner.toManager = [] ∧ runner.toRunner = []
  | .running ids =>
      ids = runner.workerIds ∧
        (∀ remote, .managerShouldInitRunner remote ∉ runner.toManager) ∧
        ∀ others, .runnerShouldInit others ∉ runner.toRunner
  | .exited => True

/-- The runner stays who it is. -/
structure RunnerProcess.GoesOn (runner next : RunnerProcess) : Prop where
  id : next.id = runner.id
  workerIds : next.workerIds = runner.workerIds
  started : runner.stage.Started → next.stage.Started
  own : next.Own
  staged : next.Staged

structure ManagerOk (uuid : Nat → String) (groups : List (List String))
    (state : ManagerState) : Prop where
  shape : state.runners.map (fun runner => (runner.id, runner.workerIds)) =
    groups.mapIdx fun index ids => (uuid index, ids)
  own : ∀ runner ∈ state.runners, runner.Own
  staged : ∀ runner ∈ state.runners, runner.Staged
  entries : ∀ id entry, state.workers id = some entry →
    ∃ runner ∈ state.runners, entry.runner = runner.id ∧
      id ∈ runner.workerIds ∧ runner.stage.Started

variable {statusOf : String → Option Nat} {hold : Bool} {perChunk : Int}
  {uuid : Nat → String} {allWorkers : List String}
  {groups : List (List String)} {state after : ManagerState}
  {runner next : RunnerProcess} {place : Nat} {workers : WorkerEntries}

theorem pushWorker_nat {size : Nat} (groups : List (List String))
    (id : String) (index : Nat) :
    pushWorker size groups (id, index) = pushAt groups (index / size) id := by
  have hindex : Int.fdiv index size = Int.ofNat (index / size) := by
    rw [Int.fdiv_eq_ediv_of_nonneg _ (Int.natCast_nonneg size)]
    rfl
  simp only [pushWorker, hindex]

/-- Every runner but the last is given `perChunk` workers. -/
theorem workerIdGroups_chunked (hchunk : 0 < perChunk)
    (allWorkers : List String) :
    Chunked perChunk.toNat (workerIdGroups perChunk allWorkers) allWorkers := by
  obtain ⟨size, rfl⟩ := Int.eq_ofNat_of_zero_le (Int.le_of_lt hchunk)
  have hsize : 0 < size := Int.ofNat_lt.mp hchunk
  have hfold : Chunked size (allWorkers.zipIdx.foldl (pushWorker size) [])
      allWorkers := by
    induction allWorkers using List.reverseRecOn with
    | nil => exact Chunked.nil size
    | append_singleton items item ih =>
        rw [List.zipIdx_append, List.foldl_append]
        simp only [List.zipIdx_cons, List.zipIdx_nil, List.foldl_cons,
          List.foldl_nil, Nat.zero_add, pushWorker_nat]
        exact ih.push hsize item
  have hfilter : workerIdGroups size allWorkers =
      allWorkers.zipIdx.foldl (pushWorker size) [] := by
    refine List.filter_eq_self.mpr fun group hmember => ?_
    have := (hfold.mem hsize group hmember).1
    simp only [ne_eq, decide_not, Bool.not_eq_eq_eq_not, Bool.not_true,
      decide_eq_false_iff_not]
    omega
  rw [hfilter, Int.toNat_natCast]
  exact hfold

theorem RunnerStage.started_cases {stage : RunnerStage}
    (h : stage.Started) : (∃ ids, stage = .running ids) ∨ stage = .exited := by
  cases stage with
  | booting => cases h
  | announced => cases h
  | starting ids => cases h
  | running ids => exact Or.inl ⟨ids, rfl⟩
  | exited => exact Or.inr rfl

theorem getWorkerStates_ids (ids : List String)
    (contexts : String → Option ContextView) :
    (getWorkerStates ids contexts).map (·.1) = ids := by
  simp [getWorkerStates, Function.comp_def]

namespace RunnerProcess

theorem announces (hown : runner.Own) (hstaged : runner.Staged)
    (hstage : runner.stage = .booting) :
    runner.GoesOn { runner with
      stage := .announced
      toManager := runner.toManager ++ [.managerShouldInitRunner runner.id] } := by
  rw [Staged, hstage] at hstaged
  obtain ⟨hmanager, hrunner⟩ := hstaged
  exact
    { id := rfl
      workerIds := rfl
      started := fun h => by rw [hstage] at h; cases h
      own :=
        { toManager := fun message hmember => by
            rw [hmanager] at hmember
            exact Or.inl (List.mem_singleton.mp hmember)
          toRunner := fun message hmember => by
            rw [hrunner] at hmember
            cases hmember
          contexts := fun id hsome => by
            have := (hown.contexts id hsome).2
            rw [hstage] at this
            cases this }
      staged := Or.inl ⟨by rw [hmanager]; rfl, hrunner⟩ }

/-- The manager never finds an id of another runner. -/
theorem remote_eq (hown : runner.Own) {remote : String}
    (hmember : .managerShouldInitRunner remote ∈ runner.toManager) :
    remote = runner.id := by
  rcases hown.toManager _ hmember with hinit | ⟨info, hreport, _⟩
  · exact ToManager.managerShouldInitRunner.inj hinit
  · cases hreport

theorem Own.informs (hown : runner.Own) {info : List (String × WorkerState)}
    (hmember : .managerShouldUpdateWorkerInfo info ∈ runner.toManager) :
    runner.stage.Started ∧ ∀ report ∈ info, report.1 ∈ runner.workerIds := by
  rcases hown.toManager _ hmember with hinit | ⟨same, hreport, h⟩
  · cases hinit
  · cases ToManager.managerShouldUpdateWorkerInfo.inj hreport
    exact h

theorem initialized (hown : runner.Own) (hstaged : runner.Staged)
    {remote : String} {rest : List ToManager}
    (hmanager : runner.toManager = .managerShouldInitRunner remote :: rest) :
    runner.GoesOn { runner with
      toManager := rest
      toRunner := runner.toRunner ++ [.runnerShouldInit runner.workerIds] } where
  id := rfl
  workerIds := rfl
  started := fun h => h
  own :=
    { toManager := fun message hmember =>
        hown.toManager message (by rw [hmanager]; exact .tail _ hmember)
      toRunner := fun message hmember => by
        rcases List.mem_append.mp hmember with hold | hnew
        · exact hown.toRunner message hold
        · exact Or.inl (List.mem_singleton.mp hnew)
      contexts := hown.contexts }
  staged := by
    cases hstage : runner.stage with
    | booting =>
        simp only [Staged, hstage, hmanager] at hstaged
        cases hstaged.1
    | announced =>
        simp only [Staged, hstage, hmanager] at hstaged ⊢
        rcases hstaged with ⟨hsingle, hrunner⟩ | ⟨hnone, _⟩
        · rw [List.cons.injEq] at hsingle
          exact Or.inr ⟨hsingle.2, by rw [hrunner]; rfl⟩
        · cases hnone
    | starting ids =>
        simp only [Staged, hstage, hmanager] at hstaged
        cases hstaged.2.1
    | running ids =>
        simp only [Staged, hstage, hmanager] at hstaged
        exact absurd (List.mem_cons_self ..) (hstaged.2.1 remote)
    | exited => simp only [Staged]

theorem informed (hown : runner.Own) (hstaged : runner.Staged)
    {info : List (String × WorkerState)} {rest : List ToManager}
    (hmanager : runner.toManager = .managerShouldUpdateWorkerInfo info :: rest) :
    runner.GoesOn { runner with toManager := rest } where
  id := rfl
  workerIds := rfl
  started := fun h => h
  own :=
    { toManager := fun message hmember =>
        hown.toManager message (by rw [hmanager]; exact .tail _ hmember)
      toRunner := hown.toRunner
      contexts := hown.contexts }
  staged := by
    cases hstage : runner.stage with
    | booting =>
        simp only [Staged, hstage, hmanager] at hstaged
        cases hstaged.1
    | announced =>
        simp only [Staged, hstage, hmanager] at hstaged
        rcases hstaged with ⟨hsingle, _⟩ | ⟨hnone, _⟩
        · cases hsingle
        · cases hnone
    | starting ids =>
        simp only [Staged, hstage, hmanager] at hstaged
        cases hstaged.2.1
    | running ids =>
        simp only [Staged, hstage, hmanager] at hstaged ⊢
        exact ⟨hstaged.1, fun other hmember =>
          hstaged.2.1 other (.tail _ hmember), hstaged.2.2⟩
    | exited => simp only [Staged]

theorem GoesOn.reports (h : runner.GoesOn next)
    (hstage : runner.stage.Started) {ids : List String}
    (hids : ∀ id ∈ ids, id ∈ runner.workerIds) :
    runner.GoesOn { next with
      toManager := next.toManager ++ [.managerShouldUpdateWorkerInfo
        (getWorkerStates ids next.contexts)] } where
  id := h.id
  workerIds := h.workerIds
  started := h.started
  own :=
    { toManager := fun message hmember => by
        rcases List.mem_append.mp hmember with hold | hnew
        · exact h.own.toManager message hold
        · refine Or.inr ⟨_, List.mem_singleton.mp hnew, h.started hstage,
            fun report hreport => ?_⟩
          rw [h.workerIds]
          refine hids report.1 ?_
          rw [← getWorkerStates_ids ids next.contexts]
          exact List.mem_map_of_mem hreport
      toRunner := h.own.toRunner
      contexts := h.own.contexts }
  staged := by
    have hstaged := h.staged
    rcases RunnerStage.started_cases (h.started hstage) with
      ⟨others, hrunning⟩ | hexit
    · simp only [Staged, hrunning] at hstaged ⊢
      refine ⟨hstaged.1, fun remote hmember => ?_, hstaged.2.2⟩
      rcases List.mem_append.mp hmember with hold | hnew
      · exact hstaged.2.1 remote hold
      · cases List.mem_singleton.mp hnew
    · simp only [Staged, hexit]

/-- `startWorkers` begins when the runner is told its workers. -/
theorem receives (hown : runner.Own) (hstaged : runner.Staged)
    {message : ToRunner} {rest : List ToRunner}
    (hrunner : runner.toRunner = message :: rest)
    (hexited : runner.stage ≠ .exited) :
    runner.GoesOn (ManagerState.runnerReceives
      { runner with toRunner := rest } message) := by
  have hmember : message ∈ runner.toRunner := by simp [hrunner]
  rcases hown.toRunner message hmember with rfl | ⟨method, ids, rfl, hstage, hids⟩
  · have hannounced : runner.stage = .announced ∧ runner.toManager = [] ∧
        rest = [] := by
      cases hstage : runner.stage with
      | booting =>
          simp only [Staged, hstage, hrunner] at hstaged
          cases hstaged.2
      | announced =>
          simp only [Staged, hstage, hrunner] at hstaged
          rcases hstaged with ⟨_, hnone⟩ | ⟨hmanager, hsingle⟩
          · cases hnone
          · exact ⟨rfl, hmanager, (List.cons.inj hsingle).2⟩
      | starting ids =>
          simp only [Staged, hstage, hrunner] at hstaged
          cases hstaged.2.2
      | running ids =>
          simp only [Staged, hstage] at hstaged
          exact absurd hmember (hstaged.2.2 runner.workerIds)
      | exited => exact absurd hstage hexited
    obtain ⟨hstage, hmanager, rfl⟩ := hannounced
    exact
      { id := rfl
        workerIds := rfl
        started := fun h => by rw [hstage] at h; cases h
        own :=
          { toManager := fun message hmember => by
              rw [ManagerState.runnerReceives, hmanager] at hmember
              cases hmember
            toRunner := fun message hmember => by cases hmember
            contexts := fun id hsome => by
              have := (hown.contexts id hsome).2
              rw [hstage] at this
              cases this }
        staged := ⟨rfl, hmanager, rfl⟩ }
  · have hgoes : runner.GoesOn { runner with toRunner := rest } :=
      { id := rfl
        workerIds := rfl
        started := fun h => h
        own :=
          { toManager := hown.toManager
            toRunner := fun other hother =>
              hown.toRunner other (by rw [hrunner]; exact .tail _ hother)
            contexts := hown.contexts }
        staged := by
          rcases RunnerStage.started_cases hstage with
            ⟨others, hrunning⟩ | hexit
          · simp only [Staged, hrunning] at hstaged ⊢
            refine ⟨hstaged.1, hstaged.2.1, fun other hother => ?_⟩
            exact hstaged.2.2 other (by rw [hrunner]; exact .tail _ hother)
          · exact absurd hexit hexited }
    simp only [ManagerState.runnerReceives]
    split
    · exact hgoes.reports hstage hids
    · exact hgoes

theorem starts (hstaged : runner.Staged)
    {ids : List String} (hstage : runner.stage = .starting ids)
    {contexts : List (String × ContextView)}
    (hcontexts : ∀ context ∈ contexts, context.1 ∈ ids) :
    runner.GoesOn { runner with
      stage := .running ids
      contexts := fun id => contexts.lookup id } := by
  simp only [Staged, hstage] at hstaged
  obtain ⟨rfl, hmanager, hrunner⟩ := hstaged
  exact
    { id := rfl
      workerIds := rfl
      started := fun _ => trivial
      own :=
        { toManager := fun message hmember => by
            rw [hmanager] at hmember
            cases hmember
          toRunner := fun message hmember => by
            rw [hrunner] at hmember
            cases hmember
          contexts := fun id hsome => by
            obtain ⟨context, hcontext⟩ := Option.isSome_iff_exists.mp hsome
            obtain ⟨front, back, rfl, _⟩ := List.lookup_eq_some_iff.mp hcontext
            exact ⟨hcontexts (id, context) (by simp), trivial⟩ }
      staged := by
        refine ⟨rfl, fun remote hmember => ?_, fun others hmember => ?_⟩
        · rw [hmanager] at hmember
          cases hmember
        · rw [hrunner] at hmember
          cases hmember }

theorem changes (hown : runner.Own) (hstaged : runner.Staged) {id : String}
    (hcontext : (runner.contexts id).isSome) (context : ContextView) :
    runner.GoesOn { runner with
      contexts := Function.update runner.contexts id (some context) } where
  id := rfl
  workerIds := rfl
  started := fun h => h
  own :=
    { toManager := hown.toManager
      toRunner := hown.toRunner
      contexts := fun other hsome => by
        by_cases hsame : other = id
        · subst hsame
          exact hown.contexts other hcontext
        · simp only [Function.update_of_ne hsame] at hsome
          exact hown.contexts other hsome }
  staged := hstaged

theorem exits (hown : runner.Own) :
    runner.GoesOn
      { runner with stage := .exited, contexts := fun _ => none } where
  id := rfl
  workerIds := rfl
  started := fun _ => trivial
  own :=
    { toManager := fun message hmember => by
        rcases hown.toManager message hmember with hinit | ⟨info, hreport, h⟩
        · exact Or.inl hinit
        · exact Or.inr ⟨info, hreport, trivial, h.2⟩
      toRunner := fun message hmember => by
        rcases hown.toRunner message hmember with hinit | ⟨method, ids, hcommand, h⟩
        · exact Or.inl hinit
        · exact Or.inr ⟨method, ids, hcommand, trivial, h.2⟩
      contexts := fun _ hsome => by cases hsome }
  staged := trivial

theorem commanded (hown : runner.Own) (hstaged : runner.Staged)
    (hstage : runner.stage.Started) (method : String) {ids : List String}
    (hids : ∀ id ∈ ids, id ∈ runner.workerIds) :
    runner.GoesOn { runner with
      toRunner := runner.toRunner ++ [.command method ids] } where
  id := rfl
  workerIds := rfl
  started := fun h => h
  own :=
    { toManager := hown.toManager
      toRunner := fun message hmember => by
        rcases List.mem_append.mp hmember with hold | hnew
        · exact hown.toRunner message hold
        · exact Or.inr ⟨method, ids, List.mem_singleton.mp hnew, hstage, hids⟩
      contexts := hown.contexts }
  staged := by
    rcases RunnerStage.started_cases hstage with ⟨others, hrunning⟩ | hexit
    · simp only [Staged, hrunning] at hstaged ⊢
      refine ⟨hstaged.1, hstaged.2.1, fun others hmember => ?_⟩
      rcases List.mem_append.mp hmember with hold | hnew
      · exact hstaged.2.2 others hold
      · cases List.mem_singleton.mp hnew
    · simp only [Staged, hexit]

theorem goes_on (hown : runner.Own) (hstaged : runner.Staged) :
    runner.GoesOn runner where
  id := rfl
  workerIds := rfl
  started := fun h => h
  own := hown
  staged := hstaged

end RunnerProcess

/-- A worker that is known keeps its runner. -/
theorem updateWorkerInfo_runner {id sender : String} {entry : WorkerEntry}
    {info : List (String × WorkerState)}
    (h : updateWorkerInfo statusOf sender workers info id = some entry) :
    (∃ old, workers id = some old ∧ entry.runner = old.runner) ∨
      entry.runner = sender ∧ ∃ report ∈ info, report.1 = id := by
  induction info generalizing workers with
  | nil => exact Or.inl ⟨entry, h, rfl⟩
  | cons report rest ih =>
      rcases ih h with ⟨old, hold, hrunner⟩ | ⟨hrunner, later, hlater, hid⟩
      · rcases update_some_cases hold with ⟨rfl, hnew⟩ | ⟨_, hkept⟩
        · cases Option.some.inj hnew
          cases hknown : workers report.1 with
          | none =>
              rw [hknown] at hrunner
              exact Or.inr ⟨hrunner, report, List.mem_cons_self .., rfl⟩
          | some known =>
              rw [hknown] at hrunner
              exact Or.inl ⟨known, rfl, hrunner⟩
        · exact Or.inl ⟨old, hkept, hrunner⟩
      · exact Or.inr ⟨hrunner, later, .tail _ hlater, hid⟩

/-- Every command is about one worker, and goes to its runner. -/
theorem sent_to_runner {request : CommandRequest} {db : LocalDb}
    {known : WorkerMetaMap} {ids : List String} {command : Command}
    (h : command ∈ (request.handle db known ids).sent) :
    ∃ id worker, known id = some worker ∧
      command = { runner := worker.runner, method := request.method, ids := [id] } := by
  have hsent : ∀ ids, command ∈ (sendCommands request.method known ids).1 →
      ∃ id worker, known id = some worker ∧ command =
        { runner := worker.runner, method := request.method, ids := [id] } := by
    intro ids
    induction ids with
    | nil => exact fun hnone => by cases hnone
    | cons id rest ih =>
        intro hmember
        rw [sendCommands] at hmember
        split at hmember
        · cases hmember
        · next worker hworker =>
            rcases List.mem_cons.mp hmember with rfl | hrest
            · exact ⟨id, worker, hworker, rfl⟩
            · exact ih hrest
  rw [CommandRequest.handle_eq, handleCommand] at h
  split at h
  · cases h
  · split at h
    · next heq => exact hsent ids (by rw [heq]; exact h)
    · next heq => exact hsent ids (by rw [heq]; exact h)

namespace ManagerOk

theorem setRunner (h : ManagerOk uuid groups state)
    (hplace : state.runners[place]? = some runner)
    (hnext : runner.GoesOn next) :
    ManagerOk uuid groups (state.setRunner place next) where
  shape := by
    rw [← h.shape]
    refine List.ext_getElem? fun other => ?_
    simp only [ManagerState.setRunner, List.getElem?_map, List.getElem?_set]
    split
    · next heq =>
        subst heq
        rw [hplace]
        split
        · rw [Option.map_some, Option.map_some, hnext.id, hnext.workerIds]
        · next hlt =>
            rw [List.getElem?_eq_none (Nat.le_of_not_lt hlt)] at hplace
            contradiction
    · rfl
  own := fun other hmember => by
    rcases List.mem_or_eq_of_mem_set hmember with hold | rfl
    · exact h.own other hold
    · exact hnext.own
  staged := fun other hmember => by
    rcases List.mem_or_eq_of_mem_set hmember with hold | rfl
    · exact h.staged other hold
    · exact hnext.staged
  entries := fun id entry hentry => by
    obtain ⟨owner, hmember, hrunner, hworker, hstage⟩ := h.entries id entry hentry
    obtain ⟨other, hother⟩ := List.getElem?_of_mem hmember
    by_cases heq : other = place
    · subst heq
      cases Option.some.inj (hother.symm.trans hplace)
      refine ⟨next, ?_, by rw [hrunner, hnext.id], by rwa [hnext.workerIds],
        hnext.started hstage⟩
      exact List.mem_of_getElem? (List.getElem?_set_self
        (List.getElem?_eq_some_iff.mp hplace).1)
    · exact ⟨owner, List.mem_of_getElem?
        ((List.getElem?_set_ne (Ne.symm heq)).trans hother), hrunner, hworker,
        hstage⟩

theorem mem (h : ManagerOk uuid groups state)
    (hplace : state.runners[place]? = some runner) :
    runner.id = uuid place ∧ groups[place]? = some runner.workerIds := by
  have hshape := congrArg (·[place]?) h.shape
  simp only [List.getElem?_map, hplace, Option.map_some,
    List.getElem?_mapIdx] at hshape
  obtain ⟨ids, hids, hsame⟩ := Option.map_eq_some_iff.mp hshape.symm
  obtain ⟨hid, rfl⟩ := Prod.mk.inj hsame
  exact ⟨hid.symm, hids⟩

theorem runner_inj (h : ManagerOk uuid groups state)
    (huuid : Function.Injective uuid) (hrunner : runner ∈ state.runners)
    (hnext : next ∈ state.runners) (hsame : runner.id = next.id) :
    runner = next := by
  obtain ⟨place, hplace⟩ := List.getElem?_of_mem hrunner
  obtain ⟨other, hother⟩ := List.getElem?_of_mem hnext
  rw [(h.mem hplace).1, (h.mem hother).1] at hsame
  cases huuid hsame
  exact Option.some.inj (hplace.symm.trans hother)

theorem start (groups : List (List String)) :
    ManagerOk uuid groups
      { runners := groups.mapIdx fun index ids => .fork (uuid index) ids
        workers := fun _ => none
        exitCode := none } where
  shape := by
    refine List.ext_getElem? fun place => ?_
    simp only [List.getElem?_map, List.getElem?_mapIdx, Option.map_map]
    rfl
  own := fun runner hmember => by
    obtain ⟨place, hlt, rfl⟩ := List.mem_mapIdx.mp hmember
    exact
      { toManager := fun _ hnone => by cases hnone
        toRunner := fun _ hnone => by cases hnone
        contexts := fun _ hnone => by cases hnone }
  staged := fun runner hmember => by
    obtain ⟨place, hlt, rfl⟩ := List.mem_mapIdx.mp hmember
    exact ⟨rfl, rfl⟩
  entries := fun _ _ hentry => by cases hentry

/-- A command reaches the runner that has reported the worker. -/
theorem deliver (h : ManagerOk uuid groups state)
    (huuid : Function.Injective uuid) {id : String} {entry : WorkerEntry}
    (hentry : state.workers id = some entry) (method : String) :
    ManagerOk uuid groups
      (state.deliver { runner := entry.runner, method, ids := [id] }) := by
  obtain ⟨owner, howner, hsame, hworker, hstage⟩ := h.entries id entry hentry
  have hgoes : ∀ runner ∈ state.runners, runner.GoesOn
      (if runner.id = entry.runner then
        { runner with
          toRunner := runner.toRunner ++ [.command method [id]] }
      else runner) := by
    intro runner hrunner
    have hown := h.own runner hrunner
    have hstaged := h.staged runner hrunner
    split
    · next heq =>
        cases h.runner_inj huuid hrunner howner (heq.trans hsame)
        refine RunnerProcess.commanded hown hstaged hstage method ?_
        exact fun other hother => by rwa [List.mem_singleton.mp hother]
    · exact RunnerProcess.goes_on hown hstaged
  exact
    { shape := by
        rw [← h.shape, ManagerState.deliver, List.map_map]
        refine List.map_congr_left fun runner hrunner => ?_
        have := hgoes runner hrunner
        exact Prod.ext this.id this.workerIds
      own := fun runner hrunner => by
        obtain ⟨old, hold, rfl⟩ := List.mem_map.mp hrunner
        exact (hgoes old hold).own
      staged := fun runner hrunner => by
        obtain ⟨old, hold, rfl⟩ := List.mem_map.mp hrunner
        exact (hgoes old hold).staged
      entries := fun other known hknown => by
        obtain ⟨runner, hrunner, hid, hids, hstarted⟩ :=
          h.entries other known hknown
        have hnext := hgoes runner hrunner
        refine ⟨_, List.mem_map_of_mem hrunner, ?_, ?_, hnext.started hstarted⟩
        · rw [hid, hnext.id]
        · rwa [hnext.workerIds] }

theorem deliver_all (h : ManagerOk uuid groups state)
    (huuid : Function.Injective uuid) {commands : List Command}
    (hcommands : ∀ command ∈ commands, ∃ id entry method,
      state.workers id = some entry ∧
        command = { runner := entry.runner, method, ids := [id] }) :
    ManagerOk uuid groups (commands.foldl ManagerState.deliver state) := by
  induction commands generalizing state with
  | nil => exact h
  | cons command rest ih =>
      rw [List.forall_mem_cons] at hcommands
      obtain ⟨⟨id, entry, method, hentry, rfl⟩, hrest⟩ := hcommands
      exact ih (h.deliver huuid hentry method) hrest

/-- A report is about workers of its sender, so no worker changes hands. -/
theorem updateWorkerInfo (h : ManagerOk uuid groups state)
    (hplace : state.runners[place]? = some runner)
    (hstage : runner.stage.Started) {info : List (String × WorkerState)}
    (hinfo : ∀ report ∈ info, report.1 ∈ runner.workerIds) :
    ManagerOk uuid groups { state with
      workers := Manager.updateWorkerInfo statusOf runner.id state.workers
        info } where
  shape := h.shape
  own := h.own
  staged := h.staged
  entries := fun id entry hentry => by
    rcases updateWorkerInfo_runner hentry with
      ⟨old, hold, hsame⟩ | ⟨hsame, report, hreport, rfl⟩
    · rw [hsame]
      exact h.entries id old hold
    · exact ⟨runner, List.mem_of_getElem? hplace, hsame, hinfo report hreport,
        hstage⟩

theorem receives (h : ManagerOk uuid groups state)
    (hplace : state.runners[place]? = some runner) {message : ToManager}
    {rest : List ToManager} (hmanager : runner.toManager = message :: rest) :
    ManagerOk uuid groups (state.receive statusOf place
      { runner with toManager := rest } message) := by
  have hrunner := List.mem_of_getElem? hplace
  have hown := h.own runner hrunner
  have hstaged := h.staged runner hrunner
  have hmember : message ∈ runner.toManager := by simp [hmanager]
  cases message with
  | managerShouldInitRunner remote =>
      rw [ManagerState.receive,
        if_neg (not_not.mpr (RunnerProcess.remote_eq hown hmember).symm)]
      exact h.setRunner hplace
        (RunnerProcess.initialized hown hstaged hmanager)
  | managerShouldUpdateWorkerInfo info =>
      have hnext := RunnerProcess.informed hown hstaged hmanager
      obtain ⟨hstage, hinfo⟩ := hown.informs hmember
      have hset := List.getElem?_set_self (a := { runner with toManager := rest })
        (List.getElem?_eq_some_iff.mp hplace).1
      exact (h.setRunner hplace hnext).updateWorkerInfo hset hstage hinfo

theorem goes_on (h : ManagerOk uuid groups state)
    (huuid : Function.Injective uuid) {event : ManagerEvent}
    (taken : state.step statusOf hold event = some after) :
    ManagerOk uuid groups after := by
  unfold ManagerState.step at taken
  split at taken
  · contradiction
  split at taken
  · next request db ids =>
      cases Option.some.inj taken
      refine h.deliver_all huuid fun command hcommand => ?_
      obtain ⟨id, worker, hworker, rfl⟩ := sent_to_runner hcommand
      obtain ⟨entry, hentry, rfl⟩ := Option.map_eq_some_iff.mp hworker
      exact ⟨id, entry, request.method, hentry, rfl⟩
  all_goals
    obtain ⟨runner, hplace, hstep⟩ := Option.bind_eq_some_iff.mp taken
    have hown := h.own runner (List.mem_of_getElem? hplace)
    have hstaged := h.staged runner (List.mem_of_getElem? hplace)
    rw [ManagerState.stepRunner] at hstep
  · split at hstep
    · next hstage =>
        cases Option.some.inj hstep
        exact h.setRunner hplace (RunnerProcess.announces hown hstaged hstage)
    · contradiction
  · split at hstep
    · contradiction
    · next hmanager =>
        cases Option.some.inj hstep
        exact h.receives hplace hmanager
  · split at hstep
    · contradiction
    · contradiction
    · next hrunner hexited =>
        cases Option.some.inj hstep
        exact h.setRunner hplace
          (RunnerProcess.receives hown hstaged hrunner hexited)
  · split at hstep
    · next hstage =>
        split at hstep
        · next hcontexts =>
            cases Option.some.inj hstep
            exact h.setRunner hplace
              (RunnerProcess.starts hstaged hstage hcontexts)
        · contradiction
    · contradiction
  · split at hstep
    · split at hstep
      · next hcontext =>
          cases Option.some.inj hstep
          exact h.setRunner hplace
            (RunnerProcess.changes hown hstaged hcontext _)
      · contradiction
    · contradiction
  · split at hstep
    · next ids hstage =>
        cases Option.some.inj hstep
        have hstarted : runner.stage.Started := by rw [hstage]; trivial
        refine h.setRunner hplace
          ((RunnerProcess.goes_on hown hstaged).reports hstarted ?_)
        simp only [RunnerProcess.Staged, hstage] at hstaged
        exact fun id hid => by rwa [← hstaged.1]
    · contradiction
  · split at hstep
    · contradiction
    · split at hstep
      · cases Option.some.inj hstep
        exact h.setRunner hplace (RunnerProcess.exits hown)
      · cases Option.some.inj hstep
        exact ⟨h.shape, h.own, h.staged, h.entries⟩

end ManagerOk

theorem managerOk_reachable (huuid : Function.Injective uuid)
    (reached : (runnerManagerMachine statusOf hold perChunk uuid
      allWorkers).Reachable state) :
    ManagerOk uuid (workerIdGroups perChunk allWorkers) state := by
  have hstart : ManagerOk uuid _ _ :=
    ManagerOk.start (workerIdGroups perChunk allWorkers)
  exact Machine.Preserves.reaches
    (fun _ _ _ _ holds taken => ManagerOk.goes_on holds huuid taken)
    hstart reached

/-- Each enabled worker belongs to one runner, which alone runs it, reports it
and is sent its commands. -/
structure WorkersOwned (perChunk : Int) (db : LocalDb) (state : ManagerState) :
    Prop where
  owner : ∀ id ∈ db.enabledWorkers,
    ∃ runner ∈ state.runners, id ∈ runner.workerIds
  sole : ∀ (place other : Nat) (runner next : RunnerProcess),
    state.runners[place]? = some runner → state.runners[other]? = some next →
      ∀ id ∈ runner.workerIds, id ∈ next.workerIds → place = other
  group : ∀ runner ∈ state.runners,
    0 < runner.workerIds.length ∧ runner.workerIds.length ≤ perChunk ∧
      ∀ id ∈ runner.workerIds, id ∈ db.enabledWorkers
  runs : ∀ runner ∈ state.runners, ∀ id, (runner.contexts id).isSome →
    id ∈ runner.workerIds
  reports : ∀ runner ∈ state.runners, ∀ info,
    .managerShouldUpdateWorkerInfo info ∈ runner.toManager →
      runner.stage.Started ∧ ∀ report ∈ info, report.1 ∈ runner.workerIds
  reported : ∀ id entry, state.workers id = some entry →
    ∃ runner ∈ state.runners, entry.runner = runner.id ∧ id ∈ runner.workerIds
  commanded : ∀ runner ∈ state.runners, ∀ method ids,
    .command method ids ∈ runner.toRunner →
      runner.stage.Started ∧ ∀ id ∈ ids, id ∈ runner.workerIds
  matched : ∀ runner ∈ state.runners, ∀ remote,
    .managerShouldInitRunner remote ∈ runner.toManager → remote = runner.id

theorem workers_owned {db : LocalDb} (hchunk : 0 < perChunk)
    (huuid : Function.Injective uuid)
    (hworkers : allWorkers.Perm db.enabledWorkers)
    (reached : (runnerManagerMachine statusOf hold perChunk uuid
      allWorkers).Reachable state) :
    WorkersOwned perChunk db state := by
  have h := managerOk_reachable huuid reached
  have hchunked := workerIdGroups_chunked hchunk allWorkers
  have hnodup : (workerIdGroups perChunk allWorkers).flatten.Nodup := by
    rw [hchunked.flatten, hworkers.nodup_iff]
    exact db.workers.sound.id.sublist (List.filter_sublist.map _)
  have hgroup : ∀ runner ∈ state.runners,
      runner.workerIds ∈ workerIdGroups perChunk allWorkers := by
    intro runner hrunner
    obtain ⟨place, hplace⟩ := List.getElem?_of_mem hrunner
    exact List.mem_of_getElem? (h.mem hplace).2
  exact
    { owner := fun id hid => by
        rw [← hworkers.mem_iff, ← hchunked.flatten] at hid
        obtain ⟨group, hmember, hid⟩ := List.mem_flatten.mp hid
        obtain ⟨place, hplace⟩ := List.getElem?_of_mem hmember
        have hshape := congrArg (·[place]?) h.shape
        simp only [List.getElem?_map, List.getElem?_mapIdx, hplace,
          Option.map_some] at hshape
        obtain ⟨runner, hrunner, hsame⟩ := Option.map_eq_some_iff.mp hshape
        refine ⟨runner, List.mem_of_getElem? hrunner, ?_⟩
        rwa [(Prod.mk.inj hsame).2]
      sole := fun place other runner next hplace hother id hid hnext =>
        Chunked.place_inj hnodup (h.mem hplace).2 (h.mem hother).2 hid hnext
      group := fun runner hrunner => by
        have hmember := hgroup runner hrunner
        obtain ⟨hpos, hle⟩ := hchunked.mem (by omega) _ hmember
        refine ⟨hpos, by omega, fun id hid => ?_⟩
        rw [← hworkers.mem_iff, ← hchunked.flatten]
        exact List.mem_flatten.mpr ⟨_, hmember, hid⟩
      runs := fun runner hrunner id hsome =>
        ((h.own runner hrunner).contexts id hsome).1
      reports := fun runner hrunner info hreport =>
        (h.own runner hrunner).informs hreport
      reported := fun id entry hentry => by
        obtain ⟨runner, hrunner, hsame, hid, _⟩ := h.entries id entry hentry
        exact ⟨runner, hrunner, hsame, hid⟩
      commanded := fun runner hrunner method ids hcommand => by
        rcases (h.own runner hrunner).toRunner _ hcommand with
          hinit | ⟨same, others, heq, hstage, hids⟩
        · cases hinit
        · obtain ⟨rfl, rfl⟩ := ToRunner.command.inj heq
          exact ⟨hstage, hids⟩
      matched := fun runner hrunner remote hmember =>
        RunnerProcess.remote_eq (h.own runner hrunner) hmember }

def plainWorker (id : String) (enabled : Bool) : Worker where
  id
  name := id
  endpoint := "http://worker"
  stake := "0"
  enabled
  syncOnly := false
  poolId := none

def fourWorkersDb : LocalDb where
  pools := LocalDb.empty.pools
  workers :=
    { rows := [plainWorker "a" true, plainWorker "b" true,
        plainWorker "c" false, plainWorker "d" true]
      sound := by decide }

def tallyUuid (index : Nat) : String :=
  String.ofList (List.replicate index 'r')

theorem tallyUuid_injective : Function.Injective tallyUuid := by
  intro index other h
  simpa [tallyUuid] using congrArg String.length h

def idleContext : ContextView where
  stateMachineState := "S_IDLE"
  message := ""
  snapshotBrief :=
    { uuid := "d"
      pid := 7
      name := "d"
      endpoint := "http://worker"
      enabled := true
      deleted := false
      stake := "0"
      syncOnly := false }
  runtime := none
  accountId := none
  sessionJson := none

/-- The first runner has reported, and its workers are to be kicked. -/
def kickedManager : ManagerState :=
  (runnerManagerMachine (fun _ => none) false 2 tallyUuid ["d", "a", "b"]).ended
    [.announces 0, .managerReceives 0, .runnerReceives 0,
      .startsWorkers 0 [("d", idleContext)], .reports 0, .managerReceives 0,
      .requests .kickWorker fourWorkersDb ["d", "a"]]

theorem workers_owned_kicked :
    kickedManager.runners.map (fun runner => (runner.workerIds, runner.toRunner)) =
        [(["d", "a"], [.command "runnerShouldKickWorker" ["d"],
          .command "runnerShouldKickWorker" ["a"]]), (["b"], [])] ∧
      WorkersOwned 2 fourWorkersDb kickedManager :=
  ⟨by decide, workers_owned (by decide) tallyUuid_injective (by decide)
    (Machine.reachable_ended (by decide))⟩

end RuntimeBridge.Manager

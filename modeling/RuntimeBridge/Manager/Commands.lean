import RuntimeBridge.Manager.Db

/-! The handlers of `ptp/lifecycle.ts` that send a command to the runners of the
workers they are given. -/

namespace RuntimeBridge.Manager

/-- What `runnerManager.workers` holds once a runner has reported the worker. -/
structure WorkerMeta where
  id : String
  runner : String
  status : String
  deriving DecidableEq, Repr

/-- A call of `ipcHandle.send`. -/
structure Command where
  runner : String
  method : String
  ids : List String
  deriving DecidableEq, Repr

structure Handled where
  sent : List Command
  response : Except HandlerError (List (Option WorkerMeta))

abbrev WorkerMetaMap := String → Option WorkerMeta

/-- The loop of `Worker.findByPk`. -/
def checkWorkers (db : LocalDb) : List String → Except HandlerError Unit
  | [] => .ok ()
  | id :: rest =>
      match db.findWorker id with
      | none => .error (.notFound ("Worker " ++ id ++ " not found!"))
      | some _ => checkWorkers db rest

/-- The loop of `send`, and what ends it. -/
def sendCommands (method : String) (workers : WorkerMetaMap) :
    List String → List Command × Except HandlerError Unit
  | [] => ([], .ok ())
  | id :: rest =>
      match workers id with
      | none => ([], .error (.typeError
          "Cannot read properties of undefined (reading 'runner')"))
      | some worker =>
          let (sent, outcome) := sendCommands method workers rest
          ({ runner := worker.runner, method, ids := [id] } :: sent, outcome)

/-- `workers` is the map once the lookups are through.  Before the runners are
set up `runnerManager` is missing, and so is every worker. -/
def handleCommand (method : String) (db : LocalDb) (workers : WorkerMetaMap)
    (ids : List String) : Handled :=
  match checkWorkers db ids with
  | .error e => { sent := [], response := .error e }
  | .ok () =>
      match sendCommands method workers ids with
      | (sent, .error e) => { sent, response := .error e }
      | (sent, .ok ()) => { sent, response := .ok (ids.map workers) }

def restartWorker : LocalDb → WorkerMetaMap → List String → Handled :=
  handleCommand "runnerShouldRestartWorker"

def refreshRaAndRestartWorker : LocalDb → WorkerMetaMap → List String → Handled :=
  handleCommand "runnerShouldRefreshRaAndRestartWorker"

def kickWorker : LocalDb → WorkerMetaMap → List String → Handled :=
  handleCommand "runnerShouldKickWorker"

inductive CommandRequest where
  | restartWorker
  | refreshRaAndRestartWorker
  | kickWorker
  deriving DecidableEq, Repr

namespace CommandRequest

def method : CommandRequest → String
  | .restartWorker => "runnerShouldRestartWorker"
  | .refreshRaAndRestartWorker => "runnerShouldRefreshRaAndRestartWorker"
  | .kickWorker => "runnerShouldKickWorker"

def handle : CommandRequest → LocalDb → WorkerMetaMap → List String → Handled
  | .restartWorker => Manager.restartWorker
  | .refreshRaAndRestartWorker => Manager.refreshRaAndRestartWorker
  | .kickWorker => Manager.kickWorker

theorem handle_eq (request : CommandRequest) :
    request.handle = handleCommand request.method := by
  cases request <;> rfl

end CommandRequest

/-- Each command goes to the runner of its worker. -/
def Sends (method : String) (workers : WorkerMetaMap) (ids : List String)
    (sent : List Command) : Prop :=
  List.Forall₂ (fun id command => ∃ worker, workers id = some worker ∧
    command = { runner := worker.runner, method, ids := [id] }) ids sent

/-- Either every command has been sent and the request succeeds, or it fails and
nothing has been sent. -/
def AllOrNothing (method : String) (workers : WorkerMetaMap)
    (ids : List String) (handled : Handled) : Prop :=
  (∃ states, handled.response = .ok states) ∧
      Sends method workers ids handled.sent ∨
    (∃ e, handled.response = .error e) ∧ handled.sent = []

/-- Some id names no row, or every id names a reported worker, or the first one
does not. -/
def FirstOrAll (db : LocalDb) (workers : WorkerMetaMap) (ids : List String) :
    Prop :=
  (∃ id ∈ ids, db.findWorker id = none) ∨
    (∀ id ∈ ids, (workers id).isSome = true) ∨
    ∃ first rest, ids = first :: rest ∧ workers first = none

variable {db : LocalDb} {workers : WorkerMetaMap} {ids : List String}

theorem checkWorkers_eq_ok :
    checkWorkers db ids = .ok () ↔ ∀ id ∈ ids, db.findWorker id ≠ none := by
  induction ids with
  | nil => simp [checkWorkers]
  | cons id rest ih =>
      rw [checkWorkers, List.forall_mem_cons, ← ih]
      cases db.findWorker id with
      | none => simp
      | some worker => simp

theorem sendCommands_ok (method : String)
    (h : ∀ id ∈ ids, (workers id).isSome = true) :
    ∃ sent, sendCommands method workers ids = (sent, .ok ()) ∧
      Sends method workers ids sent := by
  induction ids with
  | nil => exact ⟨[], rfl, List.Forall₂.nil⟩
  | cons id rest ih =>
      rw [List.forall_mem_cons] at h
      obtain ⟨worker, hworker⟩ := Option.isSome_iff_exists.mp h.1
      obtain ⟨sent, hsent, hall⟩ := ih h.2
      refine ⟨{ runner := worker.runner, method, ids := [id] } :: sent, ?_, ?_⟩
      · rw [sendCommands, hworker]
        simp only [hsent]
      · exact List.Forall₂.cons ⟨worker, hworker, rfl⟩ hall

theorem sendCommands_error (method : String) {id : String} (hid : id ∈ ids)
    (h : workers id = none) :
    ∃ sent e, sendCommands method workers ids = (sent, .error e) ∧
      (sent = [] ↔ ∃ first rest, ids = first :: rest ∧ workers first = none) := by
  induction ids with
  | nil => cases hid
  | cons head rest ih =>
      rw [sendCommands]
      cases hhead : workers head with
      | none => exact ⟨[], _, rfl, iff_of_true rfl ⟨head, rest, rfl, hhead⟩⟩
      | some worker =>
          have hrest : id ∈ rest := by
            rcases List.mem_cons.mp hid with rfl | hrest
            · rw [h] at hhead
              cases hhead
            · exact hrest
          obtain ⟨sent, e, hsent, -⟩ := ih hrest
          simp only [hsent]
          refine ⟨_, e, rfl, iff_of_false (List.cons_ne_nil _ _) ?_⟩
          rintro ⟨first, others, heq, hfirst⟩
          cases heq
          rw [hhead] at hfirst
          cases hfirst

/-- A request is all or nothing unless it stops at a worker behind the first
one that the database knows and no runner has reported. -/
theorem handleCommand_allOrNothing_iff (request : CommandRequest)
    (db : LocalDb) (workers : WorkerMetaMap) (ids : List String) :
    AllOrNothing request.method workers ids (request.handle db workers ids) ↔
      FirstOrAll db workers ids := by
  rw [request.handle_eq, handleCommand]
  cases hcheck : checkWorkers db ids with
  | error e =>
      refine iff_of_true (Or.inr ⟨⟨e, rfl⟩, rfl⟩) (Or.inl ?_)
      by_contra hall
      push Not at hall
      rw [checkWorkers_eq_ok.mpr hall] at hcheck
      cases hcheck
  | ok _ =>
      have hfound := checkWorkers_eq_ok.mp hcheck
      by_cases hreported : ∀ id ∈ ids, (workers id).isSome = true
      · obtain ⟨sent, hsent, hall⟩ :=
          sendCommands_ok request.method hreported
        simp only [hsent]
        exact iff_of_true (Or.inl ⟨⟨_, rfl⟩, hall⟩) (Or.inr (Or.inl hreported))
      · have hmissing := hreported
        push Not at hmissing
        obtain ⟨id, hid, hunreported⟩ := hmissing
        have hnone := Option.not_isSome_iff_eq_none.mp hunreported
        obtain ⟨sent, e, hsent, hempty⟩ :=
          sendCommands_error request.method hid hnone
        simp only [hsent, AllOrNothing, FirstOrAll]
        constructor
        · rintro (⟨⟨states, hok⟩, -⟩ | ⟨-, hnothing⟩)
          · cases hok
          · exact Or.inr (Or.inr (hempty.mp hnothing))
        · rintro (⟨id, hid, hnone⟩ | hall | hfirst)
          · exact absurd hnone (hfound id hid)
          · exact absurd hall hreported
          · exact Or.inr ⟨⟨e, rfl⟩, hempty.mpr hfirst⟩

/-- Two workers of one pool. -/
def twoWorkers : LocalDb where
  pools :=
    { rows := [{ id := "p", pid := 1, name := "pool", proxiedAccountSs58 := ""
                 encryptedOperator := [], enabled := true, syncOnly := false }]
      sound := by decide }
  workers :=
    { rows := [
        { id := "a", name := "first", endpoint := "http://a", stake := "1"
          enabled := true, syncOnly := false, poolId := some "p" },
        { id := "b", name := "second", endpoint := "http://b", stake := "1"
          enabled := false, syncOnly := false, poolId := some "p" }]
      sound := by decide }

/-- The second worker is disabled, so no runner has it. -/
def onlyFirst : WorkerMetaMap := fun id =>
  if id = "a" then some { id := "a", runner := "r", status := "S_ACTIVE" }
  else none

theorem handleCommand_sends_half :
    ¬ ∀ (request : CommandRequest) (db : LocalDb) (workers : WorkerMetaMap)
        (ids : List String),
      AllOrNothing request.method workers ids
        (request.handle db workers ids) := by
  intro hclaim
  rcases hclaim .restartWorker twoWorkers onlyFirst ["a", "b"] with
    ⟨⟨states, hresponse⟩, -⟩ | ⟨-, hsent⟩
  · cases hresponse
  · cases hsent

end RuntimeBridge.Manager

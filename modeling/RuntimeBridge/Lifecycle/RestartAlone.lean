import Mathlib.Data.List.Nodup
import RuntimeBridge.Lifecycle.Runner

/-! Messages that restart a worker only while no handler is concerned with it. -/

namespace RuntimeBridge.Lifecycle

open Library

section

variable {Id : Type}

namespace Handler

/-- The context that the handler destroys, or has yet to store. -/
def context : Handler Id → Option Nat
  | .destroying context _ => some context
  | .creating _ _ => none
  | .storing context => some context
  | .finished => none

/-- The worker that the handler is concerned with. -/
def worker (contexts : List (WorkerContext Id)) : Handler Id → Option Id
  | .destroying context _ => (contexts[context]?).map (·.worker)
  | .creating worker _ => some worker
  | .storing context => (contexts[context]?).map (·.worker)
  | .finished => none

theorem worker_append {handler : Handler Id}
    {contexts created : List (WorkerContext Id)}
    (hknown : ∀ context, handler.context = some context →
      context < contexts.length) :
    handler.worker (contexts ++ created) = handler.worker contexts := by
  cases handler with
  | destroying context forceRa =>
      rw [worker, List.getElem?_append_left (hknown context rfl)]
      rfl
  | creating worker forceRa => rfl
  | storing context =>
      rw [worker, List.getElem?_append_left (hknown context rfl)]
      rfl
  | finished => rfl

end Handler

namespace Runner

def holding (runner : Runner Id) (position : Nat) : Option Nat :=
  (runner.handlers[position]?).bind Handler.context

def serving (runner : Runner Id) (position : Nat) : Option Id :=
  (runner.handlers[position]?).bind (Handler.worker runner.contexts)

/-- A message names a worker once, and no handler is concerned with it. -/
def restartsAlone [DecidableEq Id] (runner : Runner Id) :
    RunnerEvent Id → Bool
  | .restart ids _ =>
      decide (ids.Nodup) && ids.all fun worker =>
        runner.handlers.all fun handler =>
          decide (handler.worker runner.contexts ≠ some worker)
  | _ => true

theorem kick_handlers (runner : Runner Id) (ids : List Id) :
    (runner.kick ids).handlers = runner.handlers := by
  have hfold : ∀ (contexts : List Nat) (current : Runner Id),
      (contexts.foldl (fun runner context =>
        runner.update context (·.handle .SHOULD_KICK)) current).handlers =
          current.handlers := by
    intro contexts
    induction contexts with
    | nil => exact fun _ => rfl
    | cons context rest ih => exact fun current => ih _
  exact hfold _ runner

theorem restart_handlers {runner : Runner Id} {ids : List Id} {position : Nat}
    {handler : Handler Id} {forceRa : Bool}
    (hhandler : (runner.restart ids forceRa).handlers[position]? = some handler) :
    runner.handlers[position]? = some handler ∨
      runner.handlers.length ≤ position ∧ ∃ context,
        (runner.named ids)[position - runner.handlers.length]? = some context ∧
          handler = .destroying context forceRa := by
  rcases Nat.lt_or_ge position runner.handlers.length with hlt | hge
  · exact Or.inl ((List.getElem?_append_left hlt).symm.trans hhandler)
  · rw [restart, List.getElem?_append_right hge,
      List.getElem?_map] at hhandler
    obtain ⟨context, hnamed, rfl⟩ := Option.map_eq_some_iff.mp hhandler
    exact Or.inr ⟨hge, context, hnamed, rfl⟩

end Runner

/-- Handlers are concerned with different workers, and no context of a worker
is live but the one that its handler holds. -/
structure Alone [DecidableEq Id] (runner : Runner Id) : Prop where
  known : ∀ position context, runner.holding position = some context →
    context < runner.contexts.length
  apart : ∀ first second worker, runner.serving first = some worker →
    runner.serving second = some worker → first = second
  held : ∀ position worker context, runner.serving position = some worker →
    runner.live worker context = true → runner.holding position = some context

/-- A step of handlers that are under way. -/
structure Advances [DecidableEq Id] (before after : Runner Id) : Prop where
  contexts : ∀ context, context < before.contexts.length →
    context < after.contexts.length
  known : ∀ position context, after.holding position = some context →
    before.holding position = some context ∨ context < after.contexts.length
  serving : ∀ position worker, after.serving position = some worker →
    before.serving position = some worker
  holding : ∀ position worker context, after.serving position = some worker →
    after.live worker context = true →
    before.holding position = some context →
    after.holding position = some context
  live : ∀ worker context, after.live worker context = true →
    before.live worker context = true ∨
      ∃ position, after.serving position = some worker ∧
        after.holding position = some context

/-- No context is created, or revived, or given to another worker. -/
structure Kept [DecidableEq Id] (before after : Runner Id) : Prop where
  contexts : ∀ context, context < before.contexts.length →
    context < after.contexts.length
  worker : ∀ handler : Handler Id,
    handler.worker after.contexts = handler.worker before.contexts
  live : ∀ worker context, after.live worker context = true →
    before.live worker context = true

variable [DecidableEq Id] {runner before after : Runner Id}
  {worker : Id} {context position : Nat} {handler old : Handler Id}
  {ids : List Id}

theorem Advances.alone (h : Advances before after) (halone : Alone before) :
    Alone after where
  known := fun position context hholding => by
    rcases h.known position context hholding with hbefore | hlt
    · exact h.contexts context (halone.known position context hbefore)
    · exact hlt
  apart := fun first second worker hfirst hsecond =>
    halone.apart first second worker (h.serving first worker hfirst)
      (h.serving second worker hsecond)
  held := fun position worker context hserving hlive => by
    have hbefore := h.serving position worker hserving
    rcases h.live worker context hlive with hold | ⟨other, hother, hholding⟩
    · exact h.holding position worker context hserving hlive
        (halone.held position worker context hbefore hold)
    · cases halone.apart position other worker hbefore
        (h.serving other worker hother)
      exact hholding

theorem Fades.kept (h : Fades before after) : Kept before after where
  contexts := fun context hlt => by
    obtain ⟨change, -, hcontexts⟩ := h.contexts
    have hsome := hcontexts context
    rw [List.getElem?_eq_getElem hlt] at hsome
    exact (List.getElem?_eq_some_iff.mp hsome).1
  worker := fun handler => by
    obtain ⟨change, hchange, hcontexts⟩ := h.contexts
    have hworker : ∀ context : Nat,
        (after.contexts[context]?).map WorkerContext.worker =
          (before.contexts[context]?).map WorkerContext.worker := by
      intro context
      rw [hcontexts, Option.map_map]
      congr 1
      funext record
      exact (hchange context record).1
    cases handler with
    | destroying context forceRa => exact hworker context
    | creating worker forceRa => rfl
    | storing context => exact hworker context
    | finished => rfl
  live := fun _ _ hlive => h.live hlive

/-- The handlers of a step that creates nothing are what they were, or have gone
on with the same worker. -/
theorem Kept.advances (h : Kept before after)
    (hmoved : ∀ position : Nat, after.handlers[position]? = before.handlers[position]? ∨
      ∃ old handler : Handler Id, before.handlers[position]? = some old ∧
        after.handlers[position]? = some handler ∧ handler.context = none ∧
        ∀ worker, handler.worker before.contexts = some worker →
          old.worker before.contexts = some worker ∧
            ∀ context, after.live worker context = true →
              old.context ≠ some context) :
    Advances before after where
  contexts := fun context hlt => h.contexts context hlt
  known := fun position context hholding => by
    rcases hmoved position with hsame | ⟨old, handler, -, hafter, hnone, -⟩
    · rw [Runner.holding, hsame] at hholding
      exact Or.inl hholding
    · rw [Runner.holding, hafter, Option.bind_some, hnone] at hholding
      cases hholding
  serving := fun position worker hserving => by
    obtain ⟨handler, hhandler, hworker⟩ := Option.bind_eq_some_iff.mp hserving
    rw [h.worker] at hworker
    rcases hmoved position with hsame | ⟨old, handler', hold, hafter, -, hgone⟩
    · exact Option.bind_eq_some_iff.mpr
        ⟨handler, hsame.symm.trans hhandler, hworker⟩
    · cases Option.some.inj (hhandler.symm.trans hafter)
      exact Option.bind_eq_some_iff.mpr ⟨old, hold, (hgone worker hworker).1⟩
  holding := fun position worker context hserving hlive hholding => by
    obtain ⟨handler, hhandler, hworker⟩ := Option.bind_eq_some_iff.mp hserving
    rw [h.worker] at hworker
    rcases hmoved position with hsame | ⟨old, handler', hold, hafter, -, hgone⟩
    · rw [Runner.holding, hsame]
      exact hholding
    · cases Option.some.inj (hhandler.symm.trans hafter)
      rw [Runner.holding, hold, Option.bind_some] at hholding
      exact absurd hholding ((hgone worker hworker).2 context hlive)
  live := fun worker context hlive => Or.inl (h.live worker context hlive)

theorem Kept.advances_of_same (h : Kept before after)
    (hsame : after.handlers = before.handlers) : Advances before after :=
  h.advances fun _ => Or.inl (by rw [hsame])

theorem Kept.advances_of_set (h : Kept before after)
    (hset : after.handlers = before.handlers.set position handler)
    (hold : before.handlers[position]? = some old)
    (hnone : handler.context = none)
    (hgone : ∀ worker, handler.worker before.contexts = some worker →
      old.worker before.contexts = some worker ∧
        ∀ context, after.live worker context = true →
          old.context ≠ some context) :
    Advances before after := by
  obtain ⟨hlt, -⟩ := List.getElem?_eq_some_iff.mp hold
  refine h.advances fun other => ?_
  rcases eq_or_ne position other with rfl | hne
  · refine Or.inr ⟨old, handler, hold, ?_, hnone, hgone⟩
    rw [hset, List.getElem?_set_self hlt]
  · exact Or.inl (by rw [hset, List.getElem?_set_ne hne])

theorem update_destroy_live :
    (runner.update context (·.destroy)).live worker context = false := by
  cases hlive : (runner.update context (·.destroy)).live worker context with
  | false => rfl
  | true =>
      obtain ⟨record, hrecord, -, hdestroyed⟩ := live_iff.mp hlive
      rw [Runner.update, List.getElem?_modify_eq] at hrecord
      obtain ⟨old, -, rfl⟩ := Option.map_eq_some_iff.mp hrecord
      cases hdestroyed

/-- The handler goes on from the destruction. -/
theorem advances_destroyed {record : WorkerContext Id} {forceRa : Bool}
    (hold : runner.handlers[position]? = some (.destroying context forceRa))
    (hrecord : runner.contexts[context]? = some record) :
    Advances runner ((runner.update context (·.destroy)).setHandler position
      (.creating record.worker forceRa)) := by
  have hfades : Fades runner ((runner.update context (·.destroy)).setHandler
      position (.creating record.worker forceRa)) :=
    (Fades.update WorkerContext.destroy_fading).trans
      (Fades.setHandler hold nofun nofun)
  refine hfades.kept.advances_of_set rfl hold rfl fun worker hworker => ⟨?_, ?_⟩
  · rw [Handler.worker, hrecord]
    exact hworker
  · rintro other hlive heq
    cases heq
    exact absurd (update_destroy_live.symm.trans hlive) nofun

/-- The handler has thrown, or has stored its context. -/
theorem advances_finished (hold : before.handlers[position]? = some old)
    (hcontexts : after.contexts = before.contexts)
    (hset : after.handlers = before.handlers.set position .finished) :
    Advances before after := by
  have hkept : Kept before after :=
    { contexts := fun context hlt => by rwa [hcontexts]
      worker := fun handler => by rw [hcontexts]
      live := fun worker context hlive => by
        rwa [Runner.live, hcontexts] at hlive }
  exact hkept.advances_of_set hset hold rfl fun _ => nofun

theorem serving_create {forceRa : Bool} (halone : Alone runner)
    (hold : runner.handlers[position]? = some (.creating worker forceRa))
    (other : Nat) :
    (runner.create position worker forceRa).serving other =
      runner.serving other := by
  obtain ⟨hlt, -⟩ := List.getElem?_eq_some_iff.mp hold
  rcases eq_or_ne position other with rfl | hne
  · rw [Runner.serving, Runner.serving, hold, Runner.create,
      List.getElem?_set_self hlt]
    simp [Handler.worker, WorkerContext.create]
  · rw [Runner.serving, Runner.serving, Runner.create,
      List.getElem?_set_ne hne]
    cases hhandler : runner.handlers[other]? with
    | none => rfl
    | some handler =>
        refine Handler.worker_append fun context hcontext => halone.known other context ?_
        rw [Runner.holding, hhandler]
        exact hcontext

theorem advances_created {forceRa : Bool} (halone : Alone runner)
    (hold : runner.handlers[position]? = some (.creating worker forceRa)) :
    Advances runner (runner.create position worker forceRa) := by
  obtain ⟨hlt, -⟩ := List.getElem?_eq_some_iff.mp hold
  have hself : (runner.create position worker forceRa).holding position =
      some runner.contexts.length := by
    rw [Runner.holding, Runner.create, List.getElem?_set_self hlt]
    rfl
  have hother : ∀ other, position ≠ other →
      (runner.create position worker forceRa).holding other =
        runner.holding other := by
    intro other hne
    rw [Runner.holding, Runner.holding, Runner.create,
      List.getElem?_set_ne hne]
  have hlength : (runner.create position worker forceRa).contexts.length =
      runner.contexts.length + 1 := List.length_append
  refine
    { contexts := ?_, known := ?_, serving := ?_, holding := ?_, live := ?_ }
  · intro context hcontext
    omega
  · intro other context hholding
    rcases eq_or_ne position other with rfl | hne
    · cases Option.some.inj (hself.symm.trans hholding)
      exact Or.inr (by omega)
    · exact Or.inl ((hother other hne).symm.trans hholding)
  · intro other worker hserving
    exact (serving_create halone hold other).symm.trans hserving
  · intro other worker context hserving hlive hholding
    rcases eq_or_ne position other with rfl | hne
    · rw [Runner.holding, hold] at hholding
      cases hholding
    · exact (hother other hne).trans hholding
  · intro other context hlive
    rcases live_create.mp hlive with hbefore | ⟨rfl, rfl⟩
    · exact Or.inl hbefore
    · refine Or.inr ⟨position, ?_, hself⟩
      rw [serving_create halone hold, Runner.serving, hold]
      rfl

theorem RunnerOk.named_worker (h : RunnerOk runner)
    (hmem : context ∈ runner.named ids) :
    ∃ record, runner.contexts[context]? = some record ∧
      record.worker ∈ ids ∧ runner.workers record.worker = some context := by
  obtain ⟨worker, hworker, hmapped⟩ := List.mem_filterMap.mp hmem
  obtain ⟨record, hrecord, rfl⟩ := h.mapped worker context hmapped
  exact ⟨record, hrecord, hworker, hmapped⟩

theorem RunnerOk.named_nodup (h : RunnerOk runner) (hnodup : ids.Nodup) :
    (runner.named ids).Nodup := by
  refine hnodup.filterMap fun first second context hfirst hsecond => ?_
  obtain ⟨record, hrecord, rfl⟩ := h.mapped first context hfirst
  obtain ⟨other, hother, rfl⟩ := h.mapped second context hsecond
  cases Option.some.inj (hrecord.symm.trans hother)
  rfl

/-- A handler after the message is one before it, or a new one, which has read
the map. -/
theorem RunnerOk.restart_serving {forceRa : Bool} (h : RunnerOk runner)
    (hserving : (runner.restart ids forceRa).serving position = some worker) :
    (runner.serving position = some worker ∧
        (runner.restart ids forceRa).holding position =
          runner.holding position) ∨
      runner.handlers.length ≤ position ∧ worker ∈ ids ∧
        ∃ context, runner.workers worker = some context ∧
          (runner.restart ids forceRa).holding position = some context ∧
          (runner.named ids)[position - runner.handlers.length]? =
            some context := by
  obtain ⟨handler, hhandler, hworker⟩ := Option.bind_eq_some_iff.mp hserving
  rcases Runner.restart_handlers hhandler with hold | ⟨hge, context, hnamed, rfl⟩
  · refine Or.inl ⟨Option.bind_eq_some_iff.mpr ⟨handler, hold, hworker⟩, ?_⟩
    rw [Runner.holding, Runner.holding, hhandler, hold]
  · obtain ⟨record, hrecord, hmem, hmapped⟩ :=
      h.named_worker (List.mem_of_getElem? hnamed)
    obtain ⟨found, hfound, rfl⟩ := Option.map_eq_some_iff.mp hworker
    cases Option.some.inj (hrecord.symm.trans hfound)
    refine Or.inr ⟨hge, hmem, context, hmapped, ?_, hnamed⟩
    rw [Runner.holding, hhandler]
    rfl

theorem Alone.restart {forceRa : Bool} (h : Alone runner) (hok : RunnerOk runner)
    (hguard : runner.restartsAlone (.restart ids forceRa) = true) :
    Alone (runner.restart ids forceRa) := by
  rw [Runner.restartsAlone, Bool.and_eq_true, decide_eq_true_eq,
    List.all_eq_true] at hguard
  obtain ⟨hnodup, hfree⟩ := hguard
  have hidle : ∀ worker ∈ ids, ∀ position,
      runner.serving position ≠ some worker := by
    intro worker hmem position hserving
    obtain ⟨handler, hhandler, hworker⟩ := Option.bind_eq_some_iff.mp hserving
    have hnone := List.all_eq_true.mp (hfree worker hmem) handler
      (List.mem_of_getElem? hhandler)
    exact absurd hworker (decide_eq_true_eq.mp hnone)
  refine { known := ?_, apart := ?_, held := ?_ }
  · intro position context hholding
    obtain ⟨handler, hhandler, hcontext⟩ := Option.bind_eq_some_iff.mp hholding
    rcases Runner.restart_handlers hhandler with hold | ⟨-, named, hnamed, rfl⟩
    · exact h.known position context
        (Option.bind_eq_some_iff.mpr ⟨handler, hold, hcontext⟩)
    · obtain ⟨record, hrecord, -⟩ :=
        hok.named_worker (List.mem_of_getElem? hnamed)
      cases hcontext
      exact (List.getElem?_eq_some_iff.mp hrecord).1
  · intro first second worker hfirst hsecond
    rcases hok.restart_serving hfirst with
      ⟨hfirst, -⟩ | ⟨hge, hmem, context, hmapped, -, hnamed⟩
    · rcases hok.restart_serving hsecond with
        ⟨hsecond, -⟩ | ⟨-, hmem, -⟩
      · exact h.apart first second worker hfirst hsecond
      · exact absurd hfirst (hidle worker hmem first)
    · rcases hok.restart_serving hsecond with
        ⟨hsecond, -⟩ | ⟨hge', -, other, hmapped', -, hnamed'⟩
      · exact absurd hsecond (hidle worker hmem second)
      · cases Option.some.inj (hmapped.symm.trans hmapped')
        have hindex := (List.getElem?_inj
          (List.getElem?_eq_some_iff.mp hnamed).1 (hok.named_nodup hnodup)).mp
            (hnamed.trans hnamed'.symm)
        omega
  · intro position worker context hserving hlive
    rcases hok.restart_serving hserving with
      ⟨hbefore, hsame⟩ | ⟨-, hmem, other, hmapped, hholding, -⟩
    · rw [hsame]
      exact h.held position worker context hbefore hlive
    · rw [hholding]
      rcases (hok.one worker context hlive).2 with hstored | hstoring
      · exact hmapped.symm.trans hstored
      · obtain ⟨index, hindex⟩ := List.mem_iff_getElem?.mp hstoring
        obtain ⟨record, hrecord, hworker, -⟩ := live_iff.mp hlive
        refine absurd ?_ (hidle worker hmem index)
        rw [Runner.serving, hindex, Option.bind_some, Handler.worker]
        exact Option.map_eq_some_iff.mpr ⟨record, hrecord, hworker⟩

theorem Alone.step {event : RunnerEvent Id} (h : Alone before)
    (hok : RunnerOk before) (hguard : before.restartsAlone event = true)
    (taken : before.step event = some after) : Alone after := by
  cases event with
  | restart ids forceRa =>
      cases taken
      exact h.restart hok hguard
  | kick ids =>
      cases taken
      exact ((kick_fades before ids).kept.advances_of_same
        (before.kick_handlers ids)).alone h
  | handle context event =>
      cases taken
      exact ((Fades.update (WorkerContext.handle_fading event)).kept
        |>.advances_of_same rfl).alone h
  | destroys context failed =>
      simp only [Runner.step] at taken
      split at taken
      · split at taken
        · cases taken
          exact ((Fades.update (WorkerContext.destroys_fading failed)).kept
            |>.advances_of_same rfl).alone h
        · cases taken
      · cases taken
  | proceed position =>
      simp only [Runner.step, Runner.proceed] at taken
      split at taken
      · next context forceRa hold =>
          obtain ⟨record, hrecord, rfl⟩ := Option.map_eq_some_iff.mp taken
          exact (advances_destroyed hold hrecord).alone h
      · next worker forceRa hold =>
          cases taken
          exact (advances_created h hold).alone h
      · next context hold =>
          obtain ⟨record, -, rfl⟩ := Option.map_eq_some_iff.mp taken
          exact Advances.alone (advances_finished hold rfl rfl) h
      · cases taken
      · cases taken
  | reject position =>
      simp only [Runner.step] at taken
      split at taken
      · next hold =>
          cases taken
          exact Advances.alone (advances_finished hold rfl rfl) h
      · next hold =>
          cases taken
          exact Advances.alone (advances_finished hold rfl rfl) h
      · cases taken

/-- A handler that is alone with its worker creates and stores over destroyed
contexts. -/
theorem Alone.destroyedFirst {event : RunnerEvent Id} (h : Alone before)
    (hok : RunnerOk before) (taken : before.step event = some after) :
    destroyedFirst before event := by
  rcases Runner.step_cases taken with ⟨-, hguard⟩ |
    ⟨position, worker, forceRa, rfl, hold, rfl⟩ |
    ⟨position, context, record, rfl, hold, hrecord, rfl⟩
  · exact hguard
  · simp only [Lifecycle.destroyedFirst, Runner.overDestroyed, hold]
    refine hok.idle_iff.mpr fun context => ?_
    cases hlive : before.live worker context with
    | false => rfl
    | true =>
        have hholding := h.held position worker context
          (by rw [Runner.serving, hold]; rfl) hlive
        rw [Runner.holding, hold] at hholding
        cases hholding
  · simp only [Lifecycle.destroyedFirst, Runner.overDestroyed, hold, hrecord,
      Option.all_some, Runner.free, Option.all_eq_true, Bool.not_eq_true']
    intro other hstored
    cases hlive : before.live record.worker other with
    | false => rfl
    | true =>
        have hholding := h.held position record.worker other
          (by rw [Runner.serving, hold, Option.bind_some, Handler.worker,
            hrecord]; rfl) hlive
        rw [Runner.holding, hold] at hholding
        cases hholding
        exact absurd hstored
          (hok.unstored record.worker context (List.mem_of_getElem? hold))

theorem alone_start (hnodup : ids.Nodup) : Alone (runnerMachine ids).start where
  known := fun position context hholding => by
    obtain ⟨handler, hhandler, hcontext⟩ := Option.bind_eq_some_iff.mp hholding
    obtain ⟨worker, -, rfl⟩ :=
      List.mem_map.mp (List.mem_of_getElem? hhandler)
    cases hcontext
  apart := fun first second worker hfirst hsecond => by
    have hrow : ∀ position,
        (runnerMachine ids).start.serving position = some worker →
          ids[position]? = some worker := by
      intro position hserving
      obtain ⟨handler, hhandler, hworker⟩ :=
        Option.bind_eq_some_iff.mp hserving
      rw [runnerMachine, List.getElem?_map] at hhandler
      obtain ⟨row, hrow, rfl⟩ := Option.map_eq_some_iff.mp hhandler
      exact hrow.trans hworker
    have hlt := (List.getElem?_eq_some_iff.mp (hrow first hfirst)).1
    exact (List.getElem?_inj hlt hnodup).mp
      ((hrow first hfirst).trans (hrow second hsecond).symm)
  held := nofun

/-- Messages that find no handler of their workers under way only take steps
that create and store over destroyed contexts. -/
theorem restartsAlone_destroyedFirst (hnodup : ids.Nodup)
    (h : (runnerMachine ids).Reaches
      (fun runner event => runner.restartsAlone event = true) runner) :
    (runnerMachine ids).Reaches destroyedFirst runner ∧ Alone runner := by
  have hpreserved : (runnerMachine ids).Preserves
      (fun runner event => runner.restartsAlone event = true) fun runner =>
        (runnerMachine ids).Reaches destroyedFirst runner ∧ Alone runner := by
    rintro before event after hguard ⟨hreached, halone⟩ taken
    have hok := runnerOk_reaches hreached
    exact ⟨hreached.leads
        (Machine.Next.leads ⟨event, halone.destroyedFirst hok taken, taken⟩),
      halone.step hok hguard taken⟩
  exact hpreserved.reaches
    ⟨Relation.ReflTransGen.refl, alone_start hnodup⟩ h

end

end RuntimeBridge.Lifecycle

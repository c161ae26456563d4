import SpatialPlatform.Engine.Workers.Python.DemoWorker

/-!
# The next task for the demo worker

The host and the demo worker over their two pipes, in every order of their
steps. The host may submit again as soon as it has read how a task ended. The
worker has a task until its queue has been empty for a while and the thread is
found dead, and drops what it is asked before that.

* `handover_iff` — in every run, each request that follows a report is executed
  or still queued exactly when the worker has given up the old task whenever it
  takes such a request.
* `second_task_dropped` — two tasks, the second one submitted as soon as the
  first is completed.
-/

namespace SpatialPlatform.Engine

open SpatialPlatform.Core SpatialPlatform.Lib

/-- The host and the worker. `sent` and `reported` record which requests were
written, and whether the end of the last task has been read. -/
structure DemoSession where
  channel : Channel := {}
  /-- Written by the host, not read by the worker. -/
  stdin : List HostMessage := []
  worker : DemoWorker := {}
  sent : List SentRequest := []
  reported : Bool := false
  deriving DecidableEq, Repr

inductive DemoAction where
  | submit (request : TaskRequest) (storage : Storage) (written : Bool)
  | cancel (taskId : Uuid) (reason : String) (written : Bool)
  | wait (late : Bool) (storage : Storage)
  | shutdown
  /-- The thread that reads frames. -/
  | read
  | take
  | timeOut
  | reap
  | run (io : DemoInputs)
  | raise
  | heartbeat
  /-- The worker's process ends. -/
  | exit

namespace DemoSession

variable (hasStore : Bool)

/-- `Submit` hands the request to the worker. -/
def dispatches (storage : Storage) (request : TaskRequest) : Bool :=
  request.inputRefs.isEmpty || (materializeInputs hasStore storage request).isOk

/-- The frame tells how the task submitted last ended. -/
def reports (executor : ProcessExecutor) : FrameRead → Bool
  | .message (.taskCompleted taskId _) | .message (.taskFailed taskId _ _ _) =>
      taskId = formatUuid executor.taskUuid
  | _ => false

/-- The host writes a frame. -/
def write (c : DemoSession) (written : Bool) (message : HostMessage) : DemoSession :=
  if written then { c with stdin := c.stdin ++ [message] } else c

/-- A step of the worker that may write a frame. -/
def work (c : DemoSession) : Option (DemoWorker × Option WorkerMessage) → Option DemoSession
  | none => none
  | some (worker, message) =>
      some
        { c with
          worker
          channel := { c.channel with frames := c.channel.frames ++ message.toList.map .message } }

/-- One step of either side. -/
def step : DemoAction → DemoSession → Option DemoSession
  | .submit request storage written, c =>
      match c.channel.executor.submit hasStore { storage := storage } request with
      | .error _ => some c
      | .ok executor =>
          let c' := { c with channel := { c.channel with executor }, reported := false }
          let sent : SentRequest := ⟨request, c.reported⟩
          if dispatches hasStore storage request && written then
            some { c' with stdin := c.stdin ++ [.taskRequest sent], sent := c.sent ++ [sent] }
          else some c'
  | .cancel taskId reason written, c =>
      let executor := c.channel.executor
      let asks := executor.running && formatUuid taskId = executor.taskId && executor.child
      some ({ c with
          channel := { c.channel with executor := executor.cancel written taskId reason } }.write
        (asks && written) (.taskCancelled (formatUuid taskId) reason))
  | .wait late storage, c =>
      (c.channel.step hasStore (.wait late storage)).map fun channel =>
        { c with
          channel := { channel with exited := channel.exited || !channel.executor.child }
          reported := c.reported || (c.channel.heard late).any (reports c.channel.executor) }
  | .shutdown, c =>
      (c.channel.step hasStore .shutdown).map fun channel =>
        { c with channel }.write c.channel.executor.child .shutdown
  | action, c =>
      if c.channel.exited then none
      else match action with
      | .read =>
          match c.stdin with
          | [] => none
          | message :: rest => some { c with
              stdin := rest
              worker := { c.worker with inbound := c.worker.inbound ++ [message] } }
      | .take => c.work (c.worker.take.map (·, none))
      | .timeOut => c.work (c.worker.timeOut.map (·, none))
      | .reap => c.work (c.worker.reap.map (·, none))
      | .run io => c.work (c.worker.run io)
      | .raise => c.work (c.worker.raise.map (·, none))
      | .heartbeat => c.work (some (c.worker, some .heartbeat))
      | _ => some { c with channel := { c.channel with exited := true } }

/-- The requests on their way. -/
def queued (c : DemoSession) : List SentRequest :=
  (c.worker.inbound ++ c.stdin).filterMap (·.sent?)

/-- Where the requests are is the same. -/
def SameRequests (c c' : DemoSession) : Prop :=
  c'.sent = c.sent ∧ c'.queued = c.queued ∧ c'.worker.started = c.worker.started ∧
    c'.worker.refused = c.worker.refused

/-- What a step does with the requests: one is sent, one is taken and started or
refused, or none moves. -/
inductive Moves (c c' : DemoSession) : DemoAction → Prop where
  | sent {a : DemoAction} (r : SentRequest) (hsent : c'.sent = c.sent ++ [r])
      (hqueued : c'.queued = c.queued ++ [r]) (hstarted : c'.worker.started = c.worker.started)
      (hrefused : c'.worker.refused = c.worker.refused) : Moves c c' a
  | started (r : SentRequest) (rest : List HostMessage) (hmain : c.worker.main = .get)
      (hinbound : c.worker.inbound = .taskRequest r :: rest) (hactive : c.worker.activeTask = none)
      (hsent : c'.sent = c.sent) (hqueued : c.queued = r :: c'.queued)
      (hstarted : c'.worker.started = c.worker.started ++ [r])
      (hrefused : c'.worker.refused = c.worker.refused) : Moves c c' .take
  | refused (r : SentRequest) (rest : List HostMessage) (hmain : c.worker.main = .get)
      (hinbound : c.worker.inbound = .taskRequest r :: rest) (hactive : c.worker.activeTask ≠ none)
      (hsent : c'.sent = c.sent) (hqueued : c.queued = r :: c'.queued)
      (hstarted : c'.worker.started = c.worker.started)
      (hrefused : c'.worker.refused = c.worker.refused ++ [r]) : Moves c c' .take
  | same {a : DemoAction} (h : SameRequests c c') : Moves c c' a

variable {hasStore : Bool} {c c' : DemoSession}

theorem work_eq_some {result : Option (DemoWorker × Option WorkerMessage)}
    (h : c.work result = some c') :
    ∃ worker message, result = some (worker, message) ∧ c'.sent = c.sent ∧ c'.stdin = c.stdin ∧
      c'.worker = worker := by
  unfold work at h
  split at h
  · cases h
  · cases h
    exact ⟨_, _, rfl, rfl, rfl, rfl⟩

/-- A step of the worker that leaves its queue alone moves no request. -/
theorem sameRequests_work {result : Option (DemoWorker × Option WorkerMessage)}
    (h : c.work result = some c')
    (hsame : ∀ worker message, result = some (worker, message) → c.worker.SameRequests worker) :
    SameRequests c c' := by
  obtain ⟨worker, message, hresult, hsent, hstdin, rfl⟩ := work_eq_some h
  obtain ⟨hinbound, hstarted, hrefused⟩ := hsame _ message hresult
  exact ⟨hsent, by simp only [queued, hinbound, hstdin], hstarted, hrefused⟩

theorem sameRequests_work_quiet {result : Option DemoWorker}
    (h : c.work (result.map (·, none)) = some c')
    (hsame : ∀ worker, result = some worker → c.worker.SameRequests worker) :
    SameRequests c c' := by
  apply sameRequests_work h
  intro worker message hresult
  obtain ⟨worker', hworker, heq⟩ := Option.map_eq_some_iff.mp hresult
  cases heq
  exact hsame worker hworker

theorem moves_take (h : c.work (c.worker.take.map (·, none)) = some c') : Moves c c' .take := by
  obtain ⟨worker, message, hresult, hsent, hstdin, rfl⟩ := work_eq_some h
  obtain ⟨worker', htake, heq⟩ := Option.map_eq_some_iff.mp hresult
  cases heq
  obtain ⟨frame, rest, hmain, hinbound, hworker⟩ := DemoWorker.take_eq_some htake
  have hrest : c'.worker.inbound = rest := by rw [hworker, DemoWorker.handle_inbound]
  cases hframe : frame.sent? with
  | none =>
      obtain ⟨_, hstarted, hrefused⟩ :=
        DemoWorker.sameRequests_handle { c.worker with inbound := rest } hframe
      apply Moves.same
      refine ⟨hsent, ?_, hworker ▸ hstarted, hworker ▸ hrefused⟩
      simp only [queued, hrest, hstdin, hinbound, List.cons_append, List.filterMap_cons, hframe]
  | some r =>
      obtain rfl : frame = .taskRequest r := by
        cases frame <;> cases hframe
        rfl
      have hqueued : c.queued = r :: c'.queued := by
        simp only [queued, hrest, hstdin, hinbound, List.cons_append, List.filterMap_cons, hframe]
      rcases DemoWorker.handle_taskRequest { c.worker with inbound := rest } r with
        ⟨hactive, hstarted, hrefused⟩ | ⟨hactive, hstarted, hrefused⟩
      · exact .started r rest hmain hinbound hactive hsent hqueued (hworker ▸ hstarted)
          (hworker ▸ hrefused)
      · exact .refused r rest hmain hinbound hactive hsent hqueued (hworker ▸ hstarted)
          (hworker ▸ hrefused)

theorem sameRequests_write {written : Bool} {message : HostMessage} (h : message.sent? = none)
    (c : DemoSession) : SameRequests c (c.write written message) := by
  unfold write
  split
  · refine ⟨rfl, ?_, rfl, rfl⟩
    simp [queued, h]
  · exact ⟨rfl, rfl, rfl, rfl⟩

theorem moves_submit {request : TaskRequest} {storage : Storage} {written : Bool}
    (h : c.step hasStore (.submit request storage written) = some c') :
    Moves c c' (.submit request storage written) := by
  simp only [step] at h
  split at h
  · cases h
    exact .same ⟨rfl, rfl, rfl, rfl⟩
  · split at h
    · cases h
      refine .sent ⟨request, c.reported⟩ rfl ?_ rfl rfl
      simp [queued, HostMessage.sent?]
    · cases h
      exact .same ⟨rfl, rfl, rfl, rfl⟩

theorem moves_read (h : c.step hasStore .read = some c') : Moves c c' .read := by
  simp only [step, Option.ite_none_left_eq_some] at h
  obtain ⟨_, h⟩ := h
  split at h
  · cases h
  · next message rest hstdin =>
      cases h
      refine .same ⟨rfl, ?_, rfl, rfl⟩
      simp [queued, hstdin]

theorem moves_of_step {a : DemoAction} (h : c.step hasStore a = some c') : Moves c c' a := by
  cases a with
  | submit request storage written => exact moves_submit h
  | cancel taskId reason written =>
      simp only [step, Option.some.injEq] at h
      subst h
      apply Moves.same
      exact sameRequests_write rfl { c with channel := { c.channel with
        executor := c.channel.executor.cancel written taskId reason } }
  | wait late storage =>
      simp only [step] at h
      obtain ⟨channel, _, rfl⟩ := Option.map_eq_some_iff.mp h
      exact .same ⟨rfl, rfl, rfl, rfl⟩
  | shutdown =>
      simp only [step] at h
      obtain ⟨channel, _, rfl⟩ := Option.map_eq_some_iff.mp h
      apply Moves.same
      exact sameRequests_write rfl { c with channel }
  -- the two actions that touch the queue
  | read => exact moves_read h
  | take =>
      simp only [step, Option.ite_none_left_eq_some] at h
      exact moves_take h.2
  | timeOut =>
      simp only [step, Option.ite_none_left_eq_some] at h
      exact .same (sameRequests_work_quiet h.2 fun _ => DemoWorker.sameRequests_timeOut)
  | reap =>
      simp only [step, Option.ite_none_left_eq_some] at h
      exact .same (sameRequests_work_quiet h.2 fun _ => DemoWorker.sameRequests_reap)
  | run io =>
      simp only [step, Option.ite_none_left_eq_some] at h
      exact .same (sameRequests_work h.2 fun _ _ => DemoWorker.sameRequests_run)
  | raise =>
      simp only [step, Option.ite_none_left_eq_some] at h
      exact .same (sameRequests_work_quiet h.2 fun _ => DemoWorker.sameRequests_raise)
  | heartbeat =>
      simp only [step, Option.ite_none_left_eq_some] at h
      apply Moves.same
      apply sameRequests_work h.2
      rintro _ _ ⟨⟩
      exact ⟨rfl, rfl, rfl⟩
  | exit =>
      simp only [step, Option.ite_none_left_eq_some] at h
      cases h.2
      exact .same ⟨rfl, rfl, rfl, rfl⟩

/-! ## What becomes of the requests

Each request that was sent is started, refused, or on its way: an invariant of
every interleaving. A request that follows a report is refused only if the
worker still has its task when it takes it, so the condition along the run is
about these steps. -/

/-- Each request sent after a report has been started or is on its way, as often as it was sent. -/
def Served (c : DemoSession) : Prop :=
  ∀ r : SentRequest, r.afterReport = true →
    c.sent.count r = c.worker.started.count r + c.queued.count r

/-- No request is lost: each one is started, refused or on its way. -/
def Accounted (c : DemoSession) : Prop :=
  ∀ r, c.sent.count r = c.worker.started.count r + c.worker.refused.count r + c.queued.count r

theorem Accounted.moves {a : DemoAction} (h : c.Accounted) (hmoves : Moves c c' a) :
    c'.Accounted := by
  intro r'
  have hr := h r'
  cases hmoves with
  | sent r hsent hqueued hstarted hrefused =>
      rw [hsent, hqueued, hstarted, hrefused, List.count_append, List.count_append, hr]
      omega
  | started r rest _ _ _ hsent hqueued hstarted hrefused =>
      rw [hqueued, List.count_cons] at hr
      rw [hsent, hstarted, hrefused, List.count_append, List.count_singleton, hr]
      omega
  | refused r rest _ _ _ hsent hqueued hstarted hrefused =>
      rw [hqueued, List.count_cons] at hr
      rw [hsent, hstarted, hrefused, List.count_append, List.count_singleton, hr]
      omega
  | same hsame =>
      obtain ⟨hsent, hqueued, hstarted, hrefused⟩ := hsame
      rw [hsent, hqueued, hstarted, hrefused, hr]

theorem Accounted.served_iff (h : c.Accounted) :
    c.Served ↔ ∀ r ∈ c.worker.refused, r.afterReport = false := by
  constructor
  · intro hserved r hmem
    by_contra hafter
    have hcount := hserved r (by simpa using hafter)
    have hpos := List.count_pos_iff.mpr hmem
    have hall := h r
    omega
  · intro hrefused r hafter
    have hnot : r ∉ c.worker.refused := by
      intro hmem
      rw [hrefused r hmem] at hafter
      cases hafter
    rw [h r, List.count_eq_zero.mpr hnot, Nat.add_zero]

/-- After the action, each request sent after a report has been started or is on its way. -/
def ServedAfter (hasStore : Bool) (a : DemoAction) (c : DemoSession) : Prop :=
  ∀ c', c.step hasStore a = some c' → c'.Served

/-- The worker has given up its last task when it takes a request sent after a report. -/
def Idle (a : DemoAction) (c : DemoSession) : Prop :=
  a = .take → c.channel.exited = false → c.worker.main = .get →
    ∀ r rest, c.worker.inbound = .taskRequest r :: rest → r.afterReport = true →
      c.worker.activeTask = none

/-- What every session has whose requests were served so far. -/
def Sound (c : DemoSession) : Prop := c.Accounted ∧ c.Served

theorem Sound.step {a : DemoAction} (h : c.Sound) (hidle : Idle a c)
    (hstep : c.step hasStore a = some c') : c'.Sound := by
  have hmoves := moves_of_step hstep
  have haccounted := h.1.moves hmoves
  refine ⟨haccounted, haccounted.served_iff.mpr ?_⟩
  have hrefused := h.1.served_iff.mp h.2
  cases hmoves with
  | sent r _ _ _ hsame => rwa [hsame]
  | started r rest _ _ _ _ _ _ hsame => rwa [hsame]
  | refused r rest hmain hinbound hactive _ _ _ hnew =>
      simp only [DemoSession.step, Option.ite_none_left_eq_some, Bool.not_eq_true] at hstep
      intro r' hmem
      rw [hnew] at hmem
      rcases List.mem_append.mp hmem with hold | hlast
      · exact hrefused r' hold
      · obtain rfl := List.mem_singleton.mp hlast
        by_contra hafter
        exact hactive (hidle rfl hstep.1 hmain r' rest hinbound (by simpa using hafter))
  | same hsame => rwa [hsame.2.2.2]

/-- A request that finds a task is dropped. -/
theorem refused_of_active {r : SentRequest} {rest : List HostMessage}
    (halive : c.channel.exited = false) (hmain : c.worker.main = .get)
    (hinbound : c.worker.inbound = .taskRequest r :: rest) (hactive : c.worker.activeTask ≠ none) :
    ∃ c', c.step hasStore .take = some c' ∧ r ∈ c'.worker.refused := by
  obtain ⟨task, htask⟩ := Option.ne_none_iff_exists'.mp hactive
  simp [step, DemoWorker.take, DemoWorker.handle, halive, hmain, hinbound, htask, work]

theorem Sound.servedAfter_iff {a : DemoAction} (h : c.Sound) :
    ServedAfter hasStore a c ↔ Idle a c := by
  constructor
  · rintro hserved rfl halive hmain r rest hinbound hafter
    by_contra hactive
    obtain ⟨c', hstep, hrefused⟩ : ∃ c', c.step hasStore .take = some c' ∧ r ∈ c'.worker.refused :=
      refused_of_active halive hmain hinbound hactive
    have haccounted := h.1.moves (moves_of_step hstep)
    have hnot := haccounted.served_iff.mp (hserved c' hstep) r hrefused
    rw [hafter] at hnot
    cases hnot
  · exact fun hidle c' hstep => (h.step hidle hstep).2

end DemoSession

/-- The steps of both sides, in any order. -/
def demoSession (hasStore : Bool) : Actions DemoSession DemoAction := ⟨DemoSession.step hasStore⟩

/-- In every run, each request that follows a report is executed or on its way,
after every step, exactly when the worker has given up the old task whenever it
takes such a request. -/
theorem handover_iff (hasStore : Bool) (actions : List DemoAction) :
    (demoSession hasStore).Along (DemoSession.ServedAfter hasStore) actions {} ↔
      (demoSession hasStore).Along DemoSession.Idle actions {} := by
  have hfresh : DemoSession.Sound {} := ⟨fun _ => rfl, fun _ _ => rfl⟩
  refine Actions.along_iff_of_invariant ?_ ?_ hfresh
  · exact fun a c c' h hidle hstep => h.step hidle hstep
  · exact fun a c h => h.servedAfter_iff

/-! ## Two tasks in a row -/

def twoTasks : List DemoAction :=
  let noStorage : Storage := { sha256Hex := fun _ => "" }
  let first := [.submit { taskId := ⟨1⟩ } noStorage true, .read, .take]
  -- accepted, no inputs, eleven times progress, the output, the end of the thread
  let body := List.replicate 15 (.run {}) ++ List.replicate 14 (.wait false noStorage) ++ [.run {}]
  first ++ body ++ [.submit { taskId := ⟨2⟩ } noStorage true, .read, .take]

/-- The host has read that the first task is completed, and the worker drops the second. -/
theorem second_task_dropped : ∃ c, (demoSession false).run twoTasks {} = some c ∧ ¬ c.Served := by
  have hrun : ∃ c, (demoSession false).run twoTasks {} = some c ∧
      c.sent = [⟨{ taskId := ⟨1⟩ }, false⟩, ⟨{ taskId := ⟨2⟩ }, true⟩] ∧
      c.worker.started = [⟨{ taskId := ⟨1⟩ }, false⟩] ∧ c.queued = [] := by
    decide +kernel
  obtain ⟨c, hrun, hsent, hstarted, hqueued⟩ := hrun
  refine ⟨c, hrun, fun hserved => ?_⟩
  have hcount := hserved ⟨{ taskId := ⟨2⟩ }, true⟩ rfl
  rw [hsent, hstarted, hqueued] at hcount
  exact absurd hcount (by decide)

end SpatialPlatform.Engine

import SpatialPlatform.Engine.Scheduler.Provenance
import SpatialPlatform.Engine.Scheduler.Semantics
import SpatialPlatform.Engine.Scheduler.Threading

/-!
# What a request carries

Between the success of a task and the round that goes on,
`ThreadOutputsToDependents` writes what the task has produced into the inputs of
the tasks behind it. Here is what this adds up to over a run.

* `requests_handed` — every request is its task as it was built, with the
  outputs of its dependencies threaded in, each once and in the order in which
  they were handed on.
-/

namespace SpatialPlatform.Engine

open SpatialPlatform.Core SpatialPlatform.Lib

/-- The task whose outputs are handed on in this step. -/
def Control.handsOn : Control → Option Uuid
  | .task _ _ d (.threadOutputs _) => some d
  | _ => none

/-- No task is between its success and the threading of its outputs. -/
def Control.isQuiet : Control → Bool
  | .task _ _ _ (.storeOutput _) | .task _ _ _ (.recordSucceeded _) => false
  | .task _ _ _ (.threadOutputs _) => false
  | _ => true

theorem Control.not_threads_of_quiet {c : Control} (h : c.isQuiet = true) (d : Uuid)
    (refs : List ArtifactRef) : ¬ c.Threads d refs := by
  rintro ⟨n, ids, phase, rfl, hphase⟩
  cases phase with
  | storeOutput _ | recordSucceeded _ | threadOutputs _ => cases h
  | _ => exact hphase

/-- The inputs of a task after these tasks have handed on their outputs, one after the other. -/
def TaskGraph.inputsAfter (g₀ g : TaskGraph) (x : Uuid) (done : List Uuid) : List ArtifactRef :=
  (done.filter (· ∈ g₀.dependencies x)).foldl
    (fun refs d => threadInputs (g₀.task d).outputs (g.task d).outputs refs) (g₀.task x).inputs

/-- What a run from `g₀` keeps; `done` are the tasks that have handed on their outputs. -/
structure Handover (g₀ g : TaskGraph) (c : Control) (done : List Uuid) : Prop where
  shape : g.toTaskShape = g₀.toTaskShape
  nodup : done.Nodup
  /-- Who has succeeded has handed on, or is about to. -/
  mem : ∀ d ∈ g₀.insertionOrder, d ∈ done ↔ g.status d = .succeeded ∧ ∀ refs, ¬ c.Threads d refs
  sub : done ⊆ g₀.insertionOrder
  /-- Until a task ends, its outputs are the declared ones. -/
  declared : ∀ d, g.status d ≠ .succeeded → g.status d ≠ .cancelled →
    (g.task d).outputs = (g₀.task d).outputs
  threading : ∀ d refs, c.Threads d refs → refs = (g₀.task d).outputs
  inputs : ∀ x, (g.task x).inputs = g₀.inputsAfter g x done

section invariant

variable {g₀ g g' : TaskGraph} {c c' : Control} {submitted : Option Uuid} {done : List Uuid}

/-- Only the outputs of the tasks that have handed on matter. -/
theorem TaskGraph.inputsAfter_congr {x : Uuid}
    (h : ∀ d ∈ done, (g'.task d).outputs = (g.task d).outputs) :
    g₀.inputsAfter g' x done = g₀.inputsAfter g x done := by
  unfold inputsAfter
  apply List.foldl_ext
  intro refs d hd
  rw [h d (List.mem_of_mem_filter hd)]

theorem Handover.start (hnew : ∀ x ∈ g.insertionOrder, g.status x ≠ .succeeded) {n : Nat} :
    Handover g g (.iterate n) [] := by
  refine ⟨rfl, List.nodup_nil, ?_, List.nil_subset _, fun _ _ _ => rfl, ?_, fun x => rfl⟩
  · intro d hd
    simp [hnew d hd]
  · rintro d refs ⟨_, _, _, ⟨⟩, _⟩

theorem Handover.succeeded (h : Handover g₀ g c done) {d : Uuid} (hd : d ∈ done) :
    g.status d = .succeeded :=
  ((h.mem d (h.sub hd)).mp hd).1

/-- A move that makes no success and hands nothing on. -/
theorem Handover.frame (h : Handover g₀ g c done) (hshape : g'.toTaskShape = g.toTaskShape)
    (hinputs : ∀ x, (g'.task x).inputs = (g.task x).inputs)
    (houtputs : ∀ d, g'.status d ≠ .cancelled → (g'.task d).outputs = (g.task d).outputs)
    (hsucceeded : ∀ d, g'.status d = .succeeded ↔ g.status d = .succeeded)
    (hcancelled : ∀ d, g.status d = .cancelled → g'.status d = .cancelled)
    (hthreads : ∀ d refs, c'.Threads d refs ↔ c.Threads d refs) : Handover g₀ g' c' done := by
  refine ⟨hshape.trans h.shape, h.nodup, ?_, h.sub, ?_, ?_, ?_⟩
  · intro d hd
    simp only [h.mem d hd, hsucceeded, hthreads]
  · intro d hne hlive
    rw [houtputs d hlive]
    exact h.declared d (mt (hsucceeded d).mpr hne) (mt (hcancelled d) hlive)
  · intro d refs hc
    exact h.threading d refs ((hthreads d refs).mp hc)
  · intro x
    rw [hinputs x, h.inputs x]
    refine (TaskGraph.inputsAfter_congr fun d hd => ?_).symm
    exact houtputs d (by rw [(hsucceeded d).mpr (h.succeeded hd)]; simp)

/-- The outputs of a task are in: it is about to hand them on. -/
theorem Handover.succeed (h : Handover g₀ g c done) {n : Nat} {ids : List Uuid} {d : Uuid}
    {phase phase' : Phase} {outputs : List ArtifactRef} (hc : c = .task n ids d phase)
    (hrun : g.status d = .running)
    (hphase' : ∀ refs, phase'.Threads refs ↔ refs = (g.task d).outputs) :
    Handover g₀ ((g.setOutputs d outputs).setState d .succeeded) (.task n ids d phase') done := by
  have htask : ∀ x, x ≠ d → ((g.setOutputs d outputs).setState d .succeeded).task x = g.task x := by
    intro x hne
    rw [TaskGraph.task_setState, if_neg hne, TaskGraph.task_setOutputs, if_neg hne]
  have hstatus : ∀ x, x ≠ d →
      ((g.setOutputs d outputs).setState d .succeeded).status x = g.status x := by
    intro x hne
    rw [TaskGraph.status_setState, if_neg hne, TaskGraph.status_setOutputs]
  -- the tasks that have handed on are others: this one is still running
  have hother : ∀ x ∈ done, x ≠ d := by
    rintro x hx rfl
    have hdone := h.succeeded hx
    rw [hrun] at hdone
    cases hdone
  refine ⟨h.shape, h.nodup, ?_, h.sub, ?_, ?_, ?_⟩
  · intro x hx
    rcases eq_or_ne x d with rfl | hne
    -- a success that is still to be handed on
    · refine iff_of_false (fun hmem => hother x hmem rfl) ?_
      rintro ⟨-, hnone⟩
      exact hnone _ (Control.threads_iff.mpr ⟨rfl, (hphase' _).mpr rfl⟩)
    · rw [h.mem x hx, hstatus x hne, hc]
      refine and_congr_right fun _ => forall_congr' fun refs => not_congr ?_
      rw [Control.threads_iff, Control.threads_iff]
      exact iff_of_false (fun hd => hne hd.1.symm) (fun hd => hne hd.1.symm)
  · intro x hne hlive
    have hx : x ≠ d := fun heq => hne (by simp [heq])
    rw [hstatus x hx] at hne hlive
    rw [htask x hx]
    exact h.declared x hne hlive
  · intro x refs hthreads
    obtain ⟨rfl, hrefs⟩ := Control.threads_iff.mp hthreads
    rw [(hphase' refs).mp hrefs]
    exact h.declared d (by simp [hrun]) (by simp [hrun])
  · intro x
    have hinputs : (((g.setOutputs d outputs).setState d .succeeded).task x).inputs =
        (g.task x).inputs := by
      rcases eq_or_ne x d with rfl | hne
      · rw [TaskGraph.task_setState, if_pos rfl, TaskGraph.task_setOutputs, if_pos rfl]
      · rw [htask x hne]
    rw [hinputs, h.inputs x, TaskGraph.inputsAfter_congr]
    intro e he
    rw [htask e (hother e he)]

/-- The outputs of one more task are handed on. -/
theorem Handover.thread (h : Handover g₀ g c done) {n : Nat} {ids : List Uuid} {d : Uuid}
    {declared : List ArtifactRef} (hc : c = .task n ids d (.threadOutputs declared))
    (hd : d ∈ g₀.insertionOrder) (hdone : g.status d = .succeeded) {p : Bool} :
    Handover g₀ (g.threadOutputsToDependents d declared (g.task d).outputs) (.ready n ids p)
      (done ++ [d]) := by
  have hthreads : c.Threads d declared := by
    rw [hc]
    exact Control.threads_iff.mpr ⟨rfl, rfl⟩
  obtain rfl := h.threading d declared hthreads
  have houtputs : ∀ x, ((g.threadOutputsToDependents d (g₀.task d).outputs
      (g.task d).outputs).task x).outputs = (g.task x).outputs := by
    intro x
    rw [TaskGraph.task_threadOutputsToDependents]
    split <;> rfl
  have hnot : d ∉ done := fun hmem => ((h.mem d hd).mp hmem).2 _ hthreads
  refine ⟨by rw [TaskGraph.toTaskShape_threadOutputsToDependents, h.shape], ?_, ?_, ?_, ?_, ?_, ?_⟩
  · exact h.nodup.append (List.nodup_singleton d) (List.disjoint_singleton.mpr hnot)
  · intro x hx
    rw [List.mem_append, List.mem_singleton, h.mem x hx, TaskGraph.status_threadOutputsToDependents,
      hc]
    have hnone : ∀ refs, ¬ (Control.ready n ids p).Threads x refs := by
      rintro refs ⟨_, _, _, ⟨⟩, _⟩
    simp only [hnone, not_false_eq_true, implies_true, and_true]
    constructor
    · rintro (hold | rfl)
      · exact hold.1
      · exact hdone
    · intro hx
      rcases eq_or_ne x d with rfl | hne
      · exact .inr rfl
      · exact .inl ⟨hx, fun refs ht => hne (Control.threads_iff.mp ht).1.symm⟩
  · exact List.append_subset.mpr ⟨h.sub, by simpa using hd⟩
  · intro x hne hlive
    rw [TaskGraph.status_threadOutputsToDependents] at hne hlive
    rw [houtputs x]
    exact h.declared x hne hlive
  · rintro x refs ⟨_, _, _, ⟨⟩, _⟩
  · intro x
    have hdeps : g.dependencies x = g₀.dependencies x := by rw [h.shape]
    rw [TaskGraph.inputs_threadOutputs, hdeps, h.inputs x,
      TaskGraph.inputsAfter_congr fun e _ => houtputs e]
    unfold TaskGraph.inputsAfter
    by_cases hdep : d ∈ g₀.dependencies x <;> simp [List.filter_append, hdep]

/-- A task that is set to a state other than success. -/
theorem Handover.setState (h : Handover g₀ g c done) {id : Uuid} {state : TaskStatus}
    (hid : g.status id ≠ .succeeded) (hlive : g.status id ≠ .cancelled) (hstate : state ≠ .succeeded)
    (hthreads : ∀ d refs, c'.Threads d refs ↔ c.Threads d refs) :
    Handover g₀ (g.setState id state) c' done := by
  have htask : ∀ x, ((g.setState id state).task x).inputs = (g.task x).inputs ∧
      ((g.setState id state).task x).outputs = (g.task x).outputs := by
    intro x
    rw [TaskGraph.task_setState]
    split
    · next heq => rw [heq]; exact ⟨rfl, rfl⟩
    · exact ⟨rfl, rfl⟩
  refine h.frame rfl (fun x => (htask x).1) (fun x _ => (htask x).2) ?_ ?_ hthreads
  · intro d
    rw [TaskGraph.status_setState]
    split
    · next heq => exact iff_of_false hstate (heq ▸ hid)
    · exact Iff.rfl
  · intro d hd
    rw [TaskGraph.status_setState, if_neg]
    · exact hd
    · rintro rfl
      exact hlive hd

/-- Nothing but the position changes. -/
theorem Handover.goto (h : Handover g₀ g c done)
    (hthreads : ∀ d refs, c'.Threads d refs ↔ c.Threads d refs) : Handover g₀ g c' done :=
  h.frame rfl (fun _ => rfl) (fun _ _ => rfl) (fun _ => Iff.rfl) (fun _ hd => hd) hthreads

/-- A move that hands nothing on. -/
theorem Move.handover_of_none (hm : Move g c g' c' submitted) (h : Handover g₀ g c done)
    (hnone : c.handsOn = none) : Handover g₀ g' c' done := by
  have hquiet : ∀ {c c' : Control}, c.isQuiet = true → c'.isQuiet = true →
      ∀ d refs, c'.Threads d refs ↔ c.Threads d refs := fun hc hc' d refs =>
    iff_of_false (Control.not_threads_of_quiet hc' d refs) (Control.not_threads_of_quiet hc d refs)
  cases hm with
  | enter _ | exhaust _ | pass _ | finish _ | snapshot _ | again | stall | hitCancelled _ | miss
  | dispatchCancelled _ | refuse _ | recordedCancelled | submit _ | wait _ _ =>
      exact h.goto (hquiet rfl rfl)
  | idle _ => exact h
  | propagate hfailed =>
      have hpending := (TaskGraph.dependencyFailed_iff.mp hfailed).1
      exact h.setState (by simp [hpending]) (by simp [hpending]) (FailurePolicy.status_ne_succeeded _)
        (hquiet rfl rfl)
  | hit _ hstatus | dispatch hstatus | markFailed hstatus | retry hstatus | giveUp hstatus =>
      exact h.setState (by simp [hstatus]) (by simp [hstatus]) (by simp) (hquiet rfl rfl)
  | @fail n id ids produced missed recoverable =>
      have htask : ∀ x, ((g.countAttempt id).task x).inputs = (g.task x).inputs ∧
          ((g.countAttempt id).task x).outputs = (g.task x).outputs := by
        intro x
        rw [TaskGraph.task_countAttempt]
        split
        · next heq => rw [heq]; exact ⟨rfl, rfl⟩
        · exact ⟨rfl, rfl⟩
      exact h.frame rfl (fun x => (htask x).1) (fun x _ => (htask x).2) (by simp) (by simp)
        (hquiet rfl rfl)
  | @abandon n id ids produced missed hrun =>
      have hother : ∀ x, x ≠ id →
          ((g.setOutputs id []).setState id .cancelled).task x = g.task x := by
        intro x hne
        rw [TaskGraph.task_setState, if_neg hne, TaskGraph.task_setOutputs, if_neg hne]
      -- a cancelled task loses its outputs, which nobody has taken
      refine h.frame rfl ?_ ?_ ?_ ?_ (hquiet rfl rfl)
      · intro x
        rcases eq_or_ne x id with rfl | hne
        · rw [TaskGraph.task_setState, if_pos rfl, TaskGraph.task_setOutputs, if_pos rfl]
        · rw [hother x hne]
      · intro x hlive
        have hne : x ≠ id := fun heq => hlive (by simp [heq])
        rw [hother x hne]
      · intro x
        rw [TaskGraph.status_setState]
        split
        · next heq => simp [heq, hrun]
        · rw [TaskGraph.status_setOutputs]
      · intro x hx
        rw [TaskGraph.status_setState]
        split
        · rfl
        · rw [TaskGraph.status_setOutputs, hx]
  | replay hrun | complete hrun => exact h.succeed rfl hrun fun refs => eq_comm
  | stored | recorded =>
      refine h.goto fun d refs => ?_
      rw [Control.threads_iff, Control.threads_iff]
      exact Iff.rfl
  | thread => cases hnone

/-- One move. -/
theorem Move.handover (hm : Move g c g' c' submitted) (h : Handover g₀ g c done) (hc : Coherent g c) :
    Handover g₀ g' c' (done ++ c.handsOn.toList) := by
  cases hnext : c.handsOn with
  | none =>
      rw [Option.toList_none, List.append_nil]
      exact hm.handover_of_none h hnext
  | some d =>
      cases hm with
      | @thread n id ids declared =>
          cases hnext
          exact h.thread rfl (h.shape ▸ hc.2.2.1.1) hc.1
      | @idle c hdead =>
          cases c with
          | returned | threw _ => cases hnext
          | _ => cases hdead
      | _ => cases hnext

/-- A call of `Cancel`. -/
theorem Handover.cancelled (h : Handover g₀ g c done) {id : Uuid} (hpending : g.status id = .pending) :
    Handover g₀ (g.setState id .cancelled) c done :=
  h.setState (by simp [hpending]) (by simp [hpending]) (by simp) fun _ _ => Iff.rfl

end invariant

/-! ## What stays as it was built -/

/-- Type, requirements and configuration. -/
def TaskInstance.SameWork (t t' : TaskInstance) : Prop :=
  t'.definition = t.definition ∧ t'.configJson = t.configJson

section work

variable {g₀ g g' : TaskGraph} {c c' : Control} {submitted : Option Uuid}

theorem TaskGraph.sameWork_setState {id : Uuid} {state : TaskStatus} (x : Uuid) :
    (g.task x).SameWork ((g.setState id state).task x) := by
  rw [TaskGraph.task_setState]
  split
  · next heq => rw [heq]; exact ⟨rfl, rfl⟩
  · exact ⟨rfl, rfl⟩

theorem TaskGraph.sameWork_setOutputs {id : Uuid} {outputs : List ArtifactRef} (x : Uuid) :
    (g.task x).SameWork ((g.setOutputs id outputs).task x) := by
  rw [TaskGraph.task_setOutputs]
  split
  · next heq => rw [heq]; exact ⟨rfl, rfl⟩
  · exact ⟨rfl, rfl⟩

theorem TaskInstance.SameWork.trans {t₁ t₂ t₃ : TaskInstance} (h : t₁.SameWork t₂)
    (h' : t₂.SameWork t₃) : t₁.SameWork t₃ :=
  ⟨h'.1.trans h.1, h'.2.trans h.2⟩

theorem Move.sameWork (hm : Move g c g' c' submitted) (x : Uuid) :
    (g.task x).SameWork (g'.task x) := by
  cases hm with
  | propagate _ | hit _ _ | dispatch _ | markFailed _ | giveUp _ | retry _ =>
      exact TaskGraph.sameWork_setState x
  | replay _ | complete _ | abandon _ =>
      exact (TaskGraph.sameWork_setOutputs x).trans (TaskGraph.sameWork_setState x)
  | fail _ =>
      rw [TaskGraph.task_countAttempt]
      split
      · next heq => rw [heq]; exact ⟨rfl, rfl⟩
      · exact ⟨rfl, rfl⟩
  | thread =>
      rw [TaskGraph.task_threadOutputsToDependents]
      split <;> exact ⟨rfl, rfl⟩
  | _ => exact ⟨rfl, rfl⟩

end work

/-! ## What has been started

A task is started only behind successes, and skipped only behind a failure. Each
is an invariant of the graph, kept by every move and by every cancellation. -/

/-- A task that has been started, or given up after a start, has only succeeded ones before it. -/
def TaskGraph.InOrder (g : TaskGraph) : Prop :=
  ∀ x, g.status x ≠ .pending → g.status x ≠ .cancelled →
    g.status x ≠ (g.task x).metadata.failure.status → ∀ d ∈ g.dependencies x, g.status d = .succeeded

section started

variable {g g' : TaskGraph} {c c' : Control} {submitted : Option Uuid}

/-- A status changes where the current task is, or to what stands for a failed dependency. -/
theorem Move.status_cases (hm : Move g c g' c' submitted) (x : Uuid) :
    g'.status x = g.status x ∨ g'.status x = (g.task x).metadata.failure.status ∨
      ∃ n ids, (∃ p, c = .ready n (x :: ids) p) ∨ ∃ phase, c = .task n ids x phase := by
  have hset : ∀ {id : Uuid} {state : TaskStatus}, x ≠ id → (g.setState id state).status x = g.status x :=
    fun hne => by rw [TaskGraph.status_setState, if_neg hne]
  cases hm with
  | @propagate n id ids p _ =>
      rcases eq_or_ne x id with rfl | hne
      · exact .inr (.inl (by rw [TaskGraph.status_setState, if_pos rfl]))
      · exact .inl (hset hne)
  | @hit n id ids p _ _ =>
      rcases eq_or_ne x id with rfl | hne
      · exact .inr (.inr ⟨_, _, .inl ⟨_, rfl⟩⟩)
      · exact .inl (hset hne)
  | @dispatch n id ids _ | @markFailed n id ids _ | @giveUp n id ids _ | @retry n id ids _ =>
      rcases eq_or_ne x id with rfl | hne
      · exact .inr (.inr ⟨_, _, .inr ⟨_, rfl⟩⟩)
      · exact .inl (hset hne)
  | @replay n id ids _ _ | @complete n id ids _ _ _ | @abandon n id ids _ _ _ =>
      rcases eq_or_ne x id with rfl | hne
      · exact .inr (.inr ⟨_, _, .inr ⟨_, rfl⟩⟩)
      · left
        rw [TaskGraph.status_setState, if_neg hne, TaskGraph.status_setOutputs]
  | fail _ => exact .inl (TaskGraph.status_countAttempt _ _ _)
  | thread => exact .inl (TaskGraph.status_threadOutputsToDependents _ _ _ _ _)
  | _ => exact .inl rfl

theorem Move.inOrder (hm : Move g c g' c' submitted) (hc : Coherent g c) (h : g.InOrder) :
    g'.InOrder := by
  intro x hpending hcancelled hfailure d hd
  rw [hm.toTaskShape] at hd
  rw [hm.failure_eq] at hfailure
  apply hm.succeeded
  rcases hm.status_cases x with heq | heq | ⟨n, ids, ⟨p, hready⟩ | ⟨phase, htask⟩⟩
  · rw [heq] at hpending hcancelled hfailure
    exact h x hpending hcancelled hfailure d hd
  · exact absurd heq hfailure
  · rw [hready] at hc
    exact (hc.2.eligible x List.mem_cons_self).2 d hd
  · rw [htask] at hc
    exact hc.2.2.1.2 d hd

theorem TaskGraph.InOrder.cancelled (h : g.InOrder) {id : Uuid} (hpending : g.status id = .pending) :
    (g.setState id .cancelled).InOrder := by
  intro x hp hcancelled hfailure d hd
  have hx : x ≠ id := fun heq => hcancelled (by rw [status_setState, if_pos heq])
  rw [status_setState, if_neg hx] at hp hcancelled hfailure
  rw [metadata_setState] at hfailure
  have hdone := h x hp hcancelled hfailure d hd
  have hne : d ≠ id := fun heq => by simp [heq, hpending] at hdone
  rw [status_setState, if_neg hne, hdone]

/-- A task that has ended, and is not about to be retried, stays as it is. -/
theorem Move.ended (hm : Move g c g' c' submitted) {x : Uuid}
    (hterm : (g.status x).isTerminal = true) (hretry : ¬ c.Retries x) : g'.status x = g.status x ∧ ¬ c'.Retries x := by
  -- a move touches tasks that have not ended
  have hopen : ∀ {id : Uuid}, (g.status id).isTerminal = false → x ≠ id := by
    rintro id hid rfl
    rw [hterm] at hid
    cases hid
  have hset : ∀ {id : Uuid} {state : TaskStatus}, x ≠ id → (g.setState id state).status x = g.status x :=
    fun hne => by rw [TaskGraph.status_setState, if_neg hne]
  have hset' : ∀ {id : Uuid} {state : TaskStatus} {outputs : List ArtifactRef}, x ≠ id →
      ((g.setOutputs id outputs).setState id state).status x = g.status x :=
    fun hne => by rw [TaskGraph.status_setState, if_neg hne, TaskGraph.status_setOutputs]
  cases hm with
  | propagate hfailed =>
      have hpending := (TaskGraph.dependencyFailed_iff.mp hfailed).1
      exact ⟨hset (hopen (by simp [hpending])), by simp [Control.Retries]⟩
  | hit _ hstatus | dispatch hstatus | giveUp hstatus =>
      exact ⟨hset (hopen (by simp [hstatus])), by simp [Control.Retries]⟩
  | markFailed hstatus =>
      have hne := hopen (by rw [hstatus]; rfl)
      exact ⟨hset hne, Control.not_retries_of_ne hne⟩
  -- the exception: a failure that is retried
  | @retry n id ids hstatus =>
      have hne : x ≠ id := by
        rintro rfl
        exact hretry ⟨n, ids, rfl⟩
      exact ⟨hset hne, by simp [Control.Retries]⟩
  | replay hstatus | complete hstatus | abandon hstatus =>
      exact ⟨hset' (hopen (by simp [hstatus])), by simp [Control.Retries]⟩
  | fail _ => exact ⟨TaskGraph.status_countAttempt _ _ _, by simp [Control.Retries]⟩
  | thread => exact ⟨TaskGraph.status_threadOutputsToDependents _ _ _ _ _, by simp [Control.Retries]⟩
  | idle _ => exact ⟨rfl, hretry⟩
  | _ => exact ⟨rfl, by simp [Control.Retries]⟩

/-- Only the check for failed dependencies skips a task. -/
theorem Move.of_skipped (hm : Move g c g' c' submitted) {x : Uuid} (hskipped : g'.status x = .skipped)
    (hbefore : g.status x ≠ .skipped) :
    ∃ n ids p, c = .propagate n (x :: ids) p ∧ g.dependencyFailed x = true := by
  have hset : ∀ {h : TaskGraph} {id : Uuid} {state : TaskStatus}, (∀ x, h.status x = g.status x) →
      state ≠ .skipped → (h.setState id state).status x ≠ .skipped := by
    intro h id state hsame hstate
    rw [TaskGraph.status_setState]
    split
    · exact hstate
    · rw [hsame]
      exact hbefore
  cases hm with
  | @propagate n id ids p hfailed =>
      rcases eq_or_ne x id with rfl | hne
      · exact ⟨n, ids, p, rfl, hfailed⟩
      · rw [TaskGraph.status_setState, if_neg hne] at hskipped
        exact absurd hskipped hbefore
  | hit _ _ | dispatch _ | markFailed _ | giveUp _ | retry _ =>
      exact absurd hskipped (hset (fun _ => rfl) (by simp))
  | replay _ | complete _ | abandon _ =>
      exact absurd hskipped (hset (fun _ => TaskGraph.status_setOutputs _ _ _ _) (by simp))
  | fail _ => exact absurd ((TaskGraph.status_countAttempt _ _ _).symm.trans hskipped) hbefore
  | thread =>
      exact absurd ((TaskGraph.status_threadOutputsToDependents _ _ _ _ _).symm.trans hskipped) hbefore
  | _ => exact absurd hskipped hbefore

/-- A skipped task stands behind one that has ended without success. -/
def TaskGraph.SkipsBehind (g : TaskGraph) (c : Control) : Prop :=
  ∀ x ∈ g.insertionOrder, g.status x = .skipped → ∃ d ∈ g.dependencies x,
    (g.status d).isTerminal = true ∧ g.status d ≠ .succeeded ∧ ¬ c.Retries d

theorem Move.skipsBehind (hm : Move g c g' c' submitted) (h : g.SkipsBehind c) : g'.SkipsBehind c' := by
  intro x hx hskipped
  rw [hm.toTaskShape] at hx
  have hkept : ∃ d ∈ g.dependencies x,
      (g.status d).isTerminal = true ∧ g.status d ≠ .succeeded ∧ ¬ c.Retries d := by
    by_cases hbefore : g.status x = .skipped
    · exact h x hx hbefore
    · obtain ⟨n, ids, p, hcontrol, hfailed⟩ := hm.of_skipped hskipped hbefore
      obtain ⟨-, d, hd, hterm, hlost⟩ := TaskGraph.dependencyFailed_iff.mp hfailed
      exact ⟨d, hd, hterm, hlost, by simp [hcontrol, Control.Retries]⟩
  obtain ⟨d, hd, hterm, hlost, hretry⟩ := hkept
  obtain ⟨heq, hretry'⟩ := hm.ended hterm hretry
  refine ⟨d, ?_, by rw [heq]; exact hterm, by rw [heq]; exact hlost, hretry'⟩
  rw [hm.toTaskShape]
  exact hd

theorem TaskGraph.SkipsBehind.cancelled (h : g.SkipsBehind c) {id : Uuid}
    (hpending : g.status id = .pending) : (g.setState id .cancelled).SkipsBehind c := by
  intro x hmem hskipped
  have hx : x ≠ id := by
    rintro rfl
    simp at hskipped
  rw [status_setState, if_neg hx] at hskipped
  obtain ⟨d, hd, hterm, hlost, hretry⟩ := h x hmem hskipped
  have hne : d ≠ id := by
    rintro rfl
    simp [hpending] at hterm
  exact ⟨d, hd, by rwa [status_setState, if_neg hne], by rwa [status_setState, if_neg hne], hretry⟩

end started

/-! ## Runs

What a task carries when it is submitted: its own fields, and the inputs that
each of its dependencies has handed on, in the order in which they did. The
invariant of a run is about all tasks that wait; a step hands on the outputs of
one task at most. -/

/-- A request as it should be when these tasks have handed on their outputs. -/
structure TaskRequest.Carries (request : TaskRequest) (g₀ g : TaskGraph) (pipelineHash : String)
    (done : List Uuid) : Prop where
  mem : request.taskId ∈ g₀.insertionOrder
  dependencies : ∀ d ∈ g₀.dependencies request.taskId, d ∈ done
  eq : request = { g₀.request pipelineHash request.taskId with
    inputRefs := g₀.inputsAfter g request.taskId done }

/-- Later on the request is still as it should be. -/
theorem TaskRequest.Carries.later {request : TaskRequest} {g₀ g g' : TaskGraph} {pipelineHash : String}
    {done new : List Uuid} (h : request.Carries g₀ g pipelineHash done) (hnodup : (done ++ new).Nodup)
    (houtputs : ∀ d ∈ done, (g'.task d).outputs = (g.task d).outputs) :
    request.Carries g₀ g' pipelineHash (done ++ new) := by
  refine ⟨h.mem, fun d hd => List.mem_append_left _ (h.dependencies d hd), h.eq.trans ?_⟩
  have hnone : new.filter (· ∈ g₀.dependencies request.taskId) = [] := by
    rw [List.filter_eq_nil_iff]
    intro d hd hdep
    exact (List.nodup_append.mp hnodup).2.2 d (h.dependencies d (of_decide_eq_true hdep)) d hd rfl
  have hinputs : g₀.inputsAfter g' request.taskId (done ++ new) =
      g₀.inputsAfter g request.taskId done := by
    rw [← TaskGraph.inputsAfter_congr houtputs]
    unfold TaskGraph.inputsAfter
    rw [List.filter_append, hnone, List.append_nil]
  rw [hinputs]

namespace Scheduler

variable {σ ι : Type} {sched : Scheduler σ ι} {inputs : Nat → StepInput ι} {s₀ : SchedulerState σ}

/-- The tasks that have handed on their outputs before step `k`, in their order. -/
def handedOn (sched : Scheduler σ ι) (inputs : Nat → StepInput ι) (s₀ : SchedulerState σ) (k : Nat) :
    List Uuid :=
  (List.range k).filterMap fun j => (sched.states inputs s₀ j).control.handsOn

theorem handedOn_succ (k : Nat) : sched.handedOn inputs s₀ (k + 1) =
    sched.handedOn inputs s₀ k ++ (sched.states inputs s₀ k).control.handsOn.toList := by
  unfold handedOn
  rw [List.range_succ, List.filterMap_append]
  congr 1

/-- A task that is submitted is as it was built, but for the inputs that it was handed. -/
theorem carries_of_submit {g₀ g : TaskGraph} {n : Nat} {ids : List Uuid} {x : Uuid}
    {pipelineHash : String} {done : List Uuid} (h : Handover g₀ g (.task n ids x .submit) done)
    (hc : Coherent g (.task n ids x .submit)) (hwork : (g₀.task x).SameWork (g.task x)) :
    (g.request pipelineHash x).Carries g₀ g pipelineHash done := by
  have hrun : g.status x = .running := hc.1
  have heligible : Eligible g x := hc.2.2.1
  refine ⟨h.shape ▸ heligible.1, ?_, ?_⟩
  · intro d hd
    refine (h.mem d (g₀.mem_of_dependency x d hd).2).mpr ⟨heligible.2 d ?_, ?_⟩
    · rw [h.shape]
      exact hd
    · exact Control.not_threads_of_quiet rfl d
  · have hjob : g.jobId = g₀.jobId := by rw [h.shape]
    have hid : (g.request pipelineHash x).taskId = x := rfl
    rw [hid]
    unfold TaskGraph.request
    rw [h.inputs x, h.declared x (by simp [hrun]) (by simp [hrun]), hwork.1, hwork.2, hjob]

variable (sched) in
/-- What one step keeps. -/
theorem step_handed {g₀ : TaskGraph} {done : List Uuid} (input : StepInput ι) {s : SchedulerState σ}
    (hc : Coherent s.graph s.control) (h : Handover g₀ s.graph s.control done)
    (hwork : ∀ x, (g₀.task x).SameWork (s.graph.task x))
    (hrequests : ∀ request ∈ s.submissions, request.Carries g₀ s.graph s.runPipelineHash done) :
    let s' := sched.step input s
    let done' := done ++ s.control.handsOn.toList
    Handover g₀ s'.graph s'.control done' ∧ (∀ x, (g₀.task x).SameWork (s'.graph.task x)) ∧
      s'.runPipelineHash = s.runPipelineHash ∧
      ∀ request ∈ s'.submissions, request.Carries g₀ s'.graph s.runPipelineHash done' := by
  intro s' done'
  -- a cancellation changes a status, and neither work nor outputs
  have hcancel : ∀ g c id, Coherent g c → (Handover g₀ g c done ∧
        (∀ x, (g₀.task x).SameWork (g.task x)) ∧
          ∀ d ∈ done, (g.task d).outputs = (s.graph.task d).outputs) →
      id ∈ g.insertionOrder → g.status id = .pending →
      Handover g₀ (g.setState id .cancelled) c done ∧
        (∀ x, (g₀.task x).SameWork ((g.setState id .cancelled).task x)) ∧
          ∀ d ∈ done, ((g.setState id .cancelled).task d).outputs = (s.graph.task d).outputs := by
    rintro g c id - ⟨hg, hworkg, houtputs⟩ - hpending
    refine ⟨hg.cancelled hpending, fun x => (hworkg x).trans (TaskGraph.sameWork_setState x), ?_⟩
    intro d hd
    rw [← houtputs d hd, TaskGraph.task_setState]
    split
    · next heq => rw [heq]
    · rfl
  obtain ⟨g, submitted, hcg, ⟨hg, hworkg, houtputs⟩, hmove, hsubs, hhash⟩ :=
    sched.step_cases input hc ⟨h, hwork, fun _ _ => rfl⟩ hcancel
  have hnext : Handover g₀ s'.graph s'.control done' := hmove.handover hg hcg
  have hkept : ∀ d ∈ done, (s'.graph.task d).outputs = (g.task d).outputs := fun d hd =>
    hmove.outputs_of_succeeded (hg.succeeded hd)
  refine ⟨hnext, fun x => (hworkg x).trans (hmove.sameWork x), hhash, ?_⟩
  intro request hrequest
  rw [hsubs] at hrequest
  -- requests of earlier steps, and the one of this step
  rcases List.mem_append.mp hrequest with hold | hnew
  · exact (hrequests request hold).later hnext.nodup fun d hd => (hkept d hd).trans (houtputs d hd)
  · cases submitted with
    | none => cases hnew
    | some x =>
        obtain rfl := List.mem_singleton.mp hnew
        obtain ⟨n, ids, hcontrol, -⟩ := hmove.of_submitted
        rw [hcontrol] at hg hcg
        exact (carries_of_submit hg hcg (hworkg x)).later hnext.nodup hkept

variable (sched inputs) in
theorem states_handed (hc : Coherent s₀.graph s₀.control)
    (h₀ : Handover s₀.graph s₀.graph s₀.control []) (hsub : s₀.submissions = []) (k : Nat) :
    Handover s₀.graph (sched.states inputs s₀ k).graph (sched.states inputs s₀ k).control
        (sched.handedOn inputs s₀ k) ∧
      (∀ x, (s₀.graph.task x).SameWork ((sched.states inputs s₀ k).graph.task x)) ∧
      (sched.states inputs s₀ k).runPipelineHash = s₀.runPipelineHash ∧
      ∀ request ∈ (sched.states inputs s₀ k).submissions, request.Carries s₀.graph
        (sched.states inputs s₀ k).graph s₀.runPipelineHash (sched.handedOn inputs s₀ k) := by
  induction k with
  | zero =>
      refine ⟨h₀, fun x => ⟨rfl, rfl⟩, rfl, fun request hmem => ?_⟩
      rw [states_zero, hsub] at hmem
      cases hmem
  | succ k ih =>
      obtain ⟨h, hwork, hhash, hrequests⟩ := ih
      rw [← hhash] at hrequests
      obtain ⟨hnext, hwork', hhash', hrequests'⟩ :=
        sched.step_handed (inputs k) (states_coherent hc k) h hwork hrequests
      rw [handedOn_succ, states_succ]
      rw [hhash] at hhash' hrequests'
      exact ⟨hnext, hwork', hhash', hrequests'⟩

variable (sched inputs) in
/-- A run of pending tasks starts them in order. -/
theorem states_inOrder (hc : Coherent s₀.graph s₀.control) (h₀ : s₀.graph.InOrder) (k : Nat) :
    (sched.states inputs s₀ k).graph.InOrder :=
  (states_induct sched inputs (fun g _ => g.InOrder) (fun _ _ _ _ _ hc h hm => hm.inOrder hc h)
    (fun _ _ _ _ h _ hp => h.cancelled hp) hc h₀ k).2

variable (sched inputs) in
theorem states_failure (hc : Coherent s₀.graph s₀.control) (k : Nat) (x : Uuid) :
    ((sched.states inputs s₀ k).graph.task x).metadata.failure =
      (s₀.graph.task x).metadata.failure :=
  (states_induct sched inputs (fun g _ => (g.task x).metadata.failure =
      (s₀.graph.task x).metadata.failure) (fun _ _ _ _ _ _ h hm => (hm.failure_eq x).trans h)
    (fun _ _ _ _ h _ _ => by rwa [TaskGraph.metadata_setState]) hc rfl k).2

variable (sched inputs) in
theorem states_skipsBehind (hc : Coherent s₀.graph s₀.control)
    (h₀ : s₀.graph.SkipsBehind s₀.control) (k : Nat) :
    (sched.states inputs s₀ k).graph.SkipsBehind (sched.states inputs s₀ k).control :=
  (states_induct sched inputs TaskGraph.SkipsBehind (fun _ _ _ _ _ _ h hm => hm.skipsBehind h)
    (fun _ _ _ _ h _ hp => h.cancelled hp) hc h₀ k).2

variable (sched inputs) in
/-- A step submits one request at most, of the task that is then running. -/
theorem exists_submitted (hc : Coherent s₀.graph s₀.control) (k : Nat) :
    ∃ new : Option TaskRequest, (sched.states inputs s₀ (k + 1)).submissions =
        (sched.states inputs s₀ k).submissions ++ new.toList ∧
      ∀ request ∈ new,
        (sched.states inputs s₀ (k + 1)).graph.status request.taskId = .running := by
  have hcancel : ∀ (g : TaskGraph) (c : Control) (id : Uuid), Coherent g c → True →
      id ∈ g.insertionOrder → g.status id = .pending → True := fun _ _ _ _ _ _ _ => trivial
  obtain ⟨g, submitted, hcg, -, hmove, hsubs, -⟩ :=
    sched.step_cases (inputs k) (states_coherent hc k) trivial hcancel
  refine ⟨_, hsubs, ?_⟩
  cases submitted with
  | none => simp
  | some x =>
      rintro request ⟨⟩
      obtain ⟨n, ids, hcontrol, hsame⟩ := hmove.of_submitted
      rw [hcontrol] at hcg
      rw [states_succ, hsame]
      exact hcg.1

variable (sched inputs) in
/-- What a run of pending tasks keeps. -/
theorem run_handed {store : SchedulerStateStore} {executor : σ} {g : TaskGraph}
    {externalInputs : List ArtifactRef} {pipelineHash : String}
    (hrun : sched.run store executor g externalInputs pipelineHash = .ok s₀)
    (hpending : ∀ x ∈ g.insertionOrder, g.status x = .pending) (k : Nat) :
    Handover g (sched.states inputs s₀ k).graph (sched.states inputs s₀ k).control
        (sched.handedOn inputs s₀ k) ∧
      ∀ request ∈ (sched.states inputs s₀ k).submissions,
        request.Carries g (sched.states inputs s₀ k).graph pipelineHash
          (sched.handedOn inputs s₀ k) := by
  obtain ⟨-, store', -, hs₀⟩ := run_start hrun
  have hc : Coherent s₀.graph s₀.control := by
    rw [hs₀]
    exact Coherent.start fun x hx => by simp [hpending x hx]
  have h₀ : Handover s₀.graph s₀.graph s₀.control [] := by
    rw [hs₀]
    exact Handover.start fun x hx => by simp [hpending x hx]
  obtain ⟨h, -, -, hrequests⟩ := states_handed sched inputs hc h₀ (by rw [hs₀]) k
  have hgraph : s₀.graph = g := by rw [hs₀]
  have hhash : s₀.runPipelineHash = pipelineHash := by rw [hs₀]
  rw [hgraph] at h hrequests
  rw [hhash] at hrequests
  exact ⟨h, hrequests⟩

/-- **What a request carries.** In every run of a graph whose tasks are all
pending, whatever the worker, the cache and the callers of `Cancel` do: each
request is made of its task as it was built, but for the inputs. Those are the
inputs it was built with, into which the outputs of its dependencies have been
threaded, all of which have succeeded: each once, in the order in which they
were handed on, and such as they still are in every later state. -/
theorem requests_handed {store : SchedulerStateStore} {executor : σ} {g : TaskGraph}
    {externalInputs : List ArtifactRef} {pipelineHash : String}
    (hrun : sched.run store executor g externalInputs pipelineHash = .ok s₀)
    (hpending : ∀ x ∈ g.insertionOrder, g.status x = .pending) (k : Nat) :
    (sched.handedOn inputs s₀ k).Nodup ∧
      (∀ d ∈ sched.handedOn inputs s₀ k, d ∈ g.insertionOrder ∧
        (sched.states inputs s₀ k).graph.status d = .succeeded) ∧
      ∀ request ∈ (sched.states inputs s₀ k).submissions, request.taskId ∈ g.insertionOrder ∧
        (∀ d ∈ g.dependencies request.taskId, d ∈ sched.handedOn inputs s₀ k) ∧
        request = { g.request pipelineHash request.taskId with
          inputRefs := g.inputsAfter (sched.states inputs s₀ k).graph request.taskId
            (sched.handedOn inputs s₀ k) } := by
  obtain ⟨h, hrequests⟩ := run_handed sched inputs hrun hpending k
  refine ⟨h.nodup, fun d hd => ⟨h.sub hd, h.succeeded hd⟩, ?_⟩
  intro request hmem
  have hcarries := hrequests request hmem
  exact ⟨hcarries.mem, hcarries.dependencies, hcarries.eq⟩

/-! Two tasks, and a third one on the declared outputs of both. -/

private def forkGraph : TaskGraph :=
  let first : TaskInstance := { id := ⟨1⟩, definition := { type := "left" }, outputs := ["a"] }
  let second : TaskInstance := { id := ⟨2⟩, definition := { type := "right" }, outputs := ["b"] }
  let third : TaskInstance := { id := ⟨3⟩, definition := { type := "join" }, inputs := ["a", "b"] }
  (TaskGraph.build ⟨9⟩ ⟨8⟩ [first, second, third] [(⟨3⟩, ⟨1⟩), (⟨3⟩, ⟨2⟩)]).toOption.getD (.empty ⟨9⟩)

/-- Each worker reports one ref, named after the type of the task. -/
private def forkScheduler : Scheduler (List WorkerEvent) Unit where
  cache := ⟨fun s => s, "", ""⟩
  executor := .deterministic {} ⟨7⟩ fun request => [.artifactProduced request.taskType, .completed]

private def forkStart : SchedulerState (List WorkerEvent) :=
  (forkScheduler.run {} [] forkGraph [] "").toOption.getD ⟨forkGraph, {}, [], "", .returned, [], []⟩

private def forkInputs (_ : Nat) : StepInput Unit := { worker := () }

/-- The third task is submitted with what the first two have produced. -/
theorem requests_handed_fork :
    ∃ request ∈ (forkScheduler.states forkInputs forkStart 40).submissions,
      request.taskId = ⟨3⟩ ∧ request.inputRefs = ["left", "right"] ∧
        request = { forkGraph.request "" ⟨3⟩ with
          inputRefs := forkGraph.inputsAfter (forkScheduler.states forkInputs forkStart 40).graph ⟨3⟩
            (forkScheduler.handedOn forkInputs forkStart 40) } := by
  have hrun : forkScheduler.run {} [] forkGraph [] "" = .ok forkStart :=
    eq_ok_getD _ (by decide +kernel)
  have hsubmitted : ∃ request ∈ (forkScheduler.states forkInputs forkStart 40).submissions,
      request.taskId = ⟨3⟩ ∧ request.inputRefs = ["left", "right"] := by
    decide +kernel
  obtain ⟨request, hmem, hid, hrefs⟩ := hsubmitted
  obtain ⟨-, -, hrequests⟩ := requests_handed hrun (by decide +kernel) 40
  obtain ⟨-, -, heq⟩ := hrequests request hmem
  rw [hid] at heq
  exact ⟨request, hmem, hid, hrefs, heq⟩

end Scheduler

end SpatialPlatform.Engine

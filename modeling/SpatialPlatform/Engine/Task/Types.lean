import SpatialPlatform.Core.Basic

/-!
# The task model

`engine/task/task_types.h`, `task_definition.h`, `task_instance.h` and
`engine/resources/resource_spec.h`, with the transition table of
`engine/scheduler/task_state_machine.cpp`.

The wall-clock fields, the backoff parameters (no caller of `BackoffNs` exists),
the artifact kinds and the parameter schema are left out: nothing the scheduler
decides depends on them.
-/

namespace SpatialPlatform.Engine

open SpatialPlatform.Core

/-- A CAS content hash. Tasks exchange data only by such references, never by paths. -/
abbrev ArtifactRef := String

/-! ## The six states

The states and the transitions between them. A failed task may be retried, all
other ends are final. -/

inductive TaskStatus where
  | pending
  | running
  | succeeded
  | failed
  | cancelled
  | skipped
  deriving DecidableEq, Repr

namespace TaskStatus

/-- `TaskStatusName`. -/
def name : TaskStatus → String
  | pending => "pending"
  | running => "running"
  | succeeded => "succeeded"
  | failed => "failed"
  | cancelled => "cancelled"
  | skipped => "skipped"

/-- `IsTerminal`. -/
def isTerminal : TaskStatus → Bool
  | succeeded | failed | cancelled | skipped => true
  | pending | running => false

/-- `TaskStateMachine::IsLegal`. A failed task has the retry edge and no other;
the other terminal states have none. -/
def isLegal (source target : TaskStatus) : Bool :=
  if source = failed then target = pending
  else if source.isTerminal then false
  else match source with
    | pending => target = running || target = cancelled || target = skipped || target = failed
    | running => target = succeeded || target = failed || target = cancelled
    | _ => false

/-- `TaskStateMachine::Transition`. -/
def transition (source target : TaskStatus) : Except ProjectError TaskStatus :=
  if isLegal source target then .ok target
  else .error ⟨.internal, "illegal task state transition " ++ source.name ++ " -> " ++ target.name⟩

@[simp] theorem isTerminal_pending : pending.isTerminal = false := rfl
@[simp] theorem isTerminal_running : running.isTerminal = false := rfl
@[simp] theorem isTerminal_succeeded : succeeded.isTerminal = true := rfl
@[simp] theorem isTerminal_failed : failed.isTerminal = true := rfl
@[simp] theorem isTerminal_cancelled : cancelled.isTerminal = true := rfl
@[simp] theorem isTerminal_skipped : skipped.isTerminal = true := rfl

/-- The non-terminal states are the two a task passes through. -/
theorem isTerminal_eq_false_iff {st : TaskStatus} :
    st.isTerminal = false ↔ st = pending ∨ st = running := by
  cases st <;> simp

theorem transition_eq_ok_iff {source target st : TaskStatus} :
    transition source target = .ok st ↔ isLegal source target = true ∧ st = target := by
  cases h : isLegal source target with
  | true => simp [transition, h, eq_comm (a := target)]
  | false => simp [transition, h]

end TaskStatus

/-! ## Resources -/

/-- `ResourceSpec`. -/
structure ResourceSpec where
  cores : Int := 1
  ramBytes : Int := 0
  gpus : Int := 0
  gpuMemBytes : Int := 0
  tempDiskBytes : Int := 0
  deriving DecidableEq, Repr

/-- `ResourceProfile`, as far as the feasibility check reads it. -/
structure ResourceProfile where
  capacity : ResourceSpec := {}
  deriving DecidableEq, Repr

/-- `Fits`. -/
def fits (spec capacity : ResourceSpec) : Bool :=
  spec.cores ≤ capacity.cores && spec.ramBytes ≤ capacity.ramBytes &&
    spec.gpus ≤ capacity.gpus && spec.gpuMemBytes ≤ capacity.gpuMemBytes &&
    spec.tempDiskBytes ≤ capacity.tempDiskBytes

/-! ## Policies and instances

What a task carries, as far as the scheduler reads it. -/

inductive CachePolicy where
  | cacheable
  | never
  deriving DecidableEq, Repr

/-- What becomes of a task one of whose dependencies did not succeed. -/
inductive FailurePolicy where
  | skipped
  | failed
  deriving DecidableEq, Repr

/-- The state `PropagateFailures` gives to a task under each policy. -/
def FailurePolicy.status : FailurePolicy → TaskStatus
  | skipped => .skipped
  | failed => .failed

@[simp] theorem FailurePolicy.isTerminal_status (p : FailurePolicy) :
    p.status.isTerminal = true := by
  cases p <;> rfl

theorem FailurePolicy.status_ne_running (p : FailurePolicy) : p.status ≠ .running := by
  cases p <;> simp [status]

theorem FailurePolicy.status_ne_succeeded (p : FailurePolicy) : p.status ≠ .succeeded := by
  cases p <;> simp [status]

/-- `RetryPolicy`. -/
structure RetryPolicy where
  maxAttempts : Int := 2
  deriving DecidableEq, Repr

/-- `TaskMetadata`. -/
structure TaskMetadata where
  retry : RetryPolicy := {}
  cache : CachePolicy := .cacheable
  failure : FailurePolicy := .skipped
  deterministic : Bool := false
  attempts : Int := 0
  deriving DecidableEq, Repr

/-- `TaskDefinition`. -/
structure TaskDefinition where
  type : String
  requirements : ResourceSpec := {}
  deriving DecidableEq, Repr

/-- `TaskInstance`: one concrete run of a definition. `outputs` are the declared
outputs until the task has succeeded and the produced ones from then on. -/
structure TaskInstance where
  id : Uuid
  definition : TaskDefinition
  inputs : List ArtifactRef := []
  outputs : List ArtifactRef := []
  configJson : String := ""
  state : TaskStatus := .pending
  metadata : TaskMetadata := {}
  deriving DecidableEq, Repr

end SpatialPlatform.Engine

import Mathlib.Data.Nat.Notation
import Mathlib.Order.Basic
import Mathlib.Tactic.IntervalCases
import SpatialPlatform.Lib.Fallible

/-!
# Identities and errors

The identity primitive of the platform (`core/utils/uuid.h`) and the structured
errors (`core/errors/project_error.h`), both shared by every layer above.
-/

namespace SpatialPlatform.Core

/-- `core::Uuid`: the 16 bytes of an RFC-4122 identifier, first byte in the highest position. -/
structure Uuid where
  bytes : BitVec 128
  deriving DecidableEq, Repr

namespace Uuid

/-- The nil UUID, which `TaskGraph::AddTask` and the stores read as "not yet assigned". -/
def nil : Uuid := ⟨0⟩

/-- `IsNil`: every byte is zero. -/
def isNil (u : Uuid) : Bool := u.bytes == 0

/-- The `i`-th byte, counted from the first. -/
def byte (u : Uuid) (i : Nat) : Nat := (u.bytes.toNat >>> (8 * (15 - i))) % 256

end Uuid

/-- The lower-case hexadecimal digit of a value below 16. -/
def hexDigit (n : Nat) : Char :=
  if n < 10 then Char.ofNat ('0'.toNat + n) else Char.ofNat ('a'.toNat + (n - 10))

/-- `FormatUuid`: the canonical `8-4-4-4-12` form; a hyphen stands before bytes 4, 6, 8 and 10. -/
def formatUuid (u : Uuid) : String :=
  String.ofList <| (List.range 16).flatMap fun i =>
    let digits := [hexDigit (u.byte i / 16), hexDigit (u.byte i % 16)]
    if i ∈ [4, 6, 8, 10] then '-' :: digits else digits

theorem hexDigit_injOn {m n : Nat} (hm : m < 16) (hn : n < 16) (h : hexDigit m = hexDigit n) :
    m = n := by
  have hall : ∀ a < 16, ∀ b < 16, hexDigit a = hexDigit b → a = b := by decide
  exact hall m hm n hn h

theorem Uuid.eq_of_byte_eq {u v : Uuid} (h : ∀ i < 16, u.byte i = v.byte i) : u = v := by
  obtain ⟨u⟩ := u
  obtain ⟨v⟩ := v
  congr 1
  apply BitVec.eq_of_toNat_eq
  apply Nat.eq_of_testBit_eq
  intro j
  by_cases hj : j < 128
  · have hbyte := h (15 - j / 8) (by omega)
    have hbit := congrArg (Nat.testBit · (j % 8)) hbyte
    have hindex : 8 * (15 - (15 - j / 8)) + j % 8 = j := by omega
    simp only [Uuid.byte, show (256 : Nat) = 2 ^ 8 from rfl, Nat.testBit_mod_two_pow,
      Nat.testBit_shiftRight, hindex, show j % 8 < 8 by omega, decide_true, Bool.true_and] at hbit
    exact hbit
  · have hle : ∀ x : BitVec 128, x.toNat.testBit j = false := by
      intro x
      apply Nat.testBit_lt_two_pow
      exact lt_of_lt_of_le x.isLt (Nat.pow_le_pow_right (by omega) (by omega))
    rw [hle, hle]

/-- The text of a UUID determines it. -/
theorem formatUuid_injective {u v : Uuid} (h : formatUuid u = formatUuid v) : u = v := by
  have hchars := String.ofList_injective h
  apply Uuid.eq_of_byte_eq
  have hbyte : ∀ w : Uuid, ∀ i, w.byte i < 256 := fun w i => Nat.mod_lt _ (by omega)
  have hpair : ∀ i, hexDigit (u.byte i / 16) = hexDigit (v.byte i / 16) →
      hexDigit (u.byte i % 16) = hexDigit (v.byte i % 16) → u.byte i = v.byte i := by
    intro i hhigh hlow
    have h₁ := hexDigit_injOn (by have := hbyte u i; omega) (by have := hbyte v i; omega) hhigh
    have h₂ := hexDigit_injOn (Nat.mod_lt _ (by omega)) (Nat.mod_lt _ (by omega)) hlow
    omega
  simp [List.range, List.range.loop] at hchars
  intro i hi
  interval_cases i
  all_goals apply hpair <;> simp only [hchars]

/-- `ErrorCode`, as far as the modelled code raises it. -/
inductive ErrorCode where
  | internal
  | storageReadOnly
  | storageIo
  | storageAtomicWrite
  | schemaInvalid
  | calibrationInvalid
  | artifactMissing
  | artifactHashMismatch
  | artifactManifest
  | coordFrameNotFound
  | coordFrameCycle
  | coordFrameDisconnected
  | coordFrameMultipleRoots
  | coordFrameExists
  | adapterProcessFailed
  | importUnreadable
  | importCorrupt
  | importUnsupportedFormat
  | importSensorUnresolved
  | importTimestampUnresolvable
  | importValidationError
  | schedDagCycle
  | schedDagTypeMismatch
  | schedDagResourceInfeasible
  | schedTaskUnknown
  | schedPersistence
  | workerProtocol
  | workerTerminated
  | workerBusy
  | validationDomain
  deriving DecidableEq, Repr

namespace ErrorCode

/-- `ErrorCodeName`, which is also `StableErrorCode`. -/
def name : ErrorCode → String
  | internal => "INTERNAL"
  | storageReadOnly => "STORAGE_READ_ONLY"
  | storageIo => "STORAGE_IO"
  | storageAtomicWrite => "STORAGE_ATOMIC_WRITE"
  | schemaInvalid => "SCHEMA_INVALID"
  | calibrationInvalid => "CALIBRATION_INVALID"
  | artifactMissing => "ARTIFACT_MISSING"
  | artifactHashMismatch => "ARTIFACT_HASH_MISMATCH"
  | artifactManifest => "ARTIFACT_MANIFEST"
  | coordFrameNotFound => "COORD_FRAME_NOT_FOUND"
  | coordFrameCycle => "COORD_FRAME_CYCLE"
  | coordFrameDisconnected => "COORD_FRAME_DISCONNECTED"
  | coordFrameMultipleRoots => "COORD_FRAME_MULTIPLE_ROOTS"
  | coordFrameExists => "COORD_FRAME_EXISTS"
  | adapterProcessFailed => "ADAPTER_PROCESS_FAILED"
  | importUnreadable => "IMPORT_UNREADABLE"
  | importCorrupt => "IMPORT_CORRUPT"
  | importUnsupportedFormat => "IMPORT_UNSUPPORTED_FORMAT"
  | importSensorUnresolved => "IMPORT_SENSOR_UNRESOLVED"
  | importTimestampUnresolvable => "IMPORT_TIMESTAMP_UNRESOLVABLE"
  | importValidationError => "IMPORT_VALIDATION_ERROR"
  | schedDagCycle => "SCHED_DAG_CYCLE"
  | schedDagTypeMismatch => "SCHED_DAG_TYPE_MISMATCH"
  | schedDagResourceInfeasible => "SCHED_DAG_RESOURCE_INFEASIBLE"
  | schedTaskUnknown => "SCHED_TASK_UNKNOWN"
  | schedPersistence => "SCHED_PERSISTENCE"
  | workerProtocol => "WORKER_PROTOCOL"
  | workerTerminated => "WORKER_TERMINATED"
  | workerBusy => "WORKER_BUSY"
  | validationDomain => "VALIDATION_DOMAIN"

/-- `DomainName` of `DomainOf`. -/
def domainName : ErrorCode → String
  | internal => "PROJECT"
  | storageReadOnly | storageIo | storageAtomicWrite => "STORAGE"
  | schemaInvalid => "SCHEMA"
  | calibrationInvalid => "CALIBRATION"
  | artifactMissing | artifactHashMismatch | artifactManifest => "ARTIFACT"
  | coordFrameNotFound | coordFrameCycle | coordFrameDisconnected | coordFrameMultipleRoots
  | coordFrameExists => "COORDINATE"
  | adapterProcessFailed => "ADAPTER"
  | importUnreadable | importCorrupt | importUnsupportedFormat | importSensorUnresolved
  | importTimestampUnresolvable | importValidationError => "IMPORT"
  | schedDagCycle | schedDagTypeMismatch | schedDagResourceInfeasible | schedTaskUnknown
  | schedPersistence => "SCHEDULER"
  | workerProtocol | workerTerminated | workerBusy => "WORKER"
  | validationDomain => "VALIDATION"

end ErrorCode

/-- `ProjectError`: a stable code and the text for the reader. -/
structure ProjectError where
  code : ErrorCode
  message : String
  deriving DecidableEq, Repr

/-- `what`. -/
def ProjectError.what (e : ProjectError) : String := e.code.domainName ++ ": " ++ e.message

/-- `BEGIN IMMEDIATE` to `COMMIT`, with the `ROLLBACK` of the handler. -/
def transaction {T α : Type} (tables : T) (body : Except ProjectError (α × T)) :
    Except ProjectError α × T :=
  match body with
  | .ok (result, tables') => (.ok result, tables')
  | .error e => (.error e, tables)

@[simp] theorem transaction_ok {T α : Type} (tables : T) (r : α × T) :
    transaction tables (.ok r) = (.ok r.1, r.2) := rfl

@[simp] theorem transaction_error {T α : Type} (tables : T) (e : ProjectError) :
    transaction tables (.error e : Except ProjectError (α × T)) = (.error e, tables) := rfl

theorem bind_eq_ok {ε α β : Type} {x : Except ε α} {f : α → Except ε β} {b : β}
    (h : (x >>= f) = .ok b) : ∃ a, x = .ok a ∧ f a = .ok b :=
  Lib.bind_eq_ok_iff.mp h

/-- A computation that succeeds, written with its result. -/
theorem eq_ok_getD {ε α : Type} {x : Except ε α} (a : α) (h : x.toOption.isSome = true) :
    x = .ok (x.toOption.getD a) := by
  cases x with
  | error e => simp [Except.toOption] at h
  | ok b => rfl

end SpatialPlatform.Core

import Mathlib.Data.List.Sort
import SpatialPlatform.Core.Basic
import SpatialPlatform.Lib.Machine

/-!
# Sensor calibrations

The calibration tables of `core/storage/metadata_db.cpp`. `addCalibration`
rejects an interval that overlaps a stored one of the same sensor, with a NULL
end read as the largest `int64`; `resolveCalibrationAt` looks for the interval
around a timestamp.

* `calibrations_sound_iff` — the calls keep the intervals of a sensor apart, and
  the resolver and the versions right, exactly when no accepted call lets two
  open-ended intervals meet at that timestamp.
-/

namespace SpatialPlatform.Core

open Std SpatialPlatform.Lib

/-- `CalibrationRow`. -/
structure CalibrationRow where
  calibrationId : Uuid
  sensorId : Uuid
  version : Int := 1
  calibrationTimeNs : Int64 := 0
  source : String := ""
  intrinsicsJson : String := ""
  distortionJson : String := ""
  extrinsicsJson : String := ""
  uncertaintyJson : String := ""
  validFromNs : Option Int64
  validToNs : Option Int64 := none
  deriving DecidableEq, Repr

/-- A row of `sensors`, with its pointer to the latest calibration. -/
structure SensorPointer where
  sensorId : Uuid
  calibrationId : Option Uuid := none
  deriving DecidableEq, Repr

/-- The tables behind the calibration calls. -/
structure CalibrationTables where
  readOnly : Bool := false
  sensors : List SensorPointer := []
  calibrations : List CalibrationRow := []
  deriving DecidableEq, Repr

namespace CalibrationTables

/-- `kInf`. -/
def kInf : Int64 := Int64.maxValue

/-- The `WHERE` clause of the overlap query. -/
def overlapsWith (row stored : CalibrationRow) (validFrom : Int64) : Bool :=
  stored.sensorId = row.sensorId &&
    stored.validFromNs.any (· < row.validToNs.getD kInf) &&
    validFrom < stored.validToNs.getD kInf

/-- `COALESCE(MAX(version), 0) + 1`. -/
def nextVersion (db : CalibrationTables) (sensorId : Uuid) : Int :=
  ((db.calibrations.filter (·.sensorId = sensorId)).map (·.version)).max?.getD 0 + 1

/-- The row as the transaction stores it. -/
def versioned (db : CalibrationTables) (row : CalibrationRow) : CalibrationRow :=
  { row with version := db.nextVersion row.sensorId }

/-- The transaction of `AddCalibration`. The insert can fail on the primary key
or on the reference to the sensor. -/
def insertCalibration (db : CalibrationTables) (row : CalibrationRow) (validFrom : Int64) :
    Except ProjectError CalibrationTables :=
  if db.calibrations.any (overlapsWith row · validFrom) then
    .error ⟨.calibrationInvalid, "calibration interval overlaps an existing calibration for sensor "
      ++ formatUuid row.sensorId⟩
  else if db.calibrations.any (·.calibrationId = row.calibrationId) then
    .error ⟨.schemaInvalid,
      "cannot insert calibration row: UNIQUE constraint failed: calibrations.calibration_id"⟩
  else if db.sensors.all (·.sensorId ≠ row.sensorId) then
    .error ⟨.schemaInvalid, "cannot insert calibration row: FOREIGN KEY constraint failed"⟩
  else
    .ok { db with
      calibrations := db.calibrations ++ [db.versioned row]
      sensors := db.sensors.map fun sensor =>
        if sensor.sensorId = row.sensorId then
          { sensor with calibrationId := some row.calibrationId }
        else sensor }

/-- `AddCalibration`. -/
def addCalibration (db : CalibrationTables) (row : CalibrationRow) :
    Except ProjectError Unit × CalibrationTables :=
  if db.readOnly then
    (.error ⟨.storageReadOnly, "cannot write to a read-only project"⟩, db)
  else match row.validFromNs with
    | none =>
        (.error ⟨.calibrationInvalid,
          "calibration requires a valid_from_ns interval start (sensor-model.md §3.1)"⟩, db)
    | some validFrom =>
        if row.validToNs.any (· ≤ validFrom) then
          (.error ⟨.calibrationInvalid, "valid_to_ns must be greater than valid_from_ns"⟩, db)
        else transaction db ((db.insertCalibration row validFrom).map ((), ·))

/-- `valid_from_ns <= ? AND (valid_to_ns IS NULL OR valid_to_ns > ?)`. -/
def coversTimestamp (row : CalibrationRow) (timestampNs : Int64) : Bool :=
  row.validFromNs.any (· ≤ timestampNs) && row.validToNs.all (timestampNs < ·)

/-- `valid_from_ns DESC`. -/
def LaterFirst (c d : CalibrationRow) : Prop := d.validFromNs.getD 0 ≤ c.validFromNs.getD 0

instance : DecidableRel LaterFirst := fun c d =>
  inferInstanceAs (Decidable (d.validFromNs.getD 0 ≤ c.validFromNs.getD 0))

/-- `ResolveCalibrationAt`. -/
def resolveCalibrationAt (db : CalibrationTables) (sensorId : Uuid) (timestampNs : Int64) :
    Option CalibrationRow :=
  ((db.calibrations.filter fun row => row.sensorId = sensorId && coversTimestamp row timestampNs)
    |>.insertionSort LaterFirst).head?

/-! ## The invariant -/

/-- The stored rows of a sensor. -/
def ofSensor (db : CalibrationTables) (sensorId : Uuid) : List CalibrationRow :=
  db.calibrations.filter (·.sensorId = sensorId)

/-- The rows whose interval covers a timestamp. -/
def covering (db : CalibrationTables) (sensorId : Uuid) (timestampNs : Int64) :
    List CalibrationRow :=
  (db.ofSensor sensorId).filter (coversTimestamp · timestampNs)

/-- What the calls promise: at most one interval of a sensor covers a timestamp,
the resolver returns exactly that one, and the versions of a sensor count its
rows. -/
structure Sound (db : CalibrationTables) : Prop where
  unique : ∀ sensorId t, (db.covering sensorId t).length ≤ 1
  resolved : ∀ sensorId t, db.resolveCalibrationAt sensorId t = (db.covering sensorId t).head?
  versions : ∀ sensorId,
    (db.ofSensor sensorId).map (·.version) = (List.range' 1 (db.ofSensor sensorId).length).map (↑·)

/-! ## What one call does

A call is refused with nothing changed, or appends one row. -/

/-- A row has a start, before its end. -/
def WellFormed (row : CalibrationRow) : Prop :=
  ∃ validFrom, row.validFromNs = some validFrom ∧ ∀ validTo ∈ row.validToNs, validFrom < validTo

/-- The checks of the transaction. -/
structure Insertable (db : CalibrationTables) (row : CalibrationRow) (validFrom : Int64) :
    Prop where
  apart : ∀ stored ∈ db.calibrations, ¬ overlapsWith row stored validFrom
  fresh : ∀ stored ∈ db.calibrations, stored.calibrationId ≠ row.calibrationId
  registered : ∃ sensor ∈ db.sensors, sensor.sensorId = row.sensorId

/-- The checks of a call. -/
structure Admissible (db : CalibrationTables) (row : CalibrationRow) : Prop where
  writable : ¬ db.readOnly
  wellFormed : WellFormed row
  insertable : ∀ validFrom ∈ row.validFromNs, db.Insertable row validFrom

theorem insertCalibration_cases (db : CalibrationTables) (row : CalibrationRow)
    (validFrom : Int64) :
    (¬ db.Insertable row validFrom ∧ ∃ e, db.insertCalibration row validFrom = .error e) ∨
    (db.Insertable row validFrom ∧ ∃ db', db.insertCalibration row validFrom = .ok db' ∧
      db'.calibrations = db.calibrations ++ [db.versioned row]) := by
  unfold insertCalibration
  split
  next hoverlap =>
    obtain ⟨stored, hstored, hover⟩ := List.any_eq_true.mp hoverlap
    exact .inl ⟨fun h => h.apart stored hstored hover, _, rfl⟩
  next hapart =>
    split
    next hdup =>
      obtain ⟨stored, hstored, hid⟩ := List.any_eq_true.mp hdup
      exact .inl ⟨fun h => h.fresh stored hstored (by simpa using hid), _, rfl⟩
    next hfresh =>
      split
      next hunknown =>
        left
        refine ⟨fun h => ?_, _, rfl⟩
        obtain ⟨sensor, hsensor, hid⟩ := h.registered
        simpa [hid] using List.all_eq_true.mp hunknown sensor hsensor
      next hknown =>
        right
        refine ⟨⟨?_, ?_, ?_⟩, _, rfl, rfl⟩
        · intro stored hstored hover
          exact hapart (List.any_eq_true.mpr ⟨stored, hstored, hover⟩)
        · intro stored hstored hid
          exact hfresh (List.any_eq_true.mpr ⟨stored, hstored, by simpa using hid⟩)
        · simpa using hknown

/-- A call is rejected and changes nothing, or it appends the row under the next version. -/
theorem addCalibration_cases (db : CalibrationTables) (row : CalibrationRow) :
    (¬ db.Admissible row ∧ ∃ e, db.addCalibration row = (.error e, db)) ∨
    (db.Admissible row ∧ (db.addCalibration row).1 = .ok () ∧
      (db.addCalibration row).2.calibrations = db.calibrations ++ [db.versioned row]) := by
  unfold addCalibration
  split
  next hro => exact .inl ⟨fun h => h.writable hro, _, rfl⟩
  next hrw =>
    split
    next hfrom =>
      left
      refine ⟨fun h => ?_, _, rfl⟩
      obtain ⟨_, hsome, _⟩ := h.wellFormed
      simp [hfrom] at hsome
    next validFrom hfrom =>
      split
      next hto =>
        left
        refine ⟨fun h => ?_, _, rfl⟩
        obtain ⟨_, hsome, hlt⟩ := h.wellFormed
        obtain ⟨validTo, hvalidTo, hle⟩ := (Option.any_eq_true _ _).mp hto
        obtain rfl : validFrom = _ := Option.some.inj (hfrom.symm.trans hsome)
        exact Int64.not_le.mpr (hlt validTo hvalidTo) (by simpa using hle)
      next hto =>
        have hwell : WellFormed row := by
          refine ⟨validFrom, hfrom, fun validTo hvalidTo => Int64.not_le.mp fun hle => hto ?_⟩
          exact (Option.any_eq_true _ _).mpr ⟨validTo, hvalidTo, by simpa using hle⟩
        rcases db.insertCalibration_cases row validFrom with ⟨hno, e, he⟩ | ⟨hins, db', hok, hdb'⟩
        · rw [he]
          exact .inl ⟨fun h => hno (h.insertable validFrom hfrom), e, rfl⟩
        · rw [hok]
          refine .inr ⟨⟨hrw, hwell, fun a ha => ?_⟩, rfl, hdb'⟩
          obtain rfl : validFrom = a := Option.some.inj (hfrom.symm.trans ha)
          exact hins

/-! ## Intervals

An open end is the largest time. Two intervals share a timestamp if each begins
before the other one ends. -/

theorem le_kInf (t : Int64) : t ≤ kInf := Int64.le_iff_toInt_le.mpr t.toInt_le

theorem lt_getD_kInf {t : Int64} {validTo? : Option Int64} (hlt : ∀ validTo ∈ validTo?, t < validTo)
    (htop : t < kInf) : t < validTo?.getD kInf := by
  cases validTo? with
  | none => exact htop
  | some validTo => exact hlt validTo rfl

theorem coversTimestamp_iff {row : CalibrationRow} {validFrom : Int64}
    (hfrom : row.validFromNs = some validFrom) (t : Int64) :
    coversTimestamp row t ↔ validFrom ≤ t ∧ ∀ validTo ∈ row.validToNs, t < validTo := by
  simp [coversTimestamp, hfrom, Option.all_eq_true]

/-- The intervals of two rows of one sensor share a timestamp when the query
finds them overlapping, or when both are open-ended: `kInf` is a timestamp too. -/
theorem meet_iff {row stored : CalibrationRow} {validFrom : Int64}
    (hfrom : row.validFromNs = some validFrom) (hrow : WellFormed row) (hstored : WellFormed stored)
    (hsensor : stored.sensorId = row.sensorId) :
    (∃ t, coversTimestamp row t ∧ coversTimestamp stored t) ↔
      overlapsWith row stored validFrom ∨ (row.validToNs = none ∧ stored.validToNs = none) := by
  obtain ⟨_, ha, hrow⟩ := hrow
  obtain rfl : validFrom = _ := Option.some.inj (hfrom.symm.trans ha)
  obtain ⟨storedFrom, hstoredFrom, hstored⟩ := hstored
  have hover : overlapsWith row stored validFrom ↔
      storedFrom < row.validToNs.getD kInf ∧ validFrom < stored.validToNs.getD kInf := by
    simp [overlapsWith, hsensor, hstoredFrom]
  rw [hover]
  constructor
  · intro ⟨t, hcover, hcover'⟩
    obtain ⟨hle, hlt⟩ := (coversTimestamp_iff hfrom t).mp hcover
    obtain ⟨hle', hlt'⟩ := (coversTimestamp_iff hstoredFrom t).mp hcover'
    by_cases hopen : row.validToNs = none ∧ stored.validToNs = none
    · exact .inr hopen
    -- one of the intervals ends, so `t` is not the last timestamp
    have htop : t < kInf := by
      cases hto : row.validToNs with
      | some validTo => exact lt_of_lt_of_le (hlt validTo hto) (le_kInf validTo)
      | none =>
          cases hto' : stored.validToNs with
          | some validTo => exact lt_of_lt_of_le (hlt' validTo hto') (le_kInf validTo)
          | none => exact absurd ⟨hto, hto'⟩ hopen
    have hend := lt_getD_kInf hlt htop
    have hend' := lt_getD_kInf hlt' htop
    left
    exact ⟨lt_of_le_of_lt hle' hend, lt_of_le_of_lt hle hend'⟩
  · rintro (⟨hlt, hlt'⟩ | ⟨hopen, hopen'⟩)
    · have hend : ∀ validTo ∈ row.validToNs, storedFrom < validTo := by
        intro validTo hto
        rwa [show row.validToNs = some validTo from hto] at hlt
      have hend' : ∀ validTo ∈ stored.validToNs, validFrom < validTo := by
        intro validTo hto
        rwa [show stored.validToNs = some validTo from hto] at hlt'
      -- the later of the two starts lies in both
      rcases Int64.le_total validFrom storedFrom with hle | hle
      · refine ⟨storedFrom, ?_, ?_⟩
        · exact (coversTimestamp_iff hfrom _).mpr ⟨hle, hend⟩
        · exact (coversTimestamp_iff hstoredFrom _).mpr ⟨Int64.le_refl _, hstored⟩
      · refine ⟨validFrom, ?_, ?_⟩
        · exact (coversTimestamp_iff hfrom _).mpr ⟨Int64.le_refl _, hrow⟩
        · exact (coversTimestamp_iff hstoredFrom _).mpr ⟨hle, hend'⟩
    · refine ⟨kInf, ?_, ?_⟩
      · exact (coversTimestamp_iff hfrom _).mpr ⟨le_kInf _, by simp [hopen]⟩
      · exact (coversTimestamp_iff hstoredFrom _).mpr ⟨le_kInf _, by simp [hopen']⟩

/-! ## Runs of calls

The invariant is that rows of one sensor share no timestamp and that versions
are numbered in the order of their insertion. `AddCalibration` checks for an
overlap with a query whose end is exclusive at infinity; `MeetsAtTop` is the one
case that the query misses, so a step keeps the invariant exactly outside of it. -/

/-- Two rows of one sensor share no timestamp. -/
def Apart (c d : CalibrationRow) : Prop :=
  c.sensorId = d.sensorId → ∀ t, ¬ (coversTimestamp c t ∧ coversTimestamp d t)

/-- What the calls keep, from the empty tables on. -/
structure Invariant (db : CalibrationTables) : Prop where
  wellFormed : ∀ row ∈ db.calibrations, WellFormed row
  apart : db.calibrations.Pairwise Apart
  versions : ∀ sensorId,
    (db.ofSensor sensorId).map (·.version) = (List.range' 1 (db.ofSensor sensorId).length).map (↑·)

theorem Invariant.of_empty {db : CalibrationTables} (h : db.calibrations = []) :
    db.Invariant := by
  constructor <;> simp [h, ofSensor]

/-- Rows that all cover one timestamp and share none are at most one. -/
theorem length_le_one_of_apart {rows : List CalibrationRow} (sensorId : Uuid) (t : Int64)
    (hapart : rows.Pairwise Apart)
    (hall : ∀ row ∈ rows, row.sensorId = sensorId ∧ coversTimestamp row t) : rows.length ≤ 1 := by
  match rows with
  | [] => simp
  | [_] => simp
  | c :: d :: rest =>
      have hc := hall c (by simp)
      have hd := hall d (by simp)
      have hcd : Apart c d := (List.pairwise_cons.mp hapart).1 d (by simp)
      exact absurd ⟨hc.2, hd.2⟩ (hcd (hc.1.trans hd.1.symm) t)

theorem Invariant.sound {db : CalibrationTables} (h : db.Invariant) : db.Sound := by
  have hunique : ∀ sensorId t, (db.covering sensorId t).length ≤ 1 := by
    intro sensorId t
    apply length_le_one_of_apart sensorId t
    · exact (h.apart.filter _).filter _
    · intro row hrow
      obtain ⟨hrow, hcover⟩ := List.mem_filter.mp hrow
      exact ⟨by simpa using (List.mem_filter.mp hrow).2, hcover⟩
  refine ⟨hunique, ?_, h.versions⟩
  intro sensorId t
  have hquery : (db.calibrations.filter fun row =>
      row.sensorId = sensorId && coversTimestamp row t) = db.covering sensorId t := by
    rw [covering, ofSensor, List.filter_filter]
    simp only [Bool.and_comm]
  rw [resolveCalibrationAt, hquery]
  have hone := hunique sensorId t
  -- sorting a list of at most one row does nothing
  match db.covering sensorId t, hone with
  | [], _ => rfl
  | [_], _ => rfl

theorem max?_range' (n : Nat) :
    ((List.range' 1 n).map fun k : Nat => (k : Int)).max?.getD 0 = n := by
  cases n with
  | zero => rfl
  | succ n =>
      have hmax : ((List.range' 1 (n + 1)).map fun k : Nat => (k : Int)).max? =
          some ((n + 1 : Nat) : Int) := by
        apply List.max?_eq_some_iff.mpr
        constructor
        · exact List.mem_map_of_mem (List.mem_range'_1.mpr (by omega))
        · intro k hk
          obtain ⟨m, hm, rfl⟩ := List.mem_map.mp hk
          have := List.mem_range'_1.mp hm
          omega
      rw [hmax]
      rfl

theorem Invariant.nextVersion_eq {db : CalibrationTables} (h : db.Invariant) (sensorId : Uuid) :
    db.nextVersion sensorId = ((db.ofSensor sensorId).length + 1 : Nat) := by
  show ((db.ofSensor sensorId).map (·.version)).max?.getD 0 + 1 = _
  rw [h.versions, max?_range']
  rfl

/-- Both the call and a stored row of its sensor are open-ended, and one of them
starts at the timestamp that the overlap query reads as infinity. -/
def MeetsAtTop (row : CalibrationRow) (db : CalibrationTables) : Prop :=
  db.Admissible row ∧ row.validToNs = none ∧
    ∃ stored ∈ db.calibrations, stored.sensorId = row.sensorId ∧ stored.validToNs = none ∧
      (stored.validFromNs = some kInf ∨ row.validFromNs = some kInf)

/-- Outside of that case, the interval of an admissible row is free. -/
theorem Invariant.apart_of_not_meetsAtTop {db : CalibrationTables} {row : CalibrationRow}
    (h : db.Invariant) (hrow : db.Admissible row) (hmeet : ¬ MeetsAtTop row db) :
    ∀ stored ∈ db.calibrations, Apart stored (db.versioned row) := by
  intro stored hstored hsensor t ht
  obtain ⟨validFrom, hfrom, hlt⟩ := hrow.wellFormed
  have hmeets : ∃ t, coversTimestamp row t ∧ coversTimestamp stored t := ⟨t, ht.2, ht.1⟩
  have hapart := (hrow.insertable validFrom hfrom).apart stored hstored
  rcases (meet_iff hfrom hrow.wellFormed (h.wellFormed stored hstored) hsensor).mp hmeets
    with hover | ⟨hopen, hopen'⟩
  · exact hapart hover
  · refine hmeet ⟨hrow, hopen, stored, hstored, hsensor, hopen', ?_⟩
    obtain ⟨storedFrom, hstoredFrom, _⟩ := h.wellFormed stored hstored
    rw [hstoredFrom, hfrom, Option.some.injEq, Option.some.injEq]
    by_cases hstoredTop : storedFrom < kInf
    · have htop : ¬ validFrom < kInf := by
        intro htop
        apply hapart
        have hsame : stored.sensorId = row.sensorId := hsensor
        simp [overlapsWith, hsame, hstoredFrom, hopen, hopen', hstoredTop, htop]
      exact .inr (Int64.le_antisymm (le_kInf _) (Int64.not_lt.mp htop))
    · exact .inl (Int64.le_antisymm (le_kInf _) (Int64.not_lt.mp hstoredTop))

/-- Appending an admissible row under the next version keeps the invariant, outside of that case. -/
theorem Invariant.append {db db' : CalibrationTables} {row : CalibrationRow} (h : db.Invariant)
    (hrow : db.Admissible row) (hmeet : ¬ MeetsAtTop row db)
    (hdb' : db'.calibrations = db.calibrations ++ [db.versioned row]) : db'.Invariant where
  wellFormed := by
    rw [hdb']
    intro c hc
    rcases List.mem_append.mp hc with hc | hc
    · exact h.wellFormed c hc
    · rw [List.mem_singleton.mp hc]
      exact hrow.wellFormed
  apart := by
    rw [hdb', List.pairwise_append]
    refine ⟨h.apart, by simp, ?_⟩
    intro c hc d hd
    rw [List.mem_singleton.mp hd]
    exact h.apart_of_not_meetsAtTop hrow hmeet c hc
  versions := by
    intro sensorId
    by_cases hsensor : row.sensorId = sensorId
    · have hof : db'.ofSensor sensorId = db.ofSensor sensorId ++ [db.versioned row] := by
        simp [ofSensor, hdb', versioned, hsensor]
      rw [hof, List.map_append, h.versions, List.length_append, List.length_singleton,
        List.range'_1_concat, List.map_append]
      apply congrArg (_ ++ ·)
      show [db.nextVersion row.sensorId] = [((1 + (db.ofSensor sensorId).length : Nat) : Int)]
      rw [hsensor, h.nextVersion_eq, Nat.add_comm]
    · have hof : db'.ofSensor sensorId = db.ofSensor sensorId := by
        simp [ofSensor, hdb', versioned, hsensor]
      rw [hof]
      exact h.versions sensorId

/-- The calls of a project. -/
def calls : Actions CalibrationTables CalibrationRow :=
  ⟨fun row db => some (db.addCalibration row).2⟩

/-- A call that throws changes nothing, and the state after the call is as promised. -/
def CallSound (row : CalibrationRow) (db : CalibrationTables) : Prop :=
  (∀ e, (db.addCalibration row).1 = .error e → (db.addCalibration row).2 = db) ∧
    (db.addCalibration row).2.Sound

/-- A step keeps the invariant outside of the case. -/
theorem Invariant.step {db : CalibrationTables} {row : CalibrationRow} (h : db.Invariant)
    (hmeet : ¬ MeetsAtTop row db) : (db.addCalibration row).2.Invariant := by
  rcases db.addCalibration_cases row with ⟨_, e, he⟩ | ⟨hrow, _, hdb'⟩
  · rw [he]
    exact h
  · exact h.append hrow hmeet hdb'

/-- In that case two stored intervals cover the last timestamp. -/
theorem not_sound_of_meetsAtTop {db : CalibrationTables} {row : CalibrationRow}
    (h : db.Invariant) (hmeet : MeetsAtTop row db) : ¬ (db.addCalibration row).2.Sound := by
  intro hsound
  obtain ⟨hrow, hopen, stored, hstored, hsensor, hopen', _⟩ := hmeet
  rcases db.addCalibration_cases row with ⟨hno, _⟩ | ⟨_, _, hdb'⟩
  · exact hno hrow
  have hone := hsound.unique row.sensorId kInf
  have hcovers : ∀ c, WellFormed c → c.validToNs = none → coversTimestamp c kInf := by
    intro c ⟨a, ha, _⟩ hc
    exact (coversTimestamp_iff ha kInf).mpr ⟨le_kInf a, by simp [hc]⟩
  have hold : stored ∈ db.covering row.sensorId kInf := by
    apply List.mem_filter.mpr
    refine ⟨List.mem_filter.mpr ⟨hstored, by simpa using hsensor⟩, ?_⟩
    exact hcovers stored (h.wellFormed stored hstored) hopen'
  have hnew : (db.addCalibration row).2.covering row.sensorId kInf =
      db.covering row.sensorId kInf ++ [db.versioned row] := by
    have hlast := hcovers (db.versioned row) hrow.wellFormed hopen
    simp [covering, ofSensor, hdb', hlast]
    simp [versioned]
  rw [hnew, List.length_append, List.length_singleton] at hone
  have := List.length_pos_of_mem hold
  omega

theorem callSound_iff {db : CalibrationTables} {row : CalibrationRow} (h : db.Invariant) :
    CallSound row db ↔ ¬ MeetsAtTop row db := by
  constructor
  · intro hsound hmeet
    exact not_sound_of_meetsAtTop h hmeet hsound.2
  · intro hmeet
    refine ⟨?_, (h.step hmeet).sound⟩
    intro e he
    rcases db.addCalibration_cases row with ⟨_, e', he'⟩ | ⟨_, hok, _⟩
    · rw [he']
    · rw [hok] at he
      exact (nomatch he)

/-- Over every sequence of calls on a project, rejected calls change nothing, a
timestamp has at most one calibration, which the resolver finds, and versions
count up, if and only if no call adds a second open-ended interval that meets
the first at the last timestamp. -/
theorem calibrations_sound_iff (readOnly : Bool) (sensors : List SensorPointer)
    (rows : List CalibrationRow) :
    calls.Along CallSound rows { readOnly, sensors } ↔
      calls.Along (fun row db => ¬ MeetsAtTop row db) rows { readOnly, sensors } := by
  have hstep : ∀ row db db', Invariant db → ¬ MeetsAtTop row db →
      calls.step row db = some db' → Invariant db' := by
    intro row db db' h hmeet hdb'
    cases hdb'
    exact h.step hmeet
  apply Actions.along_iff_of_invariant hstep
  · intro row db h
    exact callSound_iff h
  · exact Invariant.of_empty rfl

/-- Two open-ended intervals of one sensor, one from 0 and one from the last
timestamp, are both accepted. -/
theorem last_timestamp_covered_twice :
    ¬ calls.Along CallSound
      [{ calibrationId := ⟨1⟩, sensorId := ⟨7⟩, validFromNs := some 0 },
        { calibrationId := ⟨2⟩, sensorId := ⟨7⟩, validFromNs := some kInf }]
      { sensors := [{ sensorId := ⟨7⟩ }] } := by
  intro h
  obtain ⟨_, hsecond⟩ := h
  obtain ⟨⟨_, hsound⟩, _⟩ := hsecond _ rfl
  exact absurd (hsound.unique ⟨7⟩ kInf) (by decide)

end CalibrationTables

end SpatialPlatform.Core

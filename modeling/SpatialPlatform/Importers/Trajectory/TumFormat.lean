import SpatialPlatform.Core.Json
import SpatialPlatform.Core.Trajectory.PoseGraphHelpers
import SpatialPlatform.Lib.Coordinates

/-!
# TUM trajectories

The parser of `importers/trajectory/trajectory_importer.cpp`: lines of eight
fields, the time in decimal seconds, which is read exactly, and the pose.
Reading a `double` and its `hypot` come from the standard library and are
parameters.

* `parseTum_increasing` — the poses of a source that is accepted are in the
  order of their times.
-/

namespace SpatialPlatform.Importers

open SpatialPlatform.Core

/-- `Invalid`. -/
def invalid (message : String) : ProjectError :=
  ⟨.validationDomain, "trajectory import: " ++ message⟩

/-- What the standard library and the JSON library do with a `double`. -/
structure Numbers (R : Type) where
  /-- `std::from_chars` in the general format, when it reads all characters. -/
  fromChars : List Char → Option R
  hypot : R → R → R
  hypot3 : R → R → R → R
  toJson : R → Json

/-! ## Timestamps

Decimal seconds as whole nanoseconds, by moving the point in a run of digits. -/

def isDigit (c : Char) : Bool := '0' ≤ c && c ≤ '9'

def digitValue (c : Char) : Nat := c.toNat - '0'.toNat

/-- The digits of an exponent, which may not pass 1000 before the last. -/
def exponentDigits : Nat → List Char → Option Nat
  | exponent, [] => if exponent > 1000 then none else some exponent
  | exponent, c :: rest =>
      if exponent > 1000 then none else exponentDigits (exponent * 10 + digitValue c) rest

/-- The exponent of a decimal number, and what follows it. -/
def parseExponent : List Char → Option (Int × List Char)
  | c :: rest =>
      if c = 'e' ∨ c = 'E' then
        let negative := rest.head? = some '-'
        let rest := if rest.head? = some '+' ∨ rest.head? = some '-' then rest.tail else rest
        let (digits, rest) := rest.span isDigit
        if digits.isEmpty then none
        else (exponentDigits 0 digits).map fun exponent =>
          (if negative then -(exponent : Int) else exponent, rest)
      else some (0, c :: rest)
  | [] => some (0, [])

/-- The digits of a number in nanoseconds, from its digits in seconds, which do
not start with a zero; digits below a nanosecond have to be zeros. -/
def nanosecondDigits (digits : List Char) (power : Int) : Option (List Char) :=
  if power < 0 then
    let remove := (-power).toNat
    if digits.length ≤ remove then none
    else if (digits.drop (digits.length - remove)).any (· ≠ '0') then none
    else some (digits.take (digits.length - remove))
  else if 19 < power ∨ 19 < digits.length + power.toNat then none
  else some (digits ++ List.replicate power.toNat '0')

/-- `ParseTimestampNs`, without its message. -/
def timestampNs (text : List Char) : Option Int64 := do
  if text.isEmpty || 128 < text.length then none
  else
    let text := if text.head? = some '+' then text.tail else text
    if text.isEmpty || text.head? = some '-' then none
    else
      let (whole, rest) := text.span isDigit
      let (fraction, rest) :=
        if rest.head? = some '.' then rest.tail.span isDigit else ([], rest)
      if (whole ++ fraction).isEmpty then none
      else
        let (exponent, rest) ← parseExponent rest
        if !rest.isEmpty then none
        else
          let digits := (whole ++ fraction).dropWhile (· = '0')
          if digits.isEmpty then return 0
          else
            let digits ← nanosecondDigits digits (9 + exponent - fraction.length)
            let value := digits.foldl (fun value c => value * 10 + digitValue c) 0
            if 2 ^ 63 ≤ value then none else return Int64.ofNat value

/-- `ParseTimestampNs`. -/
def parseTimestampNs (text : List Char) (line : Nat) : Except ProjectError Int64 :=
  match timestampNs text with
  | some value => .ok value
  | none => .error (invalid ("invalid or non-nanosecond timestamp at line " ++ toString line))

/-! ## Poses

A line has eight fields. Timestamps increase from line to line, and quaternions
have length one up to a thousandth. -/

variable {R : Type} [DoubleArith R] (numbers : Numbers R)

/-- `ParseFinite`. -/
def parseFinite (text : List Char) (line : Nat) : Except ProjectError R :=
  let text := if text.head? = some '+' then text.tail else text
  let error := invalid ("non-finite or invalid pose value at line " ++ toString line)
  if text.isEmpty then .error error
  else match numbers.fromChars text with
    | some value => if Double.isFinite value then .ok value else .error error
    | none => .error error

/-- `isspace` of the classic locale. -/
def isSpace (c : Char) : Bool := c = ' ' || ('\t' ≤ c && c ≤ '\r')

/-- What `>>` reads from a line. -/
def fields (line : List Char) : List (List Char) := (line.splitOnP isSpace).filter (!·.isEmpty)

/-- The length of a quaternion is off one by more than a thousandth. -/
def notUnit (norm : R) : Bool :=
  let offset := norm - (1.0 : R)
  !Double.isFinite norm || (1e-3 : R) < (if offset < (0.0 : R) then -offset else offset)

/-- One line of a trajectory after the given nodes, as a node without a frame;
`none` for a comment or an empty line. -/
def parseLine (nodes : List (TrajectoryPoseNode R)) (number : Nat) (line : List Char) :
    Except ProjectError (Option (TrajectoryPoseNode R)) :=
  let content := line.dropWhile fun c => c = ' ' || c = '\t' || c = '\r'
  if content.isEmpty || content.head? = some '#' then .ok none
  else match fields line with
    | [time, x, y, z, qx, qy, qz, qw] => do
        let timestampNs ← parseTimestampNs time number
        if nodes.getLast?.any fun last => timestampNs ≤ last.timestampNs then
          throw (invalid ("timestamps must be strictly increasing at line " ++ toString number))
        else
          let x ← parseFinite numbers x number
          let y ← parseFinite numbers y number
          let z ← parseFinite numbers z number
          let qx ← parseFinite numbers qx number
          let qy ← parseFinite numbers qy number
          let qz ← parseFinite numbers qz number
          let qw ← parseFinite numbers qw number
          let norm := numbers.hypot (numbers.hypot qx qy) (numbers.hypot qz qw)
          if notUnit norm then
            throw (invalid ("quaternion is not unit length at line " ++ toString number))
          else
            return some {
              frameId := ""
              timestampNs
              sequenceIndex := Int64.ofNat nodes.length
              positionXyz := .triple x y z
              rotationXyzw := .quadruple (qx / norm) (qy / norm) (qz / norm) (qw / norm) }
    | found =>
        if found.length < 8 then
          throw (invalid ("expected eight fields at line " ++ toString number))
        else throw (invalid ("unexpected extra field at line " ++ toString number))

/-- The lines of a trajectory, after the given nodes. -/
def parseLines (nodes : List (TrajectoryPoseNode R)) (number : Nat) :
    List (List Char) → Except ProjectError (List (TrajectoryPoseNode R))
  | [] => .ok nodes
  | line :: lines => do
      match ← parseLine numbers nodes number line with
      | none => parseLines nodes (number + 1) lines
      | some node => parseLines (nodes ++ [node]) (number + 1) lines

/-- `ParseTum`. A byte is the character with its code. -/
def parseTum (source : List UInt8) : Except ProjectError (List (TrajectoryPoseNode R)) := do
  let text := source.map fun byte => Char.ofNat byte.toNat
  let nodes ← parseLines numbers [] 1 (text.splitOn '\n')
  if nodes.isEmpty then throw (invalid "source has no poses") else return nodes

/-! ## What follows from the nodes -/

/-- `NodesJson`. -/
def nodesJson (nodes : List (TrajectoryPoseNode R)) : Json :=
  .arr <| nodes.map fun node => Json.object [
    ("frame_id", .str node.frameId),
    ("timestamp_ns", .int node.timestampNs.toInt),
    ("sequence_index", .int node.sequenceIndex.toInt),
    ("position_xyz", .arr (node.positionXyz.toList.map numbers.toJson)),
    ("rotation_xyzw", .arr (node.rotationXyzw.toList.map numbers.toJson))]

/-- `TotalDistance`, from a total on. -/
def distanceFrom (total : R) : List (TrajectoryPoseNode R) → Except ProjectError R
  | a :: b :: rest =>
      let step := Geometry.sub3 b.positionXyz a.positionXyz
      let total := total + numbers.hypot3 step[0] step[1] step[2]
      if !Double.isFinite total then throw (invalid "trajectory distance overflows")
      else distanceFrom total (b :: rest)
  | _ => .ok total

/-- `TotalDistance`. -/
def totalDistance (nodes : List (TrajectoryPoseNode R)) : Except ProjectError R :=
  distanceFrom numbers 0.0 nodes

/-! ## The timestamps increase

Each line is compared with the last node only. By induction over the lines that
is enough, since the nodes before it are ordered already. -/

/-- A line adds a node that is later than the nodes before it. -/
theorem parseLine_later {nodes : List (TrajectoryPoseNode R)} {number : Nat} {line : List Char}
    {node : TrajectoryPoseNode R} (h : parseLine numbers nodes number line = .ok (some node)) :
    ∀ last ∈ nodes.getLast?, last.timestampNs < node.timestampNs := by
  unfold parseLine at h
  simp only at h
  split at h
  · cases h
  split at h
  · obtain ⟨timestampNs, _, h⟩ := bind_eq_ok h
    split at h
    · cases h
    next hlater =>
    obtain ⟨x, _, h⟩ := bind_eq_ok h
    obtain ⟨y, _, h⟩ := bind_eq_ok h
    obtain ⟨z, _, h⟩ := bind_eq_ok h
    obtain ⟨qx, _, h⟩ := bind_eq_ok h
    obtain ⟨qy, _, h⟩ := bind_eq_ok h
    obtain ⟨qz, _, h⟩ := bind_eq_ok h
    obtain ⟨qw, _, h⟩ := bind_eq_ok h
    split at h
    · cases h
    cases h
    intro last hlast
    rw [Option.mem_def.mp hlast] at hlater
    simpa [Int64.not_le] using hlater
  · split at h <;> cases h

omit [DoubleArith R] in
/-- What is later than the last of ordered nodes is later than all of them. -/
theorem later_of_later_last {nodes : List (TrajectoryPoseNode R)} {timestampNs : Int64}
    (hnodes : nodes.Pairwise fun a b => a.timestampNs < b.timestampNs)
    (hlast : ∀ last ∈ nodes.getLast?, last.timestampNs < timestampNs) :
    ∀ a ∈ nodes, a.timestampNs < timestampNs := by
  intro a ha
  obtain rfl | ⟨init, last, rfl⟩ := List.eq_nil_or_concat nodes
  · cases ha
  · rw [List.concat_eq_append] at ha hnodes hlast
    have hlt : last.timestampNs < timestampNs := hlast last (by simp)
    obtain hinit | heq := List.mem_append.mp ha
    · exact Int64.lt_trans ((List.pairwise_append.mp hnodes).2.2 a hinit last (by simp)) hlt
    · rwa [List.mem_singleton.mp heq]

/-- Two nodes of a source never have the same timestamp, and they stand in order. -/
theorem parseLines_increasing {nodes result : List (TrajectoryPoseNode R)} {number : Nat}
    {lines : List (List Char)} (h : parseLines numbers nodes number lines = .ok result)
    (hnodes : nodes.Pairwise fun a b => a.timestampNs < b.timestampNs) :
    result.Pairwise fun a b => a.timestampNs < b.timestampNs := by
  induction lines generalizing nodes number with
  | nil =>
    cases h
    exact hnodes
  | cons line lines ih =>
    obtain ⟨parsed, hparsed, h⟩ := bind_eq_ok h
    cases parsed with
    | none => exact ih h hnodes
    | some node =>
      apply ih h
      rw [List.pairwise_append]
      refine ⟨hnodes, List.pairwise_singleton _ _, ?_⟩
      intro a ha b hb
      rw [List.mem_singleton.mp hb]
      exact later_of_later_last hnodes (parseLine_later numbers hparsed) a ha

theorem parseTum_increasing {source : List UInt8} {nodes : List (TrajectoryPoseNode R)}
    (h : parseTum numbers source = .ok nodes) :
    nodes.Pairwise fun a b => a.timestampNs < b.timestampNs := by
  obtain ⟨parsed, hparsed, h⟩ := bind_eq_ok h
  split at h
  · cases h
  · cases h
    exact parseLines_increasing numbers hparsed List.Pairwise.nil

end SpatialPlatform.Importers

import SpatialPlatform.Adapters.Colmap.ModelFormat

/-!
# What `ParseSparseModel` reserves

Whatever the three files hold, nothing is read outside of them. Storage is
reserved for the records of a file and for the track of each point.

* `parseSparseModel_safe_iff` — no reservation exceeds what the rest of the file
  could hold, and every failure is an error of the adapter, exactly when the
  counts of the files that are reached fit.
* `long_track_not_safe` — the length of a track is reserved as it stands in the
  file.
-/

namespace SpatialPlatform.Adapters.Colmap

open SpatialPlatform.Core SpatialPlatform.Lib SpatialPlatform.Lib.Persist BinaryReader

/-- No reservation is for more elements than the rest of the file could hold. -/
def Within (reserved : List Reservation) : Prop :=
  ∀ r ∈ reserved, r.count * r.element.minBytes ≤ r.remaining

/-- Parsing returns or fails with an error of the adapter, and reserves no more
than the file could hold. -/
structure Safe {α : Type} (run : Except Failure α × List Reservation) : Prop where
  clean : (∃ a, run.1 = .ok a) ∨ ∃ error, run.1 = .error (.adapter error)
  within : Within run.2

/-- The count fits the bytes that remain, and the vector. -/
def Fits (maxSize : Element → Nat) (element : Element) (count remaining : Nat) : Prop :=
  count * element.minBytes ≤ remaining ∧ count ≤ maxSize element

section

variable {α β : Type}

/-- A program on one file. -/
def SafeFrom (x : Read α) (r : BinaryReader) : Prop := Safe ((x r).1, (x r).2.reserved)

theorem safeFrom_bind_ok {x : Read α} {f : α → Read β} {r r' : BinaryReader} {a : α}
    (h : x r = (.ok a, r')) : SafeFrom (x >>= f) r ↔ SafeFrom (f a) r' := by
  unfold SafeFrom
  rw [bind_of_ok h]

theorem safeFrom_read_bind {g : BinaryReader → α} {f : α → Read β} {r : BinaryReader} :
    SafeFrom (Persist.read g >>= f) r ↔ SafeFrom (f (g r)) r := Iff.rfl

theorem safeFrom_ok {x : Read α} {r r' : BinaryReader} {a : α} (h : x r = (.ok a, r')) :
    SafeFrom x r ↔ Within r'.reserved := by
  unfold SafeFrom
  rw [h]
  exact ⟨Safe.within, fun hwithin => ⟨.inl ⟨a, rfl⟩, hwithin⟩⟩

theorem safeFrom_error {x : Read α} {r r' : BinaryReader} {e : Failure}
    (h : x r = (.error e, r')) :
    SafeFrom x r ↔ (∃ error, e = .adapter error) ∧ Within r'.reserved := by
  unfold SafeFrom
  rw [h]
  constructor
  · rintro ⟨⟨a, ha⟩ | ⟨error, herror⟩, hwithin⟩
    · cases ha
    · exact ⟨⟨error, Except.error.inj herror⟩, hwithin⟩
  · rintro ⟨⟨error, rfl⟩, hwithin⟩
    exact ⟨.inr ⟨error, rfl⟩, hwithin⟩

theorem safeFrom_bind_error {x : Read α} {f : α → Read β} {r r' : BinaryReader} {e : Failure}
    (h : x r = (.error e, r')) : SafeFrom (x >>= f) r ↔ SafeFrom x r := by
  rw [safeFrom_error (bind_of_error h), safeFrom_error h]

/-- The result of a program does not matter. -/
theorem safeFrom_map {x : Read α} {f : α → β} {r : BinaryReader} :
    SafeFrom (x >>= fun a => Pure.pure (f a)) r ↔ SafeFrom x r := by
  rcases hx : x r with ⟨e | a, r'⟩
  · exact safeFrom_bind_error hx
  · rw [safeFrom_bind_ok hx, safeFrom_ok hx]
    exact safeFrom_ok rfl

/-- A program that refuses its input reserves nothing. -/
theorem safeFrom_refuses {x : Read α} {r r' : BinaryReader} {e : Failure}
    (h : x r = (.error e, r')) (hrefuses : binarySource.Refuses r e r') :
    SafeFrom x r ↔ Within r.reserved := by
  obtain ⟨herror, hreserved⟩ := hrefuses
  rw [safeFrom_error h, hreserved, and_iff_right herror]

/-- What was reserved beyond the file stays in the account. -/
def Keeps (x : Read α) : Prop :=
  Triple (fun r => r.pos ≤ r.bytes.length ∧ ¬ Within r.reserved) x
    (fun _ r => r.pos ≤ r.bytes.length ∧ ¬ Within r.reserved) (fun r => ¬ Within r.reserved)

theorem Keeps.not_safe {x : Read α} (h : Keeps x) {r : BinaryReader}
    (hr : r.pos ≤ r.bytes.length) (hwithin : ¬ Within r.reserved) : ¬ SafeFrom x r := by
  intro hsafe
  have hstate := (h.post (fun _ _ h => h.2) fun _ h => h).state ⟨hr, hwithin⟩
  exact hstate hsafe.within

theorem keeps_of_reads {x : Read α} {G : Format UInt8 α} (h : Reads binarySource x G) :
    Keeps x := by
  rintro r ⟨hr, hwithin⟩
  obtain ⟨run, tail, a, hrest, -, hrun⟩ | ⟨-, e, r', hrun, -, hreserved⟩ := h.cases hr
  · rw [hrun]
    exact ⟨valid_of_run binarySource hr hrest, hwithin⟩
  · rw [hrun]
    show ¬ Within r'.reserved
    rwa [hreserved]

theorem keeps_reserve {maxSize : Element → Nat} {element : Element} {count : Nat} :
    Keeps (reserve maxSize element count) := by
  rintro r ⟨hr, hwithin⟩
  have hwithin' : ¬ Within (r.reserved ++ [⟨element, count, r.remaining⟩]) :=
    fun h => hwithin fun e he => h e (List.mem_append_left _ he)
  unfold reserve
  split
  · rename_i heq
    split at heq
    · cases heq
    · cases heq
      exact ⟨hr, hwithin'⟩
  · rename_i heq
    split at heq
    · cases heq
      exact hwithin'
    · cases heq

theorem Keeps.bind {x : Read α} {f : α → Read β} (hx : Keeps x) (hf : ∀ a, Keeps (f a)) :
    Keeps (x >>= f) :=
  Triple.bind hx hf

theorem keeps_read (f : BinaryReader → α) : Keeps (Persist.read f) := fun _ h => h

theorem Keeps.pure (a : α) : Keeps (Pure.pure a) := Triple.pure fun _ h => h

theorem Keeps.times {x : Read α} (hx : Keeps x) (n : Nat) : Keeps (x.times n) := by
  induction n with
  | zero => exact .pure []
  | succ n ih => exact hx.bind fun a => ih.bind fun as => .pure (a :: as)

/-- A reservation that does not fit cannot be made good. -/
theorem not_safe_of_not_fits {maxSize : Element → Nat} {element : Element} {count : Nat}
    {f : Unit → Read α} (hf : ∀ a, Keeps (f a)) {r : BinaryReader} (hr : r.pos ≤ r.bytes.length)
    (h : ¬ Fits maxSize element count r.remaining) :
    ¬ SafeFrom (reserve maxSize element count >>= f) r := by
  rcases Nat.lt_or_ge (maxSize element) count with hlt | hle
  · rw [safeFrom_error (bind_of_error (reserve_of_lt hlt r))]
    rintro ⟨⟨error, herror⟩, -⟩
    cases herror
  · rw [safeFrom_bind_ok (reserve_of_le hle r)]
    apply (hf ()).not_safe
    · exact hr
    intro hwithin
    refine h ⟨?_, hle⟩
    exact hwithin _ (List.mem_append_right _ (List.mem_singleton_self _))

/-- A reservation that fits leaves the reader where it is. -/
theorem reserve_of_fits {maxSize : Element → Nat} {element : Element} {count : Nat}
    {r : BinaryReader} (hwithin : Within r.reserved)
    (h : Fits maxSize element count r.remaining) :
    ∃ r', reserve maxSize element count r = (.ok (), r') ∧ r'.bytes = r.bytes ∧ r'.pos = r.pos ∧
      Within r'.reserved := by
  refine ⟨_, reserve_of_le h.2 r, rfl, rfl, ?_⟩
  intro e he
  obtain hold | hnew := List.mem_append.mp he
  · exact hwithin e hold
  · rw [List.mem_singleton.mp hnew]
    exact h.1

end

section Points

variable {R : Type} [DoubleBits R]

/-- The length of every track that is reached fits what follows it: of the next
`n` points, those before it are complete. -/
def TracksFit (R : Type) [DoubleBits R] (maxSize : Element → Nat) (n : Nat) (rest : List UInt8) :
    Prop :=
  ∀ points values head (point : SparseModelPoint R) (trackLen : UInt64) tail,
    rest = points ++ (head ++ tail) → values.length < n →
    pointFormat.times values.length points (values : List (SparseModelPoint R)) →
    pointHeadFormat head (point, trackLen) →
    Fits maxSize .trackElement trackLen.toNat tail.length

theorem tracksFit_zero (maxSize : Element → Nat) (rest : List UInt8) :
    TracksFit R maxSize 0 rest := by
  intro points values head point trackLen tail _ hlen
  exact absurd hlen (Nat.not_lt_zero _)

theorem tracksFit_succ (maxSize : Element → Nat) (n : Nat) (rest : List UInt8) :
    TracksFit R maxSize (n + 1) rest ↔
      (∀ head (point : SparseModelPoint R) (trackLen : UInt64) tail, rest = head ++ tail →
        pointHeadFormat head (point, trackLen) →
        Fits maxSize .trackElement trackLen.toNat tail.length) ∧
      ∀ run (point : SparseModelPoint R) tail, rest = run ++ tail → pointFormat run point →
        TracksFit R maxSize n tail := by
  constructor
  · intro h
    constructor
    · intro head point trackLen tail hrest hhead
      exact h [] [] head point trackLen tail hrest (by simp) (Format.times_zero.mpr ⟨rfl, rfl⟩) hhead
    · intro run point tail hrest hrun points values head point' trackLen tail' htail hlen hpoints
        hhead
      refine h (run ++ points) (point :: values) head point' trackLen tail' ?_ ?_ ?_ hhead
      · rw [hrest, htail, List.append_assoc]
      · simpa using hlen
      · exact Format.times_succ.mpr ⟨run, points, point, rfl, hrun, points, [], values, by simp,
          hpoints, rfl, rfl⟩
  · rintro ⟨hfirst, hrest⟩ points values head point trackLen tail heq hlen hpoints hhead
    cases values with
    | nil =>
        obtain ⟨rfl, -⟩ := Format.times_zero.mp hpoints
        exact hfirst head point trackLen tail heq hhead
    | cons value values =>
        obtain ⟨run, _, _, rfl, hrun, points, _, _, rfl, hpoints, rfl, heqv⟩ :=
          Format.times_succ.mp hpoints
        cases heqv
        rw [List.append_nil, List.append_assoc] at heq
        exact hrest run _ _ heq hrun points values head point trackLen tail rfl
          (by simpa using hlen) hpoints hhead

theorem keeps_point (maxSize : Element → Nat) :
    Keeps (parsePoint3D maxSize : Read (SparseModelPoint R)) :=
  (keeps_of_reads reads_pointHead).bind fun _ => keeps_reserve.bind fun _ =>
    (keeps_of_reads (reads_trackElement.times _)).bind fun _ => .pure _

/-- The points of a file are parsed safely exactly when the lengths of their tracks fit. -/
theorem safeFrom_points_iff (maxSize : Element → Nat) (n : Nat) {r : BinaryReader}
    (hr : r.pos ≤ r.bytes.length) (hwithin : Within r.reserved) :
    SafeFrom (Persist.times n (parsePoint3D maxSize : Read (SparseModelPoint R))) r ↔
      TracksFit R maxSize n (r.bytes.drop r.pos) := by
  induction n generalizing r with
  | zero => exact iff_of_true ((safeFrom_ok rfl).mpr hwithin) (tracksFit_zero maxSize _)
  | succ n ih =>
      rw [tracksFit_succ]
      have hkeeps : Keeps (Persist.times n (parsePoint3D maxSize : Read (SparseModelPoint R))) :=
        (keeps_point maxSize).times n
      obtain ⟨head, tail, ⟨point, trackLen⟩, hrest, hhead, hrun⟩ |
        ⟨hnone, e, r', hrun, hrefuses⟩ := (reads_pointHead (R := R)).cases hr
      · -- the head of the first point is there
        have hr₁ := valid_of_run binarySource hr hrest
        have hrest₁ := rest_of_run binarySource hrest
        have hremaining : (binarySource.advance head.length r).remaining = tail.length := by
          rw [← hrest₁]
          exact List.length_drop.symm
        have hunique : ∀ head' tail' a', r.bytes.drop r.pos = head' ++ tail' →
            pointHeadFormat head' a' → tail = tail' ∧ (point, trackLen) = a' :=
          fun _ _ _ hrest' hhead' => (reads_pointHead.unique hr hrest hhead hrest' hhead').2
        show SafeFrom (parsePoint3D maxSize >>= fun a => _) r ↔ _
        by_cases hfits : Fits maxSize .trackElement trackLen.toNat tail.length
        · obtain ⟨r₂, hreserve, hbytes, hpos, hwithin₂⟩ :=
            reserve_of_fits (r := binarySource.advance head.length r) hwithin (hremaining ▸ hfits)
          have hr₂ : r₂.pos ≤ r₂.bytes.length := by
            rw [hbytes, hpos]
            exact hr₁
          have hrest₂ : r₂.bytes.drop r₂.pos = tail := by
            rw [hbytes, hpos]
            exact hrest₁
          obtain ⟨trackRun, tail', track, htail, htrack, htracks⟩ |
            ⟨hnone, e, r', htracks, hrefuses⟩ :=
              (reads_trackElement.times trackLen.toNat).cases hr₂
          · -- the first point is complete, and the rest is up to the induction
            have htail' : tail = trackRun ++ tail' := hrest₂.symm.trans htail
            have hpointRun : pointFormat (head ++ trackRun) { point with track := track } :=
              ⟨head, trackRun, _, rfl, hhead, trackRun, [], track, by simp, htrack, rfl, rfl⟩
            have hpoint : parsePoint3D maxSize r =
                (.ok { point with track := track }, binarySource.advance trackRun.length r₂) := by
              unfold parsePoint3D
              rw [bind_of_ok hrun]
              show (reserve maxSize .trackElement trackLen.toNat >>= _) _ = _
              rw [bind_of_ok hreserve, bind_of_ok htracks]
              rfl
            rw [safeFrom_bind_ok hpoint, safeFrom_map,
              ih (valid_of_run binarySource hr₂ htail) hwithin₂]
            have hrest₃ := rest_of_run binarySource htail
            rw [show (binarySource.advance trackRun.length r₂).bytes.drop _ = tail' from hrest₃]
            constructor
            · intro h
              constructor
              · intro head' point' trackLen' tail'' hrest' hhead'
                obtain ⟨rfl, heq⟩ := hunique _ _ _ hrest' hhead'
                cases heq
                exact hfits
              · intro run' point' tail'' hrest' hpointRun'
                have hrest'' : r.bytes.drop r.pos = (head ++ trackRun) ++ tail' := by
                  rw [show r.bytes.drop r.pos = _ from hrest, htail', List.append_assoc]
                obtain ⟨-, rfl, -⟩ := reads_point.unique hr hrest'' hpointRun hrest' hpointRun'
                exact h
            · rintro ⟨-, h⟩
              refine h _ _ tail' ?_ hpointRun
              rw [show r.bytes.drop r.pos = _ from hrest, htail', List.append_assoc]
          · apply iff_of_true
            · have hpoint : (parsePoint3D maxSize : Read (SparseModelPoint R)) r = (.error e, r') := by
                unfold parsePoint3D
                rw [bind_of_ok hrun]
                show (reserve maxSize .trackElement trackLen.toNat >>= _) _ = _
                rw [bind_of_ok hreserve, bind_of_error htracks]
              rw [safeFrom_error (bind_of_error hpoint)]
              refine ⟨hrefuses.1, ?_⟩
              rw [hrefuses.2]
              exact hwithin₂
            · constructor
              · intro head' point' trackLen' tail' hrest' hhead'
                obtain ⟨rfl, heq⟩ := hunique _ _ _ hrest' hhead'
                cases heq
                exact hfits
              · rintro _ point' tail' hrest' ⟨head', second, a, rfl, hhead', hsecond⟩
                rw [List.append_assoc] at hrest'
                obtain ⟨rfl, rfl⟩ := hunique _ _ _ hrest' hhead'
                obtain ⟨trackRun, last, track, rfl, htrack, -⟩ := hsecond
                refine absurd htrack (hnone trackRun (last ++ tail') track ?_)
                exact hrest₂.trans (List.append_assoc ..)
        · apply iff_of_false
          · unfold parsePoint3D
            rw [bind_assoc, safeFrom_bind_ok hrun, bind_assoc]
            apply not_safe_of_not_fits _ hr₁
            · rwa [hremaining]
            · intro _
              exact Keeps.bind ((keeps_of_reads (reads_trackElement.times _)).bind fun _ => .pure _)
                fun _ => hkeeps.bind fun _ => .pure _
          · exact fun h => hfits (h.1 head point trackLen tail hrest hhead)
      · apply iff_of_true
        · have hpoint : (parsePoint3D maxSize : Read (SparseModelPoint R)) r = (.error e, r') :=
            bind_of_error hrun
          exact (safeFrom_refuses (bind_of_error hpoint) hrefuses).mpr hwithin
        · constructor
          · intro head point trackLen tail hrest hhead
            exact absurd hhead (hnone head tail _ hrest)
          · rintro _ point tail hrest ⟨head, second, a, rfl, hhead, -⟩
            refine absurd hhead (hnone head (second ++ tail) a ?_)
            exact hrest.trans (List.append_assoc ..)

end Points

section Files

variable {α β : Type} {maxSize : Element → Nat} {element : Element} {label detail : String}
  {parse : Read α} {G : Format UInt8 α}

/-- The count at the beginning of a file fits what follows it, unless it is
larger than the number of bytes that follow. -/
def CountFits (maxSize : Element → Nat) (element : Element) (file : List UInt8) : Prop :=
  ∀ (count : UInt64) rest, file = leBytes 8 count.toNat ++ rest → count.toNat ≤ rest.length →
    Fits maxSize element count.toNat rest.length

/-- The file holds all its records. -/
def IsFile (G : Format UInt8 α) (file : List UInt8) : Prop :=
  ∃ (count : UInt64) (run : List UInt8) (values : List α) (tail : List UInt8),
    file = leBytes 8 count.toNat ++ (run ++ tail) ∧ G.times count.toNat run values

theorem keeps_records (hparse : Keeps parse) :
    Keeps (parseRecords maxSize element label detail parse) := by
  refine (keeps_of_reads reads_u64).bind fun num => ?_
  refine (keeps_read _).bind fun remaining => ?_
  apply Triple.ite
  · exact fun _ => Triple.fail fun _ h => h.2
  · exact fun _ => keeps_reserve.bind fun _ => hparse.times _

/-- A file of records is read safely exactly when its count fits and its records are. -/
theorem safeFrom_records_iff (Body : Nat → List UInt8 → Prop) (hkeeps : Keeps parse)
    (hbody : ∀ n r, r.pos ≤ r.bytes.length → Within r.reserved →
      (SafeFrom (Persist.times n parse) r ↔ Body n (r.bytes.drop r.pos)))
    {r : BinaryReader} (hr : r.pos ≤ r.bytes.length) (hwithin : Within r.reserved) :
    SafeFrom (parseRecords maxSize element label detail parse) r ↔
      ∀ (count : UInt64) rest, r.bytes.drop r.pos = leBytes 8 count.toNat ++ rest →
        count.toNat ≤ rest.length →
        Fits maxSize element count.toNat rest.length ∧ Body count.toNat rest := by
  obtain ⟨run, tail, num, hrest, rfl, hrun⟩ | ⟨hnone, e, r', hrun, hrefuses⟩ := reads_u64.cases hr
  · have hr₁ := valid_of_run binarySource hr hrest
    have hrest₁ := rest_of_run binarySource hrest
    have hremaining : (binarySource.advance (leBytes 8 num.toNat).length r).remaining =
        tail.length := by
      rw [← hrest₁]
      exact List.length_drop.symm
    have hunique : ∀ (count : UInt64) rest, r.bytes.drop r.pos = leBytes 8 count.toNat ++ rest →
        tail = rest ∧ num = count :=
      fun _ _ hrest' => (reads_u64.unique hr hrest rfl hrest' rfl).2
    rw [parseRecords, safeFrom_bind_ok hrun, safeFrom_read_bind, hremaining]
    split
    · rename_i hlarge
      apply iff_of_true
      · -- more records than bytes are refused before anything is reserved
        exact (safeFrom_refuses rfl (refuses_malformed ..)).mpr hwithin
      · intro count rest hrest' hle
        obtain ⟨rfl, rfl⟩ := hunique count rest hrest'
        omega
    · rename_i hle
      by_cases hfits : Fits maxSize element num.toNat tail.length
      · obtain ⟨r₂, hreserve, hbytes, hpos, hwithin₂⟩ :=
          reserve_of_fits (r := binarySource.advance (leBytes 8 num.toNat).length r) hwithin
            (hremaining ▸ hfits)
        have hr₂ : r₂.pos ≤ r₂.bytes.length := by
          rw [hbytes, hpos]
          exact hr₁
        have hrest₂ : r₂.bytes.drop r₂.pos = tail := by
          rw [hbytes, hpos]
          exact hrest₁
        rw [safeFrom_bind_ok hreserve, hbody num.toNat r₂ hr₂ hwithin₂, hrest₂]
        constructor
        · intro h count rest hrest' _
          obtain ⟨rfl, rfl⟩ := hunique count rest hrest'
          exact ⟨hfits, h⟩
        · intro h
          exact (h num tail hrest (by omega)).2
      · apply iff_of_false
        · apply not_safe_of_not_fits (fun _ => hkeeps.times _) hr₁
          rwa [hremaining]
        · exact fun h => hfits (h num tail hrest (by omega)).1
  · apply iff_of_true
    · rw [parseRecords, safeFrom_bind_error hrun]
      exact (safeFrom_refuses hrun hrefuses).mpr hwithin
    · intro count rest hrest' _
      exact absurd rfl (hnone _ rest count hrest')

/-- A reader of records that cannot go wrong by itself. -/
theorem safeFrom_times (hparse : Reads binarySource parse G) (n : Nat) {r : BinaryReader}
    (hr : r.pos ≤ r.bytes.length) (hwithin : Within r.reserved) :
    SafeFrom (Persist.times n parse) r := by
  obtain ⟨run, tail, values, -, -, hrun⟩ | ⟨-, e, r', hrun, hrefuses⟩ := (hparse.times n).cases hr
  · exact (safeFrom_ok hrun).mpr hwithin
  · exact (safeFrom_refuses hrun hrefuses).mpr hwithin

/-- Where the count fits, a file is read to its end exactly when it holds all its records. -/
theorem records_ok_iff (hparse : Reads binarySource parse G) (hG : G.AtLeast 1) {r : BinaryReader}
    (hr : r.pos ≤ r.bytes.length) (hfits : CountFits maxSize element (r.bytes.drop r.pos)) :
    (∃ values r', parseRecords maxSize element label detail parse r = (.ok values, r')) ↔
      IsFile G (r.bytes.drop r.pos) := by
  obtain ⟨run, tail, num, hrest, rfl, hrun⟩ | ⟨hnone, e, r', hrun, -⟩ := reads_u64.cases hr
  · have hr₁ := valid_of_run binarySource hr hrest
    have hrest₁ := rest_of_run binarySource hrest
    have hremaining : (binarySource.advance (leBytes 8 num.toNat).length r).remaining =
        tail.length := by
      rw [← hrest₁]
      exact List.length_drop.symm
    have hvalues : IsFile G (r.bytes.drop r.pos) ↔
        ∃ run values rest, tail = run ++ rest ∧ G.times num.toNat run values := by
      constructor
      · rintro ⟨count, run, values, rest, heq, htimes⟩
        obtain ⟨-, rfl, rfl⟩ := reads_u64.unique hr hrest rfl heq rfl
        exact ⟨run, values, rest, rfl, htimes⟩
      · rintro ⟨run, values, rest, rfl, htimes⟩
        exact ⟨num, run, values, rest, hrest, htimes⟩
    rw [hvalues, parseRecords, bind_of_ok hrun, read_bind, hremaining]
    split
    · rename_i hlarge
      apply iff_of_false
      · rintro ⟨values, r', h⟩
        cases h
      · -- a record takes a byte at least, so that many do not fit
        rintro ⟨run, values, rest, rfl, htimes⟩
        have hlen := hG.times _ _ _ htimes
        rw [List.length_append] at hlarge
        omega
    · rename_i hle
      have hreturns := (hparse.times num.toNat).returns_iff
        (s := { binarySource.advance (leBytes 8 num.toNat).length r with
          reserved := r.reserved ++ [⟨element, num.toNat, tail.length⟩] }) hr₁
      have hreserve := reserve_of_le (hfits num tail hrest (by omega)).2
        (binarySource.advance (leBytes 8 num.toNat).length r)
      rw [hremaining] at hreserve
      rw [bind_of_ok hreserve]
      refine hreturns.trans ?_
      constructor
      · rintro ⟨run, rest, values, htail, htimes⟩
        exact ⟨run, values, rest, hrest₁.symm.trans htail, htimes⟩
      · rintro ⟨run, values, rest, htail, htimes⟩
        exact ⟨run, rest, values, hrest₁.trans htail, htimes⟩
  · apply iff_of_false
    · rintro ⟨values, r'', h⟩
      rw [parseRecords, bind_of_error hrun] at h
      cases h
    · rintro ⟨count, run, values, rest, heq, -⟩
      exact hnone _ _ count heq rfl

end Files

/-- The account of reservations is only added to. -/
def Account {α : Type} (x : Persist (List Reservation) Failure α) : Prop :=
  ∀ reserved, ¬ Within reserved → ¬ Within (x reserved).2

theorem account_readFile {α : Type} {x : Read α} (hx : Keeps x) (bytes : List UInt8)
    (label : String) : Account (readFile bytes label x) := by
  intro reserved hwithin
  exact (hx.post (fun _ _ h => h.2) fun _ h => h).state
    (s := { bytes := bytes, file := label, reserved := reserved }) ⟨Nat.zero_le _, hwithin⟩

theorem Account.bind {α β : Type} {x : Persist (List Reservation) Failure α}
    {f : α → Persist (List Reservation) Failure β} (hx : Account x) (hf : ∀ a, Account (f a)) :
    Account (x >>= f) := by
  intro reserved hwithin
  have hxr := hx reserved hwithin
  rcases hrun : x reserved with ⟨e | a, reserved'⟩
  · rw [bind_of_error hrun]
    rwa [hrun] at hxr
  · rw [bind_of_ok hrun]
    rw [hrun] at hxr
    exact hf a reserved' hxr

/-- One file after the other: both are safe, the second one if it is reached. -/
theorem safe_bind_iff {α β : Type} {x : Persist (List Reservation) Failure α}
    {f : α → Persist (List Reservation) Failure β} (hf : ∀ a, Account (f a))
    (reserved : List Reservation) :
    Safe ((x >>= f) reserved) ↔
      Safe (x reserved) ∧ ∀ a reserved', x reserved = (.ok a, reserved') → Safe (f a reserved') := by
  rcases hrun : x reserved with ⟨e | a, reserved'⟩
  · rw [bind_of_error hrun]
    constructor
    · rintro ⟨⟨b, hb⟩ | ⟨error, herror⟩, hwithin⟩
      · cases hb
      · cases herror
        exact ⟨⟨.inr ⟨error, rfl⟩, hwithin⟩, fun a reserved' h => by cases h⟩
    · rintro ⟨⟨⟨a, ha⟩ | ⟨error, herror⟩, hwithin⟩, -⟩
      · cases ha
      · cases herror
        exact ⟨.inr ⟨error, rfl⟩, hwithin⟩
  · rw [bind_of_ok hrun]
    constructor
    · intro h
      refine ⟨⟨.inl ⟨a, rfl⟩, ?_⟩, ?_⟩
      · by_contra hwithin
        exact hf a reserved' hwithin h.within
      · rintro a' reserved'' heq
        cases heq
        exact h
    · rintro ⟨-, h⟩
      exact h a reserved' rfl

section Model

variable {R : Type} [DoubleBits R] {maxSize : Element → Nat}

/-- The counts of the three files fit, as far as they are reached: a file after
the files before it hold all their records, and the length of a track after the
points before it. -/
structure CountsFit (R : Type) [DoubleBits R] (maxSize : Element → Nat)
    (camerasBin imagesBin points3dBin : List UInt8) : Prop where
  cameras : CountFits maxSize .camera camerasBin
  images : IsFile (cameraFormat (R := R)) camerasBin → CountFits maxSize .image imagesBin
  points : IsFile (cameraFormat (R := R)) camerasBin → IsFile (imageFormat (R := R)) imagesBin →
    CountFits maxSize .point points3dBin
  tracks : IsFile (cameraFormat (R := R)) camerasBin → IsFile (imageFormat (R := R)) imagesBin →
    ∀ (count : UInt64) rest, points3dBin = leBytes 8 count.toNat ++ rest →
      count.toNat ≤ rest.length → TracksFit R maxSize count.toNat rest

theorem keeps_images : Keeps (parseImages maxSize : Read (List (SparseModelImage R))) :=
  keeps_records (keeps_of_reads reads_image)

theorem keeps_points : Keeps (parsePoints3D maxSize : Read (List (SparseModelPoint R))) :=
  keeps_records (keeps_point maxSize)

/-- A file of records that are read without further reservations, and what is
done after it: the rest is reached when the file holds all its records. -/
theorem safe_readFile_bind_iff {α β : Type} {element : Element} {label detail : String}
    {parse : Read α} {G : Format UInt8 α} (hparse : Reads binarySource parse G) (hG : G.AtLeast 1)
    (bytes : List UInt8) {f : List α → Persist (List Reservation) Failure β}
    (hf : ∀ values, Account (f values)) {P : Prop}
    (hP : ∀ values reserved, Within reserved → (Safe (f values reserved) ↔ P))
    {reserved : List Reservation} (hwithin : Within reserved) :
    Safe ((readFile bytes label (parseRecords maxSize element label detail parse) >>= f) reserved) ↔
      CountFits maxSize element bytes ∧ (IsFile G bytes → P) := by
  let r : BinaryReader := { bytes := bytes, file := label, reserved := reserved }
  -- the reservation for the count is the only unsafe step
  have hsafe : SafeFrom (parseRecords maxSize element label detail parse) r ↔
      CountFits maxSize element bytes := by
    have hrecords : SafeFrom (parseRecords maxSize element label detail parse) r ↔ _ :=
      safeFrom_records_iff (fun _ _ => True) (keeps_of_reads hparse)
        (fun n r hr hwithin => iff_of_true (safeFrom_times hparse n hr hwithin) trivial)
        (Nat.zero_le _) hwithin
    refine hrecords.trans ?_
    simp [CountFits, r]
  rw [safe_bind_iff hf]
  show SafeFrom (parseRecords maxSize element label detail parse) r ∧ _ ↔ _
  rw [hsafe]
  refine and_congr_right fun hfits => ?_
  have hok : (∃ values r', parseRecords maxSize element label detail parse r = (.ok values, r')) ↔
      IsFile G bytes := records_ok_iff hparse hG (Nat.zero_le _) hfits
  -- what follows the file matters only if the file was read
  constructor
  · intro h hfile
    obtain ⟨values, r', hrun⟩ := hok.mpr hfile
    have hread : readFile bytes label (parseRecords maxSize element label detail parse) reserved =
        (.ok values, r'.reserved) := by
      unfold readFile
      rw [hrun]
    exact (hP values _ ((safeFrom_ok hrun).mp (hsafe.mpr hfits))).mp (h values _ hread)
  · intro h values reserved' hread
    rcases hrun : parseRecords maxSize element label detail parse r with ⟨e | values', r'⟩
    · unfold readFile at hread
      rw [hrun] at hread
      cases hread
    · unfold readFile at hread
      rw [hrun] at hread
      cases hread
      exact (hP _ _ ((safeFrom_ok hrun).mp (hsafe.mpr hfits))).mpr (h (hok.mp ⟨_, _, hrun⟩))

/-- The points, which come last. -/
theorem safe_points_iff (bytes : List UInt8) {β : Type} {f : List (SparseModelPoint R) → β}
    {reserved : List Reservation} (hwithin : Within reserved) :
    Safe ((readFile bytes kPoints3dLabel (parsePoints3D maxSize) >>=
      fun values => Pure.pure (f values)) reserved) ↔
      ∀ (count : UInt64) rest, bytes = leBytes 8 count.toNat ++ rest → count.toNat ≤ rest.length →
        Fits maxSize .point count.toNat rest.length ∧ TracksFit R maxSize count.toNat rest := by
  rw [safe_bind_iff (fun _ _ h => h)]
  have hsafe : SafeFrom (parsePoints3D maxSize : Read (List (SparseModelPoint R)))
      { bytes := bytes, file := kPoints3dLabel, reserved := reserved } ↔ _ :=
    safeFrom_records_iff (TracksFit R maxSize) (keeps_point maxSize)
      (fun n r hr hwithin => safeFrom_points_iff maxSize n hr hwithin) (Nat.zero_le _) hwithin
  refine Iff.trans ?_ hsafe
  constructor
  · exact fun h => h.1
  · intro h
    refine ⟨h, fun values reserved' hread => ⟨.inl ⟨_, rfl⟩, ?_⟩⟩
    have hwithin' := Safe.within (show Safe (readFile bytes kPoints3dLabel
      (parsePoints3D maxSize : Read (List (SparseModelPoint R))) reserved) from h)
    rw [hread] at hwithin'
    exact hwithin'

/-- `ParseSparseModel` reads nothing outside the three files, fails with an
error of the adapter only and never reserves more than the file could hold,
exactly for files whose counts fit. -/
theorem parseSparseModel_safe_iff (camerasBin imagesBin points3dBin : List UInt8) :
    Safe (parseSparseModel maxSize camerasBin imagesBin points3dBin [] :
      Except Failure (SparseModel R) × List Reservation) ↔
      CountsFit R maxSize camerasBin imagesBin points3dBin := by
  have hpure : ∀ (f : List (SparseModelPoint R) → SparseModel R) values,
      Account (Pure.pure (f values)) := fun _ _ _ h => h
  -- file by file, each one parsed only if those in front of it were
  have hmodel : Safe (parseSparseModel maxSize camerasBin imagesBin points3dBin [] :
      Except Failure (SparseModel R) × List Reservation) ↔ _ :=
    safe_readFile_bind_iff reads_camera (atLeast_camera.mono (by decide)) camerasBin
      (fun _ => (account_readFile keeps_images _ _).bind fun _ =>
        (account_readFile keeps_points _ _).bind (hpure _))
      (fun _ _ hwithin => safe_readFile_bind_iff reads_image (atLeast_image.mono (by decide))
        imagesBin (fun _ => (account_readFile keeps_points _ _).bind (hpure _))
        (fun _ _ hwithin => safe_points_iff points3dBin hwithin) hwithin)
      (fun _ h => absurd h (List.not_mem_nil))
  rw [hmodel]
  constructor
  · rintro ⟨hcameras, hrest⟩
    exact ⟨hcameras, fun hc => (hrest hc).1,
      fun hc hi count rest heq hle => ((hrest hc).2 hi count rest heq hle).1,
      fun hc hi count rest heq hle => ((hrest hc).2 hi count rest heq hle).2⟩
  · rintro ⟨hcameras, himages, hpoints, htracks⟩
    exact ⟨hcameras, fun hc => ⟨himages hc, fun hi count rest heq hle =>
      ⟨hpoints hc hi count rest heq hle, htracks hc hi count rest heq hle⟩⟩⟩

/-- `max_size` of the four vectors on a 64-bit platform. -/
def maxSize64 : Element → Nat
  | .camera => (2 ^ 63 - 1) / 152
  | .image => (2 ^ 63 - 1) / 96
  | .point => (2 ^ 63 - 1) / 72
  | .trackElement => (2 ^ 63 - 1) / 8

/-- Numbers as their bits. -/
instance : DoubleBits UInt64 where
  toBits := id
  ofBits := id
  isFinite _ := true
  isNaN _ := false
  ofBits_toBits _ _ := rfl

/-- A file with one point, whose track is said to have 2^61 elements. -/
def longTrack : List UInt8 :=
  leBytes 8 1 ++ List.replicate 43 0 ++ leBytes 8 (2 ^ 61)

/-- What `ParseSparseModel` does with that file and no cameras or images. -/
def parseLongTrack : Except Failure (SparseModel UInt64) × List Reservation :=
  parseSparseModel maxSize64 (leBytes 8 0) (leBytes 8 0) longTrack []

/-- The parser asks for 2^61 track elements, of which the file holds none, and
ends with the `length_error` of the vector. -/
theorem long_track_not_safe :
    parseLongTrack.1 = .error .lengthError ∧
    parseLongTrack.2 = [⟨.camera, 0, 0⟩, ⟨.image, 0, 0⟩, ⟨.point, 1, 51⟩,
      ⟨.trackElement, 2 ^ 61, 0⟩] ∧
    ¬ Safe parseLongTrack := by
  have hreserved : parseLongTrack.2 = [⟨.camera, 0, 0⟩, ⟨.image, 0, 0⟩, ⟨.point, 1, 51⟩,
      ⟨.trackElement, 2 ^ 61, 0⟩] := by decide +kernel
  refine ⟨by rfl, hreserved, fun h => ?_⟩
  have htrack := h.within ⟨.trackElement, 2 ^ 61, 0⟩ (by rw [hreserved]; simp)
  simp [Element.minBytes] at htrack

end Model

end SpatialPlatform.Adapters.Colmap

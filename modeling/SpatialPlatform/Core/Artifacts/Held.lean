import SpatialPlatform.Core.Artifacts.StoreState

/-!
# Payloads that a store holds

A store holds a payload under an artifact when the index has the artifact for
the digest of the payload and the file has its bytes. `Put` makes a store hold
its payload, and takes no other from it.
-/

namespace SpatialPlatform.Core

/-- The text that the bytes of a string are decoded to. -/
theorem fromUTF8?_stringBytes (text : String) :
    String.fromUTF8? ⟨(stringBytes text).toArray⟩ = some text := by
  have hbytes : (⟨(stringBytes text).toArray⟩ : ByteArray) = text.toByteArray := by
    simp [stringBytes]
  rw [hbytes]
  simp only [String.fromUTF8?, Option.dite_none_right_eq_some, Option.some.injEq]
  exact ⟨text.isValidUTF8, rfl⟩

namespace StoreState

variable {store store' : StoreState} {payload : List UInt8} {manifest : ArtifactManifest}
  {generated : Uuid} {result : ArtifactWriteResult}

/-- The index names an artifact for the payload, whose file has its bytes. -/
structure Holds (store : StoreState) (payload : List UInt8) (artifactId : Uuid) : Prop where
  row : ∃ row, store.artifacts.findByHash (sha256Hex payload) = some row ∧
    row.artifactId = artifactId
  file : store.payloads.lookup (sha256Hex payload) = some payload

/-- What the store knows of the digest of a payload, it knows of that payload. -/
def Intact (store : StoreState) (payload : List UInt8) : Prop :=
  (store.artifacts.findByHash (sha256Hex payload)).isSome ∨
    (store.payloads.lookup (sha256Hex payload)).isSome →
    store.payloads.lookup (sha256Hex payload) = some payload

/-- The identifier under which a manifest is stored. -/
def storedId (manifest : ArtifactManifest) (generated : Uuid) : Uuid :=
  if manifest.artifactUuid ≠ .nil then manifest.artifactUuid else generated

theorem lookup_withPayload (hintact : store.Intact payload) :
    (store.withPayload payload).payloads.lookup (sha256Hex payload) = some payload := by
  unfold withPayload
  split
  · next hknown => exact hintact (.inr hknown)
  · exact AList.lookup_insert _

/-- A file that is there stays. -/
theorem lookup_withPayload_of_some {hash : String} {bytes : List UInt8}
    (h : store.payloads.lookup hash = some bytes) :
    (store.withPayload payload).payloads.lookup hash = some bytes := by
  unfold withPayload
  split
  · exact h
  · next hnone =>
    have hne : hash ≠ sha256Hex payload := by
      intro heq
      apply hnone
      rw [← heq, h]
      rfl
    show (AList.insert _ _ _).lookup hash = _
    rw [AList.lookup_insert_ne hne, h]

/-- A `Put` that returns has found the payload in the index, or has registered an artifact for it. -/
theorem put_eq_ok (h : store.put payload manifest generated = (.ok result, store')) :
    result.contentHash = sha256Hex payload ∧
      ((∃ existing, store.artifacts.findByHash (sha256Hex payload) = some existing ∧
          existing.artifactId = result.artifactUuid ∧ store' = store) ∨
        (store.artifacts.findByHash (sha256Hex payload) = none ∧
          result.artifactUuid = storedId manifest generated ∧
          ∃ rows, store' = (store.withPayload payload).registered
            (completed manifest (sha256Hex payload) payload.length generated) rows)) := by
  obtain ⟨existing, hfind, hput⟩ | ⟨_, _, e, _, hput, _⟩ | ⟨hfind, _, rows, hput⟩ :=
    store.put_cases payload manifest generated
  · rw [hput] at h
    cases h
    exact ⟨rfl, .inl ⟨existing, hfind, rfl, rfl⟩⟩
  · rw [hput] at h
    cases h
  · rw [hput] at h
    cases h
    exact ⟨rfl, .inr ⟨hfind, rfl, rows, rfl⟩⟩

/-- A `Put` to a writable store returns, and the store stays writable. -/
theorem put_returns (payload : List UInt8) (manifest : ArtifactManifest) (generated : Uuid)
    (hwritable : store.readOnly = false) : ∃ result store',
      store.put payload manifest generated = (.ok result, store') ∧ store'.readOnly = false := by
  obtain ⟨_, _, hput⟩ | ⟨_, hread, _⟩ | ⟨_, _, rows, hput⟩ :=
    store.put_cases payload manifest generated
  · exact ⟨_, _, hput, hwritable⟩
  · rw [hwritable] at hread
    cases hread
  · refine ⟨_, _, hput, ?_⟩
    show (store.withPayload payload).readOnly = false
    rw [withPayload_readOnly, hwritable]

/-- A row that shares no key with a new one is found as before. -/
theorem findByHash_upsert_of_ne {table : ArtifactTable} {hash : String} {row old : ArtifactIndexRow}
    (hold : table.findByHash hash = some old) (hid : old.artifactId ≠ row.artifactId)
    (hhash : hash ≠ row.contentHash) : (table.upsert row).findByHash hash = some old := by
  obtain ⟨hmem, rfl⟩ := ArtifactTable.findByHash_eq_some.mp hold
  rw [ArtifactTable.findByHash_eq_some, ArtifactTable.mem_upsert]
  exact ⟨.inr ⟨hmem, hid, hhash⟩, rfl⟩

theorem findByHash_upsert_self (table : ArtifactTable) (row : ArtifactIndexRow) :
    (table.upsert row).findByHash row.contentHash = some row := by
  rw [ArtifactTable.findByHash_eq_some, ArtifactTable.mem_upsert]
  exact ⟨.inl rfl, rfl⟩

/-- After a `Put`, the store holds the payload. -/
theorem put_holds (hintact : store.Intact payload)
    (h : store.put payload manifest generated = (.ok result, store')) :
    store'.Holds payload result.artifactUuid := by
  obtain ⟨_, ⟨existing, hfind, hid, rfl⟩ | ⟨_, hid, rows, rfl⟩⟩ := put_eq_ok h
  · constructor
    · exact ⟨existing, hfind, hid⟩
    · apply hintact
      rw [hfind]
      exact .inl rfl
  · constructor
    · refine ⟨_, findByHash_upsert_self _ _, ?_⟩
      rw [hid]
      rfl
    · exact lookup_withPayload hintact

/-- A `Put` under another identifier takes no payload from the store. -/
theorem Holds.put {held : List UInt8} {artifactId : Uuid} (hheld : store.Holds held artifactId)
    (hid : artifactId ≠ storedId manifest generated)
    (h : store.put payload manifest generated = (.ok result, store')) :
    store'.Holds held artifactId := by
  obtain ⟨_, ⟨_, _, _, rfl⟩ | ⟨hnone, _, rows, rfl⟩⟩ := put_eq_ok h
  · exact hheld
  · obtain ⟨row, hrow, rfl⟩ := hheld.row
    have hhash : sha256Hex held ≠ sha256Hex payload := by
      intro heq
      rw [heq, hnone] at hrow
      cases hrow
    constructor
    · refine ⟨row, ?_, rfl⟩
      show ((store.withPayload payload).artifacts.upsert _).findByHash _ = _
      rw [withPayload_artifacts]
      exact findByHash_upsert_of_ne hrow hid hhash
    · exact lookup_withPayload_of_some hheld.file

/-- An identifier that no row has is not that of a payload the store holds. -/
theorem Holds.ne {held : List UInt8} {artifactId other : Uuid} (hheld : store.Holds held artifactId)
    (hunused : ∀ row ∈ store.artifacts.rows, row.artifactId ≠ other) : artifactId ≠ other := by
  obtain ⟨row, hrow, rfl⟩ := hheld.row
  exact hunused row (ArtifactTable.findByHash_eq_some.mp hrow).1

/-- A `Put` changes no other file. -/
theorem lookup_put_of_ne {hash : String} (hhash : hash ≠ sha256Hex payload)
    (h : store.put payload manifest generated = (.ok result, store')) :
    store'.payloads.lookup hash = store.payloads.lookup hash := by
  obtain ⟨_, ⟨_, _, _, rfl⟩ | ⟨_, _, rows, rfl⟩⟩ := put_eq_ok h
  · rfl
  · show (store.withPayload payload).payloads.lookup hash = _
    unfold withPayload
    split
    · rfl
    · exact AList.lookup_insert_ne hhash

/-- What all rows satisfy, and the new row, the rows after a `Put` satisfy. -/
theorem put_rows {p : ArtifactIndexRow → Prop} (hp : ∀ row ∈ store.artifacts.rows, p row)
    (hnew : p (indexRow (completed manifest (sha256Hex payload) payload.length generated)))
    (h : store.put payload manifest generated = (.ok result, store')) :
    ∀ row ∈ store'.artifacts.rows, p row := by
  obtain ⟨_, ⟨_, _, _, rfl⟩ | ⟨_, _, rows, rfl⟩⟩ := put_eq_ok h
  · exact hp
  · intro row hrow
    obtain rfl | ⟨hmem, _⟩ := ArtifactTable.mem_upsert.mp hrow
    · exact hnew
    · rw [withPayload_artifacts] at hmem
      exact hp row hmem

/-- A `Put` leaves another payload intact, unless the two have one digest. -/
theorem Intact.put {other : List UInt8} (hother : store.Intact other)
    (hhash : sha256Hex other ≠ sha256Hex payload)
    (h : store.put payload manifest generated = (.ok result, store')) : store'.Intact other := by
  unfold Intact
  rw [lookup_put_of_ne hhash h]
  intro hknown
  apply hother
  apply hknown.imp_left
  intro hrow
  by_contra hnone
  rw [Option.isSome_iff_exists, not_exists] at hnone
  have hrows : ∀ row ∈ store'.artifacts.rows, row.contentHash ≠ sha256Hex other := by
    apply put_rows (p := fun row => row.contentHash ≠ sha256Hex other) _ _ h
    · intro row hmem hcontent
      exact hnone row (ArtifactTable.findByHash_eq_some.mpr ⟨hmem, hcontent⟩)
    · exact hhash.symm
  obtain ⟨row, hrow⟩ := Option.isSome_iff_exists.mp hrow
  obtain ⟨hmem, hcontent⟩ := ArtifactTable.findByHash_eq_some.mp hrow
  exact hrows row hmem hcontent

end StoreState

end SpatialPlatform.Core

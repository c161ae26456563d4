import SpatialPlatform.Core.Sha256

/-!
# The artifact store

`core/artifacts/artifact_store.{h,cpp}`, as far as a task body uses it. Payloads
are stored under their SHA-256, and a read verifies the digest. The manifests,
the index rows and the quarantine do not reach a task body and are left out, as
is a disk that refuses a write.
-/

namespace SpatialPlatform.Core

/-- What `Exists` and `ReadFile` give for the payload path of a content hash. -/
structure ArtifactStore where
  readPayload : String → Except ProjectError (Option (List UInt8))

namespace ArtifactStore

/-- `Put`: the content hash in its result. -/
def put (payload : List UInt8) : String := sha256Hex payload

/-- `Get`. -/
def get (store : ArtifactStore) (contentHash : String) :
    Except ProjectError (Option (List UInt8)) := do
  match ← store.readPayload contentHash with
  | none => return none
  | some bytes =>
      if sha256Hex bytes ≠ contentHash then
        throw ⟨.artifactHashMismatch, "artifact integrity check failed for hash: " ++ contentHash⟩
      else return some bytes

/-- Bytes that are read back have the digest they were asked for by. -/
theorem sha256Hex_of_get {store : ArtifactStore} {contentHash : String} {bytes : List UInt8}
    (h : store.get contentHash = .ok (some bytes)) : sha256Hex bytes = contentHash := by
  unfold get at h
  cases hread : store.readPayload contentHash with
  | error e => simp [hread, bind, Except.bind] at h
  | ok found =>
      cases found with
      | none => simp [hread, bind, Except.bind, pure, Except.pure] at h
      | some bytes' =>
          simp only [hread, bind, Except.bind] at h
          split at h
          · cases h
          · next hverified =>
              cases h
              simpa using hverified

end ArtifactStore

end SpatialPlatform.Core

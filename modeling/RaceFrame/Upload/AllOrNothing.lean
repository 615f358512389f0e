import RaceFrame.Events.ThumbnailFaults
import RaceFrame.Upload.Faults

/-!
# Ingestion is all or nothing

The three uploads and the saving of a thumbnail, for every input and every choice
of the calls that raise. Each of them compensates in one handler what is raised
before the commit and what is raised after it.
-/

namespace RaceFrame

open Core

variable {F : Type}

/-- Each of the four functions is all or nothing exactly unless its rows are committed, a refresh
after the commit raises, and a deletion of the compensation takes effect. -/
theorem ingestion_allOrNothing_iff (cfg : UploadConfig) :
    (∀ (s : UploadState F) (eventId : Uuid) (fileName contentType : Text) (content : Bytes),
      s.Begins →
        (∀ idempotencyKey, AllOrNothing s ((ingestPhotoUpload cfg eventId fileName contentType
            content idempotencyKey).run s).2 ↔
          ¬((∃ image, CommitsPhoto cfg eventId fileName contentType content idempotencyKey
              image s) ∧
            s.outcomes (.refresh 0) ≠ .returns ∧
              ∃ key ∈ photoKeys cfg.tools eventId (s.world.uuids 0) (strip fileName),
                s.outcomes (.delete key) ≠ .raises)) ∧
        (∀ participant, AllOrNothing s ((ingestParticipantSelfieUpload cfg participant fileName
            contentType content).run s).2 ↔
          ¬((∃ image, CommitsSelfie cfg participant fileName contentType content image s) ∧
            s.outcomes (.refresh 0) ≠ .returns ∧
              s.outcomes (.delete (buildFaceSelfieObjectKey cfg.tools participant.eventId
                participant.id (s.world.uuids 0) (strip fileName))) ≠ .raises)) ∧
        (∀ searchSession participant, AllOrNothing s ((ingestFaceSearchUpload cfg eventId
            searchSession participant fileName contentType content).run s).2 ↔
          ¬((∃ image, CommitsSearch cfg eventId searchSession participant fileName contentType
              content image s) ∧
            ¬(s.outcomes (.refresh 0) = .returns ∧ s.outcomes (.refresh 1) = .returns) ∧
              s.outcomes (.delete (buildFaceSearchObjectKey cfg.tools eventId
                (openedSession s.world eventId searchSession participant).id
                (s.world.uuids (sessionDraws searchSession)) (strip fileName))) ≠ .raises))) ∧
    ∀ (s : ThumbnailState) (event : EventRow), s.Begins event →
      (SavesAllOrNothing s ((saveEventThumbnail event).run s).2 ↔
        ¬(CommitsThumbnail event s ∧ s.outcomes .refresh ≠ .returns ∧
          s.outcomes (.delete (eventThumbnailKey event.id (s.world.uuids 0))) ≠ .raises)) := by
  refine ⟨fun s eventId fileName contentType content hs => ⟨?_, ?_, ?_⟩, ?_⟩
  · exact fun idempotencyKey => ingestPhotoUpload_allOrNothing_iff hs
  · exact fun participant => ingestParticipantSelfieUpload_allOrNothing_iff hs
  · exact fun searchSession participant => ingestFaceSearchUpload_allOrNothing_iff hs
  · exact fun s event hs => saveEventThumbnail_allOrNothing_iff hs

/-- Nothing is stored, and the refresh after the commit raises. -/
def failedRefresh : UploadState ℚ :=
  { freshUploads with outcomes := fun call => if call = .refresh 0 then .raises else .returns }

private theorem begins_of_empty {s : UploadState ℚ} (hput : s.putKeys = [])
    (hdelete : s.deleteTargets = []) (hrows : s.rows = .empty) : s.Begins := by
  refine ⟨hput, hdelete, fun n key href => ?_⟩
  rw [hrows] at href
  rcases href with ⟨row, hrow, -⟩ | ⟨row, hrow, -⟩ | ⟨row, hrow, -⟩
  all_goals cases hrow

private theorem commitsPixel : CommitsPhoto pixelConfig 7 "start.png".toList "image/png".toList
    blackPixel (some ['a']) ⟨"image/png".toList, 1, 1, hexdigest blackPixelDigest⟩
      failedRefresh where
  upload := ⟨by decide +kernel, rfl⟩
  unknown := rfl
  room := by decide +kernel
  rows := by
    refine ⟨fun h => (by cases h), fun key _ => rfl, ?_, rfl⟩
    decide +kernel

/-- The upload whose refresh raises commits a photo and deletes its objects. -/
theorem failedRefresh_not_allOrNothing :
    failedRefresh.Begins ∧
      (((uploadPixel ['a']).run failedRefresh).2.rows.photos.rows.any fun photo =>
        ((uploadPixel ['a']).run failedRefresh).2.deleteTargets.contains
          photo.photo.originalObjectKey) = true ∧
      ((uploadPixel ['a']).run failedRefresh).2.objects = [] ∧
      ¬AllOrNothing failedRefresh ((uploadPixel ['a']).run failedRefresh).2 := by
  have hbegins : failedRefresh.Begins := begins_of_empty rfl rfl rfl
  refine ⟨hbegins, by decide +kernel, by decide +kernel, fun h => ?_⟩
  refine (ingestPhotoUpload_allOrNothing_iff hbegins).mp h
    ⟨⟨_, commitsPixel⟩, by decide, _, List.mem_cons_self, ?_⟩
  rw [failedRefresh]
  decide

/-- Where every call returns, the upload is all or nothing. -/
theorem freshUploads_allOrNothing :
    AllOrNothing freshUploads ((uploadPixel ['a']).run freshUploads).2 :=
  (((ingestion_allOrNothing_iff pixelConfig).1 freshUploads 7 "start.png".toList
    "image/png".toList blackPixel (begins_of_empty rfl rfl rfl)).1 (some ['a'])).mpr
      fun h => h.2.1 rfl

end RaceFrame

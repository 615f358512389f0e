import RaceFrame.Archive.DownloadNames
import RaceFrame.Core.Bytes
import RaceFrame.Text.Uuids

/-!
# Checks of an uploaded image

`validate_image_bytes` with the checks that photos and selfies run before it, and
the object keys under which an upload is stored. What Pillow, `hashlib` and
`str.lower` compute is a parameter.
-/

namespace RaceFrame

open Core

/-- The settings that the checks read. -/
structure ImageLimits where
  maxPhotoUploadBytes : Nat
  maxSelfieUploadBytes : Nat
  maxImageDimension : Nat
  maxImagePixels : Nat

/-- What `Image.open` reads from a valid image. -/
structure ImageHeader where
  format : String
  width : Nat
  height : Nat
  frameCount : Nat

/-- Why `Image.open` or `verify` raises. -/
inductive ImageFault
  | decompressionBomb | unidentified

/-- What the checks take from other packages. -/
structure ImageTools where
  /-- `Image.open` and `verify`. -/
  openImage : Bytes → Except ImageFault ImageHeader
  /-- `create_photo_thumbnail`: `none` when it raises. -/
  createPhotoThumbnail : Bytes → Option Bytes
  /-- `hashlib.sha256(content).digest()`. -/
  sha256 : Bytes → Bytes
  /-- `str.lower`. -/
  lower : Text → Text

/-- `Path(file_name)`: the stem and the suffix of its name. -/
def pathParts (fileName : Text) : Text × Text :=
  let name := pathName fileName
  let (stem, dot, extension) := rpartitionDot name
  if dot.isEmpty || stem.isEmpty || extension.isEmpty then (name, [])
  else (stem, dot ++ extension)

variable (tools : ImageTools) (limits : ImageLimits)

/-- `Path(file_name).suffix.lower()`. -/
def loweredSuffix (fileName : Text) : Text := tools.lower (pathParts fileName).2

/-- `IMAGE_EXTENSIONS`. -/
def imageExtensions : List Text := [".jpg".toList, ".jpeg".toList, ".png".toList, ".webp".toList]

/-- `IMAGE_CONTENT_TYPES`. -/
def imageContentTypes : List Text :=
  ["image/jpeg".toList, "image/png".toList, "image/webp".toList]

/-- `ALLOWED_IMAGE_FORMATS`. -/
def allowedImageFormats : String → Option (Text × List Text)
  | "JPEG" => some ("image/jpeg".toList, [".jpg".toList, ".jpeg".toList])
  | "PNG" => some ("image/png".toList, [".png".toList])
  | "WEBP" => some ("image/webp".toList, [".webp".toList])
  | _ => none

/-- The texts of the checks that photos and selfies word differently. -/
structure UploadTexts where
  extension : String
  empty : String
  tooLarge : String
  contentType : String

/-- The common body of `validate_image_upload` and `validate_selfie_upload`; the content type that
they return is not used. -/
def validateUpload (texts : UploadTexts) (maxBytes : Nat) (fileName contentType : Text)
    (fileSize : Nat) : Except String Unit := do
  if !imageExtensions.contains (loweredSuffix tools fileName) then throw texts.extension
  if fileSize = 0 then throw texts.empty
  if maxBytes < fileSize then
    throw (texts.tooLarge ++ " exceeds the " ++ toString (maxBytes / (1024 * 1024)) ++
      " MB upload limit.")
  let normalized := if contentType.isEmpty then [] else tools.lower (strip contentType)
  if !normalized.isEmpty && !imageContentTypes.contains normalized then throw texts.contentType

/-- `validate_image_upload`. -/
def validateImageUpload (fileName contentType : Text) (fileSize : Nat) : Except String Unit :=
  validateUpload tools
    { extension := "Upload JPG, PNG, or WEBP images only."
      empty := "Uploaded file is empty."
      tooLarge := "Image"
      contentType := "Unsupported image type. Use JPG, PNG, or WEBP." }
    limits.maxPhotoUploadBytes fileName contentType fileSize

/-- `validate_selfie_upload`. -/
def validateSelfieUpload (fileName contentType : Text) (fileSize : Nat) : Except String Unit :=
  validateUpload tools
    { extension := "Upload JPG, PNG, or WEBP selfies only."
      empty := "Uploaded selfie is empty."
      tooLarge := "Selfie"
      contentType := "Unsupported selfie type. Use JPG, PNG, or WEBP." }
    limits.maxSelfieUploadBytes fileName contentType fileSize

structure ValidatedImage where
  contentType : Text
  width : Nat
  height : Nat
  sha256 : Text

/-- `validate_image_bytes`. -/
def validateImageBytes (content : Bytes) (fileName declaredContentType : Text) (maxBytes : Nat) :
    Except String ValidatedImage := do
  if content.isEmpty then throw "Uploaded image is empty."
  if maxBytes < content.length then
    throw ("Image exceeds the " ++ toString (maxBytes / (1024 * 1024)) ++ " MB upload limit.")
  if 255 < fileName.length then throw "Image file name is too long."
  let header ← match tools.openImage content with
    | .ok header => pure header
    | .error .decompressionBomb => throw "Image dimensions are too large."
    | .error .unidentified => throw "The uploaded file is not a valid supported image."
  match allowedImageFormats header.format with
  | none => throw "Upload JPG, PNG, or WEBP images only."
  | some (actualContentType, extensions) =>
    if !extensions.contains (loweredSuffix tools fileName) then
      throw "The file extension does not match the image contents."
    let declared := tools.lower (strip (declaredContentType.takeWhile (· != ';')))
    if !declared.isEmpty && declared != actualContentType then
      throw "The declared image type does not match the image contents."
    if header.width = 0 || header.height = 0 then throw "Image dimensions are invalid."
    if limits.maxImageDimension < header.width || limits.maxImageDimension < header.height then
      throw "Image width or height exceeds the configured limit."
    if limits.maxImagePixels < header.width * header.height then
      throw "Image pixel count exceeds the configured limit."
    if header.frameCount != 1 then throw "Animated or multi-frame images are not supported."
    return ⟨actualContentType, header.width, header.height, hexdigest (tools.sha256 content)⟩

/-- A validated image carries the digest of its content. -/
theorem sha256_of_validateImageBytes {content : Bytes} {fileName declaredContentType : Text}
    {maxBytes : Nat} {image : ValidatedImage}
    (h : validateImageBytes tools limits content fileName declaredContentType maxBytes =
      .ok image) : image.sha256 = hexdigest (tools.sha256 content) := by
  have hguard : ∀ {condition : Prop} [Decidable condition] {message : String}
      {rest : Except String ValidatedImage},
      (if condition then throw message else rest) = .ok image → rest = .ok image := by
    intro condition _ message rest hif
    by_cases hcondition : condition
    · rw [if_pos hcondition] at hif
      cases hif
    · rwa [if_neg hcondition] at hif
  unfold validateImageBytes at h
  replace h := hguard (hguard (hguard h))
  rcases hopen : tools.openImage content with (_ | _) | header
  all_goals rw [hopen] at h
  · cases h
  · cases h
  · rcases hformat : allowedImageFormats header.format with _ | ⟨contentType, extensions⟩
    · simp only [pure_bind, hformat] at h
      cases h
    · simp only [pure_bind, hformat] at h
      replace h := hguard (hguard (hguard (hguard (hguard (hguard h)))))
      cases h
      rfl

/-- `re.sub(r"[^a-zA-Z0-9._-]+", "-", stem).strip("-") or fallback`. -/
def safeBaseName (stem fallback : Text) : Text :=
  let safe := fun c : Char => c.isAlphanum || ['.', '_', '-'].contains c
  let name := stripChars ['-'] ((maximalRuns safe stem).intersperse ['-']).flatten
  if name.isEmpty then fallback else name

/-- The last component of the key of an uploaded object. -/
def storedName (id : Uuid) (fileName fallback : Text) : Text :=
  let suffix := loweredSuffix tools fileName
  uuidText id ++ ['-'] ++ safeBaseName (pathParts fileName).1 fallback ++
    (if suffix.isEmpty then ".jpg".toList else suffix)

/-- `build_original_object_key`. -/
def buildOriginalObjectKey (eventId photoId : Uuid) (fileName : Text) : Text :=
  "events/".toList ++ uuidText eventId ++ "/originals/".toList ++
    storedName tools photoId fileName "photo".toList

/-- `build_thumbnail_object_key`. -/
def buildThumbnailObjectKey (eventId photoId : Uuid) (fileName : Text) : Text :=
  "events/".toList ++ uuidText eventId ++ "/thumbnails/".toList ++ uuidText photoId ++ ['-'] ++
    safeBaseName (pathParts fileName).1 "photo".toList ++ ".jpg".toList

/-- `build_face_selfie_object_key`. -/
def buildFaceSelfieObjectKey (eventId participantId faceImageId : Uuid) (fileName : Text) : Text :=
  "events/".toList ++ uuidText eventId ++ "/participants/".toList ++ uuidText participantId ++
    "/faces/".toList ++ storedName tools faceImageId fileName "selfie".toList

/-- `build_face_search_object_key`. -/
def buildFaceSearchObjectKey (eventId searchSessionId searchImageId : Uuid) (fileName : Text) :
    Text :=
  "events/".toList ++ uuidText eventId ++ "/face-search/".toList ++ uuidText searchSessionId ++
    ['/'] ++ storedName tools searchImageId fileName "face-photo".toList

end RaceFrame

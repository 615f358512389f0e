import RaceFrame.Core.Base64
import RaceFrame.Core.Table
import RaceFrame.Text.Uuids

/-!
# Search capabilities

The token that lets a visitor see the results of a search: a signed payload with
the session, the event, a secret, an expiry and the owner. The digests are a
parameter, of which only what the scheme relies on is assumed: they are injective
and not empty. What JSON values other than texts and integers are converted to is
a parameter too, since no payload that is signed holds any.
-/

namespace RaceFrame

open Core

/-- The digest functions, for the signing key of the server. -/
structure Digests where
  /-- `hashlib.sha256(message).digest()`. -/
  sha256 : Bytes → Bytes
  /-- `hmac.new(_signing_key(), message, hashlib.sha256).digest()`. -/
  hmacSha256 : Bytes → Bytes
  sha256_injective : Function.Injective sha256
  hmacSha256_injective : Function.Injective hmacSha256
  sha256_ne_nil : ∀ message, sha256 message ≠ []
  hmacSha256_ne_nil : ∀ message, hmacSha256 message ≠ []

/-- The exceptions inside the decoder. -/
inductive CapabilityError
  | valueError
  | typeError
  | keyError
  | unicodeError
  | overflowError
  deriving DecidableEq, Repr

/-- Whether the `except` clause of the decoder catches the exception. -/
def CapabilityError.isCaught : CapabilityError → Bool
  | .overflowError => false
  | _ => true

/-- The conversions of JSON values that are not texts or integers. -/
structure JsonConversions (F : Type) where
  readFloat : Text → F
  /-- `int(value)`. -/
  int : Json F → Except CapabilityError Int
  /-- `str(value)`. -/
  str : Json F → Text

/-- `SearchCapability`. -/
structure SearchCapability where
  sessionId : Text
  eventId : Text
  secret : Text
  expiresAt : Instant
  capabilityHash : Text
  ownerHash : Text
  deriving DecidableEq

/-- `_b64encode`. -/
def b64encode (value : Bytes) : Text := rstripPadding (urlsafeB64encode value)

/-- `_b64decode`. -/
def b64decode (value : Text) : Option Bytes :=
  urlsafeB64decode (value ++ base64Padding value.length)

/-- `text.encode("ascii")`. -/
def encodeAscii (text : Text) : Option Bytes :=
  if text.all fun c => c.toNat < 128 then some (encodeUtf8 text) else none

/-- `hmac.compare_digest` on texts, which have to be ASCII. -/
def compareDigest (a b : Text) : Except CapabilityError Bool :=
  if (a ++ b).all fun c => c.toNat < 128 then .ok (a == b) else .error .typeError

namespace Digests

variable (digests : Digests)

/-- `secret_hash`. -/
def secretHash (value : Text) : Text := hexdigest (digests.sha256 (encodeUtf8 value))

/-- `owner_binding_hash`. -/
def ownerBindingHash (visitorId : Text) : Text :=
  hexdigest (digests.hmacSha256 (encodeUtf8 visitorId))

/-- The signature of an encoded payload. -/
def signature (encodedPayload : Bytes) : Text := b64encode (digests.hmacSha256 encodedPayload)

end Digests

/-- A call of `issue_search_capability`, with the time and the 32 random bytes it draws. -/
structure IssueCall where
  sessionId : Uuid
  eventId : Uuid
  visitorId : Text
  random : Bytes
  now : Instant
  deriving DecidableEq

namespace IssueCall

variable (digests : Digests) (ttlSeconds : Nat) (call : IssueCall)

/-- `raw_secret`, from `secrets.token_urlsafe(32)`. -/
def rawSecret : Text := b64encode call.random

/-- `expires_at`. -/
def expiresAt : Instant := call.now + seconds ttlSeconds

/-- The field `exp`: the seconds of `expires_at`. -/
def exp : Nat := call.expiresAt ttlSeconds / seconds 1

/-- The payload, in the order of its sorted keys. -/
def payload : List (Text × FlatValue) :=
  [("cap".toList, .str call.rawSecret),
    ("eid".toList, .str (uuidText call.eventId)),
    ("exp".toList, .int (call.exp ttlSeconds)),
    ("own".toList, .str (digests.ownerBindingHash call.visitorId)),
    ("sid".toList, .str (uuidText call.sessionId))]

/-- `encoded_payload`. -/
def encodedPayload : Text :=
  b64encode (encodeUtf8 (dumpsFlat (call.payload digests ttlSeconds)))

/-- The token: the encoded payload and its signature. -/
def token : Text :=
  call.encodedPayload digests ttlSeconds ++
    '.' :: digests.signature (encodeUtf8 (call.encodedPayload digests ttlSeconds))

end IssueCall

/-- `issue_search_capability`. -/
def issueSearchCapability (digests : Digests) (ttlSeconds : Nat) (call : IssueCall) :
    SearchCapability where
  sessionId := uuidText call.sessionId
  eventId := uuidText call.eventId
  secret := call.token digests ttlSeconds
  expiresAt := call.expiresAt ttlSeconds
  capabilityHash := digests.secretHash call.rawSecret
  ownerHash := digests.ownerBindingHash call.visitorId

section Decoding

variable {F : Type} (digests : Digests) (conversions : JsonConversions F)

/-- `int(value)`. -/
def JsonConversions.toInt : Json F → Except CapabilityError Int
  | .int n => .ok n
  | value => conversions.int value

/-- `str(value)`. -/
def JsonConversions.toText : Json F → Text
  | .str s => s
  | value => conversions.str value

/-- `payload[key]`: only an object has members. -/
def payloadItem (payload : Json F) (key : String) : Except CapabilityError (Json F) :=
  match payload with
  | .dict entries =>
    match Json.member entries key with
    | some value => .ok value
    | none => .error .keyError
  | _ => .error .typeError

/-- `datetime.fromtimestamp(exp, tz=timezone.utc)`, in seconds: the years 1 to 9999. -/
def fromTimestamp (exp : Int) : Except CapabilityError Int :=
  if -62135596800 ≤ exp ∧ exp ≤ 253402300799 then .ok exp
  else if exp.natAbs < 2 ^ 55 then .error .valueError
  else .error .overflowError

/-- The checks of the decoder after the signature, and the fields it reads. -/
def readPayload (encodedPayload eventId visitorId : Text) (now : Instant) :
    Except CapabilityError (Option (Text × Text × Instant)) := do
  let bytes ← (b64decode encodedPayload).elim (.error .valueError) .ok
  let text ← (decodeUtf8 bytes).elim (.error .unicodeError) .ok
  let payload ← (loads conversions.readFloat text).elim (.error .valueError) .ok
  let exp ← fromTimestamp (← conversions.toInt (← payloadItem payload "exp"))
  if exp * seconds 1 ≤ now then return none
  let eid := conversions.toText (← payloadItem payload "eid")
  if !(← compareDigest eid eventId) then return none
  let own := conversions.toText (← payloadItem payload "own")
  if !(← compareDigest own (digests.ownerBindingHash visitorId)) then return none
  let rawSecret := conversions.toText (← payloadItem payload "cap")
  let sessionId := conversions.toText (← payloadItem payload "sid")
  return some (rawSecret, sessionId, exp.toNat * seconds 1)

/-- The `try` block of `decode_search_capability`. -/
def tryDecode (value eventId visitorId : Text) (now : Instant) :
    Except CapabilityError (Option (Text × Text × Instant)) := do
  let encodedPayload := value.takeWhile (· != '.')
  if encodedPayload.length = value.length then .error .valueError
  let suppliedSignature := value.drop (encodedPayload.length + 1)
  let bytes ← (encodeAscii encodedPayload).elim (.error .unicodeError) .ok
  if !(← compareDigest suppliedSignature (digests.signature bytes)) then return none
  readPayload digests conversions encodedPayload eventId visitorId now

/-- `decode_search_capability`. -/
def decodeSearchCapability (value eventId visitorId : Text) (now : Instant) :
    Except CapabilityError (Option SearchCapability) :=
  match tryDecode digests conversions value eventId visitorId now with
  | .error e => if e.isCaught then .ok none else .error e
  | .ok none => .ok none
  | .ok (some (rawSecret, sessionId, expiresAt)) =>
    .ok (some
      { sessionId := sessionId
        eventId := eventId
        secret := value
        expiresAt := expiresAt
        capabilityHash := digests.secretHash rawSecret
        ownerHash := digests.ownerBindingHash visitorId })

/-- `request_search_capability`; a request without the cookie has the empty text. -/
def requestSearchCapability (cookieValue eventId visitorId : Text) (now : Instant) :
    Except CapabilityError (Option SearchCapability) :=
  if visitorId.isEmpty || cookieValue.isEmpty then .ok none
  else decodeSearchCapability digests conversions cookieValue eventId visitorId now

end Decoding

/-- The columns of `face_search_sessions` that the authorisation reads. -/
structure SearchSessionRow where
  id : Uuid
  eventId : Uuid
  expiresAt : Instant
  capabilityHash : Option Text
  ownerBindingHash : Option Text
  deriving DecidableEq

/-- The table of search sessions. -/
abbrev SearchSessions := Table SearchSessionRow SearchSessionRow.id

/-- The lookup of `list_face_search_photo_items`. -/
def SearchSessions.find? (sessions : SearchSessions) (eventId : Uuid) (faceSessionId : Text) :
    Option SearchSessionRow :=
  (parseUuid faceSessionId).bind fun parsedId =>
    sessions.rows.find? fun row => row.id == parsedId && row.eventId == eventId

/-- The condition under which `authorized_search_results` hands out the session. -/
def SearchSessionRow.admits (digests : Digests) (row : SearchSessionRow)
    (capability : SearchCapability) (visitorId : Text) (now : Instant) : Bool :=
  match row.capabilityHash, row.ownerBindingHash with
  | some storedCapabilityHash, some storedOwnerHash =>
    decide (now < row.expiresAt) && !storedCapabilityHash.isEmpty && !storedOwnerHash.isEmpty &&
      storedCapabilityHash == capability.capabilityHash &&
      storedOwnerHash == capability.ownerHash &&
      storedOwnerHash == digests.ownerBindingHash visitorId
  | _, _ => false

/-- `authorized_search_results`: the session it yields, if any. The cookie is decoded at one
reading of the clock and the session checked at another. -/
def authorizedSearchResults {F : Type} (digests : Digests) (conversions : JsonConversions F)
    (sessions : SearchSessions) (eventId : Uuid) (visitorId cookieValue : Text)
    (decodedAt checkedAt : Instant) : Except CapabilityError (Option SearchSessionRow) := do
  let capability ← requestSearchCapability digests conversions cookieValue (uuidText eventId)
    visitorId decodedAt
  match capability with
  | none => return none
  | some capability =>
    match sessions.find? eventId capability.sessionId with
    | none => return none
    | some row =>
      if row.admits digests capability visitorId checkedAt then return some row else return none

/-- `bind_search_capability`: store what the new capability is checked against. -/
def bindSearchCapability (digests : Digests) (ttlSeconds : Nat) (call : IssueCall)
    (row : SearchSessionRow) : SearchSessionRow :=
  let capability := issueSearchCapability digests ttlSeconds call
  { row with
    expiresAt := capability.expiresAt
    capabilityHash := some capability.capabilityHash
    ownerBindingHash := some capability.ownerHash }

end RaceFrame

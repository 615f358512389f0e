import RaceFrame.Security.Capability

/-!
# Decoding undoes issuing

The unpadded base64 layer, the payload and the signature of a token. A text whose
signature is not the one of its payload is turned down without an exception, and
the token of an issued capability is read back field by field.
-/

namespace RaceFrame

open Core

theorem b64encode_eq (value : Bytes) : b64encode value = base64Unpadded value :=
  rstripPadding_urlsafeB64encode value

/-- The decoder restores the padding that the encoder stripped. -/
theorem b64decode_b64encode (value : Bytes) : b64decode (b64encode value) = some value := by
  rw [b64encode_eq, b64decode, urlsafeB64decode_unpadded]

theorem b64encode_injective : Function.Injective b64encode := by
  intro a b h
  have hdecode := b64decode_b64encode a
  rw [h, b64decode_b64encode] at hdecode
  exact (Option.some.inj hdecode).symm

theorem encodeUtf8_injective : Function.Injective encodeUtf8 := by
  intro a b h
  have hdecode := decodeUtf8_encodeUtf8 a
  rw [h, decodeUtf8_encodeUtf8] at hdecode
  exact (Option.some.inj hdecode).symm

/-- The base64 texts need no escape in a JSON string. -/
theorem isPlain_b64encode (value : Bytes) : IsPlain (b64encode value) := by
  intro c hc
  rw [b64encode_eq] at hc
  obtain ⟨-, hquote, hbackslash, hlow, hhigh⟩ := props_of_mem_base64Unpadded hc
  exact ⟨hlow, hhigh, hquote, hbackslash⟩

theorem dot_notMem_b64encode (value : Bytes) : '.' ∉ b64encode value := by
  intro h
  rw [b64encode_eq] at h
  exact (props_of_mem_base64Unpadded h).1 rfl

theorem IsPlain.all_ascii {s : Text} (h : IsPlain s) : (s.all fun c => c.toNat < 128) = true := by
  rw [List.all_eq_true]
  intro c hc
  have hhigh := (h c hc).2.1
  exact decide_eq_true (by omega)

theorem encodeAscii_of_plain {s : Text} (h : IsPlain s) : encodeAscii s = some (encodeUtf8 s) :=
  if_pos h.all_ascii

theorem compareDigest_of_plain {a b : Text} (ha : IsPlain a) (hb : IsPlain b) :
    compareDigest a b = .ok (a == b) := by
  rw [compareDigest, List.all_append, ha.all_ascii, hb.all_ascii]
  rfl

/-- A comparison either answers for what it compares or raises what the decoder catches. -/
theorem compareDigest_cases (a b : Text) :
    compareDigest a b = .ok (a == b) ∨ compareDigest a b = .error .typeError := by
  rw [compareDigest]
  split
  · exact Or.inl rfl
  · exact Or.inr rfl

/-- Two identifiers compare equal as texts exactly when they are the same. -/
theorem compareDigest_uuidText (a b : Uuid) :
    compareDigest (uuidText a) (uuidText b) = .ok (decide (a = b)) := by
  rw [compareDigest_of_plain (isPlain_uuidText _) (isPlain_uuidText _), beq_eq_decide,
    decide_eq_decide.mpr uuidText_injective.eq_iff]

namespace Digests

variable (digests : Digests)

theorem secretHash_injective : Function.Injective digests.secretHash :=
  hexdigest_injective.comp (digests.sha256_injective.comp encodeUtf8_injective)

theorem ownerBindingHash_injective : Function.Injective digests.ownerBindingHash :=
  hexdigest_injective.comp (digests.hmacSha256_injective.comp encodeUtf8_injective)

/-- Two owners compare equal exactly when they are the same visitor. -/
theorem compareDigest_ownerBindingHash (a b : Text) :
    compareDigest (digests.ownerBindingHash a) (digests.ownerBindingHash b) =
      .ok (decide (a = b)) := by
  have hplain : ∀ visitorId, IsPlain (digests.ownerBindingHash visitorId) :=
    fun visitorId => isPlain_hexdigest _
  rw [compareDigest_of_plain (hplain a) (hplain b), beq_eq_decide,
    decide_eq_decide.mpr digests.ownerBindingHash_injective.eq_iff]

theorem secretHash_ne_nil (value : Text) : digests.secretHash value ≠ [] :=
  hexdigest_ne_nil (digests.sha256_ne_nil _)

theorem ownerBindingHash_ne_nil (visitorId : Text) : digests.ownerBindingHash visitorId ≠ [] :=
  hexdigest_ne_nil (digests.hmacSha256_ne_nil _)

/-- A text carries the signature of what stands before its first dot. -/
def Signed (value : Text) : Prop :=
  ∃ encodedPayload : Text, '.' ∉ encodedPayload ∧
    value = encodedPayload ++ '.' :: digests.signature (encodeUtf8 encodedPayload)

end Digests

section Decoding

variable {F : Type} (digests : Digests) (conversions : JsonConversions F)

theorem takeWhile_append_dot {encodedPayload : Text} (h : '.' ∉ encodedPayload)
    (rest : Text) :
    (encodedPayload ++ '.' :: rest).takeWhile (· != '.') = encodedPayload := by
  have hkeep : ∀ c ∈ encodedPayload, (c != '.') = true := by
    intro c hc
    rw [bne_iff_ne]
    rintro rfl
    exact h hc
  rw [List.takeWhile_append_of_pos hkeep]
  simp only [List.takeWhile_cons, bne_self_eq_false, Bool.false_eq_true, ite_false,
    List.append_nil]

/-- With its signature right, a text is decided by its payload. -/
theorem tryDecode_signed {encodedPayload : Text} (hplain : IsPlain encodedPayload)
    (hdot : '.' ∉ encodedPayload) (eventId visitorId : Text) (now : Instant) :
    tryDecode digests conversions
        (encodedPayload ++ '.' :: digests.signature (encodeUtf8 encodedPayload)) eventId visitorId
        now = readPayload digests conversions encodedPayload eventId visitorId now := by
  have hlength : encodedPayload.length ≠
      (encodedPayload ++ '.' :: digests.signature (encodeUtf8 encodedPayload)).length := by
    rw [List.length_append, List.length_cons]
    omega
  have hdrop : (encodedPayload ++ '.' :: digests.signature (encodeUtf8 encodedPayload)).drop
      (encodedPayload.length + 1) = digests.signature (encodeUtf8 encodedPayload) := by
    rw [← List.drop_drop, List.drop_left]
    rfl
  have hsignature : IsPlain (digests.signature (encodeUtf8 encodedPayload)) :=
    isPlain_b64encode _
  simp only [tryDecode, takeWhile_append_dot hdot, if_neg hlength, hdrop,
    encodeAscii_of_plain hplain, Option.elim, ok_bind, compareDigest_of_plain hsignature hsignature,
    beq_self_eq_true, Bool.not_true, Bool.false_eq_true, ite_false]

/-- A text without a dot or with another signature ends in `None`, or in an exception that the
decoder catches. -/
theorem tryDecode_unsigned {value : Text} (h : ¬ digests.Signed value) (eventId visitorId : Text)
    (now : Instant) :
    tryDecode digests conversions value eventId visitorId now = .ok none ∨
      ∃ e : CapabilityError, e.isCaught = true ∧
        tryDecode digests conversions value eventId visitorId now = .error e := by
  unfold tryDecode
  dsimp only
  set encodedPayload := value.takeWhile (· != '.') with hpayload
  by_cases hlength : encodedPayload.length = value.length
  · rw [if_pos hlength]
    exact Or.inr ⟨.valueError, rfl, rfl⟩
  rw [if_neg hlength]
  cases hbytes : encodeAscii encodedPayload with
  | none => exact Or.inr ⟨.unicodeError, rfl, rfl⟩
  | some bytes =>
    have hbytes_eq : bytes = encodeUtf8 encodedPayload := by
      rw [encodeAscii] at hbytes
      split at hbytes
      · exact (Option.some.inj hbytes).symm
      · cases hbytes
    have hsplit : value = encodedPayload ++ '.' :: value.drop (encodedPayload.length + 1) := by
      have happend : encodedPayload ++ value.dropWhile (· != '.') = value :=
        List.takeWhile_append_dropWhile
      cases hrest : value.dropWhile (· != '.') with
      | nil =>
        rw [hrest, List.append_nil] at happend
        exact absurd (congrArg List.length happend) hlength
      | cons c rest =>
        have hc : c = '.' := by
          have hhead := List.head?_dropWhile_not (· != '.') value
          rw [hrest] at hhead
          simpa using hhead
        rw [hrest, hc] at happend
        have hdrop : value.drop (encodedPayload.length + 1) = rest := by
          rw [← List.drop_drop, ← happend, List.drop_left]
          rfl
        rw [hdrop, happend]
    have hdot : '.' ∉ encodedPayload := by
      intro hmem
      have hkept := List.all_takeWhile (p := (· != '.')) (l := value)
      have := List.all_eq_true.mp hkept '.' hmem
      exact absurd this (by decide)
    have hother : (value.drop (encodedPayload.length + 1) ==
        digests.signature (encodeUtf8 encodedPayload)) = false := by
      rw [beq_eq_false_iff_ne]
      intro heq
      rw [heq] at hsplit
      exact h ⟨encodedPayload, hdot, hsplit⟩
    simp only [Option.elim, ok_bind, hbytes_eq]
    rcases compareDigest_cases (value.drop (encodedPayload.length + 1))
      (digests.signature (encodeUtf8 encodedPayload)) with hcompare | hcompare
    · left
      rw [hcompare, ok_bind, hother]
      rfl
    · right
      refine ⟨.typeError, rfl, ?_⟩
      rw [hcompare, error_bind]

/-- The decoder raises on no text that is malformed or carries another signature. -/
theorem decodeSearchCapability_unsigned {value : Text} (h : ¬ digests.Signed value)
    (eventId visitorId : Text) (now : Instant) :
    decodeSearchCapability digests conversions value eventId visitorId now = .ok none := by
  rw [decodeSearchCapability]
  rcases tryDecode_unsigned digests conversions h eventId visitorId now with htry | ⟨e, he, htry⟩
  · rw [htry]
  · rw [htry]
    exact if_pos he

/-- When every part of the payload can be read, the three checks decide. -/
theorem readPayload_of_fields {encodedPayload eventId visitorId text eid own cap sid : Text}
    {bytes : Bytes} {payload : Json F} {exp : Nat} {now : Instant} {sameEvent sameOwner : Bool}
    (hbytes : b64decode encodedPayload = some bytes) (htext : decodeUtf8 bytes = some text)
    (hpayload : loads conversions.readFloat text = some payload)
    (hexp : payloadItem payload "exp" = .ok (.int exp))
    (htime : fromTimestamp exp = .ok (exp : Int))
    (heid : payloadItem payload "eid" = .ok (.str eid))
    (hown : payloadItem payload "own" = .ok (.str own))
    (hcap : payloadItem payload "cap" = .ok (.str cap))
    (hsid : payloadItem payload "sid" = .ok (.str sid))
    (hevent : compareDigest eid eventId = .ok sameEvent)
    (howner : compareDigest own (digests.ownerBindingHash visitorId) = .ok sameOwner) :
    readPayload digests conversions encodedPayload eventId visitorId now =
      .ok (if now < exp * seconds 1 ∧ sameEvent = true ∧ sameOwner = true then
        some (cap, sid, exp * seconds 1) else none) := by
  have hlate : ((exp : Int) * (seconds 1 : Nat) ≤ (now : Int)) ↔ ¬ now < exp * seconds 1 := by
    rw [Nat.not_lt, ← Int.natCast_mul, Int.ofNat_le]
  rw [readPayload, hbytes, Option.elim_some, ok_bind, htext, Option.elim_some, ok_bind, hpayload,
    Option.elim_some, ok_bind, hexp, ok_bind, JsonConversions.toInt, ok_bind, htime, ok_bind]
  by_cases hlive : now < exp * seconds 1
  · rw [if_neg (mt hlate.mp (not_not_intro hlive)), heid, ok_bind]
    dsimp only
    rw [JsonConversions.toText, hevent, ok_bind]
    cases sameEvent with
    | false =>
      rw [if_pos Bool.not_false, if_neg fun hall => Bool.false_ne_true hall.2.1]
      rfl
    | true =>
      rw [Bool.not_true, if_neg Bool.false_ne_true, hown, ok_bind, JsonConversions.toText, howner,
        ok_bind]
      cases sameOwner with
      | false =>
        rw [if_pos Bool.not_false, if_neg fun hall => Bool.false_ne_true hall.2.2]
        rfl
      | true =>
        rw [Bool.not_true, if_neg Bool.false_ne_true, hcap, ok_bind, hsid, ok_bind,
          if_pos ⟨hlive, rfl, rfl⟩, JsonConversions.toText, JsonConversions.toText,
          Int.toNat_natCast]
        rfl
  · rw [if_pos (hlate.mpr hlive), if_neg fun hall => hlive hall.1]
    rfl

end Decoding

private theorem isPlain_of_all {s : Text}
    (h : (s.all fun c => 32 ≤ c.toNat && c.toNat ≤ 126 && c != '"' && c != '\\') = true) :
    IsPlain s := by
  intro c hc
  have hchar := List.all_eq_true.mp h c hc
  simp only [Bool.and_eq_true, decide_eq_true_eq, bne_iff_ne] at hchar
  exact ⟨hchar.1.1.1, hchar.1.1.2, hchar.1.2, hchar.2⟩

private theorem isPlain_keys :
    IsPlain "cap".toList ∧ IsPlain "eid".toList ∧ IsPlain "exp".toList ∧ IsPlain "own".toList ∧
      IsPlain "sid".toList :=
  ⟨isPlain_of_all rfl, isPlain_of_all rfl, isPlain_of_all rfl, isPlain_of_all rfl,
    isPlain_of_all rfl⟩

namespace IssueCall

variable (digests : Digests) (ttlSeconds : Nat) (call : IssueCall)

/-- What is written into the payload of a token needs no escape. -/
theorem plainEntries_payload : PlainEntries (call.payload digests ttlSeconds) := by
  obtain ⟨hcap, heid, hexp, hown, hsid⟩ := isPlain_keys
  intro entry hentry
  simp only [payload, List.mem_cons, List.not_mem_nil, or_false] at hentry
  rcases hentry with rfl | rfl | rfl | rfl | rfl
  · exact ⟨hcap, isPlain_b64encode _⟩
  · exact ⟨heid, isPlain_uuidText _⟩
  · exact ⟨hexp, trivial⟩
  · exact ⟨hown, isPlain_hexdigest _⟩
  · exact ⟨hsid, isPlain_uuidText _⟩

theorem isPlain_encodedPayload : IsPlain (call.encodedPayload digests ttlSeconds) :=
  isPlain_b64encode _

theorem dot_notMem_encodedPayload : '.' ∉ call.encodedPayload digests ttlSeconds :=
  dot_notMem_b64encode _

/-- The second in which a token expires is not after the expiry of its session. -/
theorem exp_le_expiresAt : call.exp ttlSeconds * seconds 1 ≤ call.expiresAt ttlSeconds :=
  Nat.div_mul_le_self _ _

variable {F : Type} (conversions : JsonConversions F)

/-- The payload is read back as it was written. -/
theorem loads_payload :
    loads conversions.readFloat (dumpsFlat (call.payload digests ttlSeconds)) =
      some (.dict (entriesToJson (call.payload digests ttlSeconds))) :=
  loads_dumpsFlat _ (call.plainEntries_payload digests ttlSeconds) (List.cons_ne_nil _ _)

private theorem fromTimestamp_exp (h : call.exp ttlSeconds ≤ 253402300799) :
    fromTimestamp (call.exp ttlSeconds) = .ok (call.exp ttlSeconds : Int) :=
  if_pos ⟨by omega, by omega⟩

/-- The decoder reads the fields of an issued token back, after its three checks. -/
theorem readPayload_encodedPayload (h : call.exp ttlSeconds ≤ 253402300799) (eventId : Uuid)
    (visitorId : Text) (now : Instant) :
    readPayload digests conversions (call.encodedPayload digests ttlSeconds) (uuidText eventId)
        visitorId now =
      .ok (if now < call.exp ttlSeconds * seconds 1 ∧ call.eventId = eventId ∧
          call.visitorId = visitorId then
        some (call.rawSecret, uuidText call.sessionId, call.exp ttlSeconds * seconds 1)
      else none) := by
  have hitem : ∀ (key : String) (value : FlatValue),
      (entriesToJson (call.payload digests ttlSeconds) : JsonDict F).reverse.lookup key =
        some value.toJson →
      payloadItem (.dict (entriesToJson (call.payload digests ttlSeconds)) : Json F) key =
        .ok value.toJson := by
    intro key value hlookup
    simp only [payloadItem, Json.member, hlookup]
  rw [encodedPayload, readPayload_of_fields digests conversions (b64decode_b64encode _)
    (decodeUtf8_encodeUtf8 _)
    (call.loads_payload digests ttlSeconds conversions)
    (hitem "exp" (.int (call.exp ttlSeconds)) rfl) (call.fromTimestamp_exp ttlSeconds h)
    (hitem "eid" (.str (uuidText call.eventId)) rfl)
    (hitem "own" (.str (digests.ownerBindingHash call.visitorId)) rfl)
    (hitem "cap" (.str call.rawSecret) rfl) (hitem "sid" (.str (uuidText call.sessionId)) rfl)
    (compareDigest_uuidText _ _) (digests.compareDigest_ownerBindingHash _ _)]
  simp only [decide_eq_true_eq]

/-- What the token of an issued capability decodes to: the capability, with its expiry rounded to
the second. -/
def decoded : SearchCapability where
  sessionId := uuidText call.sessionId
  eventId := uuidText call.eventId
  secret := call.token digests ttlSeconds
  expiresAt := call.exp ttlSeconds * seconds 1
  capabilityHash := digests.secretHash call.rawSecret
  ownerHash := digests.ownerBindingHash call.visitorId

/-- The token of an issued capability gives its session and its capability hash back, to its
visitor, for its event and before its second of expiry; otherwise it gives nothing. -/
theorem decodeSearchCapability_token (h : call.exp ttlSeconds ≤ 253402300799) (eventId : Uuid)
    (visitorId : Text) (now : Instant) :
    decodeSearchCapability digests conversions (call.token digests ttlSeconds) (uuidText eventId)
        visitorId now =
      .ok (if now < call.exp ttlSeconds * seconds 1 ∧ call.eventId = eventId ∧
          call.visitorId = visitorId then
        some (call.decoded digests ttlSeconds)
      else none) := by
  have htry := tryDecode_signed digests conversions (call.isPlain_encodedPayload digests ttlSeconds)
    (call.dot_notMem_encodedPayload digests ttlSeconds) (uuidText eventId) visitorId now
  rw [call.readPayload_encodedPayload digests ttlSeconds conversions h] at htry
  rw [decodeSearchCapability, token, htry]
  by_cases hall : now < call.exp ttlSeconds * seconds 1 ∧ call.eventId = eventId ∧
      call.visitorId = visitorId
  · rw [if_pos hall, if_pos hall, ← hall.2.1, ← hall.2.2]
    rfl
  · rw [if_neg hall, if_neg hall]

end IssueCall

end RaceFrame

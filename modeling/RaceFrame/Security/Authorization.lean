import RaceFrame.Security.CapabilityCodec

/-!
# Search results need the current capability

A history of search sessions that are created and deleted, of capabilities that
are issued and of capabilities that are bound. Along it every session holds the
hashes of the capability that was bound to it last, so that a cookie yields a
session exactly when it is the token of that capability, sent by its visitor for
its event before its expiry.
-/

namespace RaceFrame

open Core

/-- What happens to capabilities and to the sessions they are bound to. -/
inductive CapabilityEvent
  | createSession (id eventId : Uuid) (expiresAt : Instant)
  | issue (call : IssueCall)
  | bind (call : IssueCall)
  | deleteSession (id : Uuid)

/-- The calls of `issue_search_capability` in a history. -/
def issuedIn (history : List CapabilityEvent) : List IssueCall :=
  history.filterMap fun
    | .issue call => some call
    | _ => none

/-- The capability that was bound to a session last, since the session was created. The newest
event of a history comes first. -/
def latestBind : List CapabilityEvent → Uuid → Option IssueCall
  | [], _ => none
  | .createSession id _ _ :: history, sessionId =>
    if id = sessionId then none else latestBind history sessionId
  | .bind call :: history, sessionId =>
    if call.sessionId = sessionId then some call else latestBind history sessionId
  | _ :: history, sessionId => latestBind history sessionId

/-- What every call of `issue_search_capability` is given: the identifier of a session, a visitor
that the middleware has named, and an expiry within the years of `datetime`. -/
structure IssueCall.Valid (ttlSeconds : Nat) (call : IssueCall) : Prop where
  sessionId_lt : call.sessionId < 2 ^ 128
  visitorId_ne_nil : call.visitorId ≠ []
  exp_le : call.exp ttlSeconds ≤ 253402300799

/-- The histories, with the table of sessions they lead to. Issued secrets are fresh, and a
capability is bound to the session and the event it was issued for. -/
inductive CapabilityHistory (digests : Digests) (ttlSeconds : Nat) :
    List CapabilityEvent → SearchSessions → Prop
  | nil : CapabilityHistory digests ttlSeconds [] Table.empty
  | createSession {history : List CapabilityEvent} {sessions sessions' : SearchSessions}
      {id eventId : Uuid} {expiresAt : Instant} :
      CapabilityHistory digests ttlSeconds history sessions →
      sessions.insert? ⟨id, eventId, expiresAt, none, none⟩ = some sessions' →
      CapabilityHistory digests ttlSeconds (.createSession id eventId expiresAt :: history)
        sessions'
  | issue {history : List CapabilityEvent} {sessions : SearchSessions} {call : IssueCall} :
      CapabilityHistory digests ttlSeconds history sessions →
      call.Valid ttlSeconds →
      (∀ earlier ∈ issuedIn history, earlier.random ≠ call.random) →
      CapabilityHistory digests ttlSeconds (.issue call :: history) sessions
  | bind {history : List CapabilityEvent} {sessions : SearchSessions} {call : IssueCall}
      {row : SearchSessionRow} :
      CapabilityHistory digests ttlSeconds history sessions →
      call ∈ issuedIn history →
      sessions.get? call.sessionId = some row →
      row.eventId = call.eventId →
      CapabilityHistory digests ttlSeconds (.bind call :: history)
        (sessions.put (bindSearchCapability digests ttlSeconds call row))
  | deleteSession {history : List CapabilityEvent} {sessions : SearchSessions} {id : Uuid} :
      CapabilityHistory digests ttlSeconds history sessions →
      CapabilityHistory digests ttlSeconds (.deleteSession id :: history)
        (sessions.deleteWhere fun row => row.id == id)

/-- A signature is only known for the payloads that were issued. -/
def Unforged (digests : Digests) (ttlSeconds : Nat) (history : List CapabilityEvent)
    (cookieValue : Text) : Prop :=
  ∀ encodedPayload : Text, '.' ∉ encodedPayload →
    cookieValue = encodedPayload ++ '.' :: digests.signature (encodeUtf8 encodedPayload) →
    ∃ call ∈ issuedIn history, encodedPayload = call.encodedPayload digests ttlSeconds

/-- The row holds what the capability that was bound to it last is checked against. -/
def SearchSessionRow.BoundTo (digests : Digests) (ttlSeconds : Nat) (row : SearchSessionRow) :
    Option IssueCall → Prop
  | none => row.capabilityHash = none
  | some call =>
    row.capabilityHash = some (digests.secretHash call.rawSecret) ∧
      row.ownerBindingHash = some (digests.ownerBindingHash call.visitorId) ∧
      row.expiresAt = call.expiresAt ttlSeconds ∧ row.eventId = call.eventId

@[simp] theorem bindSearchCapability_id (digests : Digests) (ttlSeconds : Nat) (call : IssueCall)
    (row : SearchSessionRow) : (bindSearchCapability digests ttlSeconds call row).id = row.id := by
  rw [bindSearchCapability]

@[simp] theorem bindSearchCapability_eventId (digests : Digests) (ttlSeconds : Nat)
    (call : IssueCall) (row : SearchSessionRow) :
    (bindSearchCapability digests ttlSeconds call row).eventId = row.eventId := by
  rw [bindSearchCapability]

/-- Binding a capability leaves the row bound to it. -/
theorem boundTo_bindSearchCapability (digests : Digests) (ttlSeconds : Nat) {call : IssueCall}
    {row : SearchSessionRow} (hevent : row.eventId = call.eventId) :
    (bindSearchCapability digests ttlSeconds call row).BoundTo digests ttlSeconds (some call) :=
  ⟨rfl, rfl, rfl, (bindSearchCapability_eventId digests ttlSeconds call row).trans hevent⟩

namespace CapabilityHistory

variable {digests : Digests} {ttlSeconds : Nat} {history : List CapabilityEvent}
  {sessions : SearchSessions}

/-- Every session holds the hashes of the capability that was bound to it last. -/
theorem boundTo_latestBind (h : CapabilityHistory digests ttlSeconds history sessions)
    {row : SearchSessionRow} (hrow : row ∈ sessions.rows) :
    row.BoundTo digests ttlSeconds (latestBind history row.id) := by
  induction h generalizing row with
  | nil => exact absurd hrow List.not_mem_nil
  | @createSession history sessions sessions' id eventId expiresAt h hinsert ih =>
    have hrows := Table.rows_of_insert? hinsert
    have hnew : (⟨id, eventId, expiresAt, none, none⟩ : SearchSessionRow) ∈ sessions'.rows := by
      rw [hrows]
      exact List.mem_append_right _ List.mem_cons_self
    by_cases hid : id = row.id
    · have heq : row = ⟨id, eventId, expiresAt, none, none⟩ :=
        Table.eq_of_key_eq hrow hnew hid.symm
      rw [latestBind, if_pos hid, heq]
      rfl
    · rw [latestBind, if_neg hid]
      rw [hrows] at hrow
      rcases List.mem_append.mp hrow with hold | hnew
      · exact ih hold
      · rw [List.mem_singleton.mp hnew] at hid
        exact absurd rfl hid
  | issue h hvalid hfresh ih => exact ih hrow
  | @bind history sessions call bound h hissued hget hevent ih =>
    have hkey : (bindSearchCapability digests ttlSeconds call bound).id = call.sessionId :=
      (bindSearchCapability_id digests ttlSeconds call bound).trans
        (Table.get?_eq_some_iff.mp hget).2
    rcases Table.mem_put.mp hrow with ⟨rfl, -⟩ | ⟨hold, hne⟩
    · rw [latestBind, if_pos hkey.symm]
      exact boundTo_bindSearchCapability digests ttlSeconds hevent
    · rw [latestBind, if_neg fun hid => hne (hid.symm.trans hkey.symm)]
      exact ih hold
  | @deleteSession history sessions id h ih =>
    exact ih (Table.mem_deleteWhere.mp hrow).1

/-- Only issued capabilities are bound. -/
theorem mem_issuedIn_of_latestBind (h : CapabilityHistory digests ttlSeconds history sessions)
    {sessionId : Uuid} {call : IssueCall} (hlatest : latestBind history sessionId = some call) :
    call ∈ issuedIn history ∧ call.sessionId = sessionId := by
  induction h with
  | nil => cases hlatest
  | @createSession history sessions sessions' id eventId expiresAt h hinsert ih =>
    rw [latestBind] at hlatest
    split at hlatest
    · cases hlatest
    · exact ih hlatest
  | @issue history sessions issued h hvalid hfresh ih =>
    obtain ⟨hmem, hsession⟩ := ih hlatest
    exact ⟨List.mem_cons_of_mem _ hmem, hsession⟩
  | @bind history sessions bound row h hissued hget hevent ih =>
    rw [latestBind] at hlatest
    split at hlatest
    · rename_i hsession
      rw [← Option.some.inj hlatest]
      exact ⟨hissued, hsession⟩
    · exact ih hlatest
  | deleteSession h ih => exact ih hlatest

theorem valid_of_mem_issuedIn (h : CapabilityHistory digests ttlSeconds history sessions)
    {call : IssueCall} (hissued : call ∈ issuedIn history) : call.Valid ttlSeconds := by
  induction h with
  | nil => exact absurd hissued List.not_mem_nil
  | createSession h hinsert ih => exact ih hissued
  | @issue history sessions issued h hvalid hfresh ih =>
    rcases List.mem_cons.mp hissued with rfl | hissued
    · exact hvalid
    · exact ih hissued
  | bind h hbound hget hevent ih => exact ih hissued
  | deleteSession h ih => exact ih hissued

/-- The secret of an issued capability tells which call issued it. -/
theorem eq_of_rawSecret_eq (h : CapabilityHistory digests ttlSeconds history sessions)
    {a b : IssueCall} (ha : a ∈ issuedIn history) (hb : b ∈ issuedIn history)
    (hsecret : a.rawSecret = b.rawSecret) : a = b := by
  have hrandom : a.random = b.random := b64encode_injective hsecret
  induction h with
  | nil => exact absurd ha List.not_mem_nil
  | createSession h hinsert ih => exact ih ha hb
  | @issue history sessions issued h hvalid hfresh ih =>
    rcases List.mem_cons.mp ha with rfl | hearlier
    · rcases List.mem_cons.mp hb with rfl | hother
      · rfl
      · exact absurd hrandom.symm (hfresh b hother)
    · rcases List.mem_cons.mp hb with rfl | hother
      · exact absurd hrandom (hfresh a hearlier)
      · exact ih hearlier hother
  | bind h hbound hget hevent ih => exact ih ha hb
  | deleteSession h ih => exact ih ha hb

/-- A cookie that is not forged and carries a signature is the token of an issued capability. -/
theorem exists_token_of_signed {cookieValue : Text}
    (hunforged : Unforged digests ttlSeconds history cookieValue)
    (hsigned : digests.Signed cookieValue) :
    ∃ call ∈ issuedIn history, cookieValue = call.token digests ttlSeconds := by
  obtain ⟨encodedPayload, hdot, hvalue⟩ := hsigned
  obtain ⟨call, hissued, hpayload⟩ := hunforged encodedPayload hdot hvalue
  rw [hpayload] at hvalue
  exact ⟨call, hissued, hvalue⟩

end CapabilityHistory

section Authorization

variable {F : Type} (digests : Digests) (conversions : JsonConversions F) {ttlSeconds : Nat}
  {history : List CapabilityEvent} {sessions : SearchSessions}

/-- What a cookie decodes to is a capability that was issued to the visitor for the event and has
not expired. -/
theorem exists_call_of_requestSearchCapability
    (h : CapabilityHistory digests ttlSeconds history sessions) {cookieValue : Text}
    (hunforged : Unforged digests ttlSeconds history cookieValue) {eventId : Uuid}
    {visitorId : Text} {now : Instant} {capability : SearchCapability}
    (hrequest : requestSearchCapability digests conversions cookieValue (uuidText eventId)
      visitorId now = .ok (some capability)) :
    ∃ call ∈ issuedIn history, cookieValue = call.token digests ttlSeconds ∧
      now < call.exp ttlSeconds * seconds 1 ∧ call.eventId = eventId ∧
      call.visitorId = visitorId ∧ call.decoded digests ttlSeconds = capability := by
  rw [requestSearchCapability] at hrequest
  split at hrequest
  · cases hrequest
  by_cases hsigned : digests.Signed cookieValue
  · obtain ⟨call, hissued, hcookie⟩ :=
      CapabilityHistory.exists_token_of_signed hunforged hsigned
    rw [hcookie, call.decodeSearchCapability_token digests ttlSeconds conversions
      (h.valid_of_mem_issuedIn hissued).exp_le] at hrequest
    split at hrequest
    · rename_i hall
      obtain ⟨hlive, hevent, hvisitor⟩ := hall
      have hcapability := Option.some.inj (Except.ok.inj hrequest)
      exact ⟨call, hissued, hcookie, hlive, hevent, hvisitor, hcapability⟩
    · cases hrequest
  · rw [decodeSearchCapability_unsigned digests conversions hsigned] at hrequest
    cases hrequest

/-- The token of a capability, sent by its visitor for its event in time, decodes to it. -/
theorem requestSearchCapability_token {call : IssueCall} (hvalid : call.Valid ttlSeconds)
    {now : Instant} (hlive : now < call.exp ttlSeconds * seconds 1) :
    requestSearchCapability digests conversions (call.token digests ttlSeconds)
        (uuidText call.eventId) call.visitorId now =
      .ok (some (call.decoded digests ttlSeconds)) := by
  have htoken : (call.token digests ttlSeconds).isEmpty = false := by
    rw [List.isEmpty_eq_false_iff, IssueCall.token]
    exact List.append_ne_nil_of_right_ne_nil _ (List.cons_ne_nil _ _)
  have hvisitor : call.visitorId.isEmpty = false :=
    List.isEmpty_eq_false_iff.mpr hvalid.visitorId_ne_nil
  rw [requestSearchCapability, hvisitor, htoken, Bool.or_false, if_neg Bool.false_ne_true,
    call.decodeSearchCapability_token digests ttlSeconds conversions hvalid.exp_le,
    if_pos ⟨hlive, rfl, rfl⟩]

/-- The session of an issued capability is looked up by its identifier. -/
theorem find?_uuidText {sessionId eventId : Uuid} (hid : sessionId < 2 ^ 128)
    {row : SearchSessionRow} :
    sessions.find? eventId (uuidText sessionId) = some row ↔
      sessions.get? sessionId = some row ∧ row.eventId = eventId := by
  rw [SearchSessions.find?, parseUuid_uuidText hid, Option.bind_some, Table.get?_eq_some_iff]
  constructor
  · intro hfind
    have hkeys := List.find?_some hfind
    simp only [Bool.and_eq_true, beq_iff_eq] at hkeys
    exact ⟨⟨List.mem_of_find?_eq_some hfind, hkeys.1⟩, hkeys.2⟩
  · rintro ⟨⟨hmem, hkey⟩, hevent⟩
    cases hfind : sessions.rows.find? fun row => row.id == sessionId && row.eventId == eventId with
    | none =>
      have hnone := List.find?_eq_none.mp hfind row hmem
      simp only [hkey, hevent, beq_self_eq_true, Bool.and_self, not_true_eq_false] at hnone
    | some found =>
      have hkeys := List.find?_some hfind
      simp only [Bool.and_eq_true, beq_iff_eq] at hkeys
      rw [Table.eq_of_key_eq (List.mem_of_find?_eq_some hfind) hmem (hkeys.1.trans hkey.symm)]

/-- A session is handed out for the capability it holds, to its visitor, before it expires. -/
theorem SearchSessionRow.admits_iff {row : SearchSessionRow} {capability : SearchCapability}
    {visitorId : Text} {now : Instant}
    (howner : capability.ownerHash = digests.ownerBindingHash visitorId)
    (hcapability : capability.capabilityHash ≠ []) :
    row.admits digests capability visitorId now = true ↔
      now < row.expiresAt ∧ row.capabilityHash = some capability.capabilityHash ∧
        row.ownerBindingHash = some (digests.ownerBindingHash visitorId) := by
  have hne := digests.ownerBindingHash_ne_nil visitorId
  obtain ⟨id, eventId, expiresAt, capabilityHash, ownerBindingHash⟩ := row
  cases capabilityHash with
  | none => simp [admits]
  | some storedCapabilityHash =>
    cases ownerBindingHash with
    | none => simp [admits]
    | some storedOwnerHash =>
      simp only [admits, Bool.and_eq_true, Bool.not_eq_true', List.isEmpty_eq_false_iff,
        decide_eq_true_eq, beq_iff_eq, Option.some.injEq, howner]
      constructor
      · rintro ⟨⟨⟨⟨⟨hlive, -⟩, -⟩, hhash⟩, hown⟩, -⟩
        exact ⟨hlive, hhash, hown⟩
      · rintro ⟨hlive, rfl, rfl⟩
        exact ⟨⟨⟨⟨⟨hlive, hcapability⟩, hne⟩, rfl⟩, rfl⟩, rfl⟩

/-- What is handed out is the session of the decoded capability, if it passes the checks. -/
theorem authorizedSearchResults_eq (eventId : Uuid) (visitorId cookieValue : Text)
    (decodedAt checkedAt : Instant) :
    authorizedSearchResults digests conversions sessions eventId visitorId cookieValue decodedAt
        checkedAt =
      (requestSearchCapability digests conversions cookieValue (uuidText eventId) visitorId
        decodedAt).map fun found =>
          found.bind fun capability =>
            (sessions.find? eventId capability.sessionId).filter fun row =>
              row.admits digests capability visitorId checkedAt := by
  rw [authorizedSearchResults]
  cases requestSearchCapability digests conversions cookieValue (uuidText eventId) visitorId
      decodedAt with
  | error e => rfl
  | ok found =>
    cases found with
    | none => rfl
    | some capability =>
      rw [ok_bind, Except.map, Option.bind_some]
      dsimp only
      cases sessions.find? eventId capability.sessionId with
      | none => rfl
      | some row =>
        rw [Option.filter_some]
        dsimp only
        split <;> rfl

/-- A session that a cookie yields is the one that the token in the cookie was bound to last. -/
theorem latestBind_of_authorized (h : CapabilityHistory digests ttlSeconds history sessions)
    {cookieValue : Text} (hunforged : Unforged digests ttlSeconds history cookieValue)
    {eventId : Uuid} {visitorId : Text} {decodedAt checkedAt : Instant} {row : SearchSessionRow}
    (hrow : authorizedSearchResults digests conversions sessions eventId visitorId cookieValue
      decodedAt checkedAt = .ok (some row)) :
    ∃ call, latestBind history row.id = some call ∧ cookieValue = call.token digests ttlSeconds ∧
      call.visitorId = visitorId ∧ call.eventId = eventId ∧ row ∈ sessions.rows ∧
      row.eventId = eventId ∧ decodedAt < call.exp ttlSeconds * seconds 1 ∧
      checkedAt < row.expiresAt := by
  rw [authorizedSearchResults_eq] at hrow
  cases hrequest : requestSearchCapability digests conversions cookieValue (uuidText eventId)
      visitorId decodedAt with
  | error e =>
    rw [hrequest] at hrow
    cases hrow
  | ok found =>
    rw [hrequest] at hrow
    obtain ⟨capability, rfl, hchosen⟩ := Option.bind_eq_some_iff.mp (Except.ok.inj hrow)
    obtain ⟨hfind, hadmits⟩ := Option.filter_eq_some_iff.mp hchosen
    obtain ⟨call, hissued, hcookie, hlive, hevent, hvisitor, rfl⟩ :=
      exists_call_of_requestSearchCapability digests conversions h hunforged hrequest
    obtain ⟨hget, hrowEvent⟩ :=
      (find?_uuidText (h.valid_of_mem_issuedIn hissued).sessionId_lt).mp hfind
    obtain ⟨hmem, hid⟩ := Table.get?_eq_some_iff.mp hget
    have howner : (call.decoded digests ttlSeconds).ownerHash =
        digests.ownerBindingHash visitorId := by
      rw [← hvisitor]
      rfl
    obtain ⟨hchecked, hhash, -⟩ := (SearchSessionRow.admits_iff digests howner
      (digests.secretHash_ne_nil call.rawSecret)).mp hadmits
    have hbound := h.boundTo_latestBind hmem
    cases hlatest : latestBind history row.id with
    | none =>
      rw [hlatest] at hbound
      rw [show row.capabilityHash = none from hbound] at hhash
      cases hhash
    | some latest =>
      rw [hlatest] at hbound
      have hsecret : latest.rawSecret = call.rawSecret := by
        have hstored := hbound.1
        rw [hhash] at hstored
        exact digests.secretHash_injective (Option.some.inj hstored).symm
      have heq : latest = call := h.eq_of_rawSecret_eq
        (h.mem_issuedIn_of_latestBind hlatest).1 hissued hsecret
      rw [heq]
      exact ⟨call, rfl, hcookie, hvisitor, hevent, hmem, hrowEvent, hlive, hchecked⟩

/-- The token that was bound to a session last yields the session, as long as the token has not
expired and the session exists. -/
theorem authorized_of_latestBind (h : CapabilityHistory digests ttlSeconds history sessions)
    {call : IssueCall} {row : SearchSessionRow} (hmem : row ∈ sessions.rows)
    (hlatest : latestBind history row.id = some call) {decodedAt checkedAt : Instant}
    (hdecoded : decodedAt < call.exp ttlSeconds * seconds 1)
    (hchecked : checkedAt < call.exp ttlSeconds * seconds 1) :
    authorizedSearchResults digests conversions sessions call.eventId call.visitorId
      (call.token digests ttlSeconds) decodedAt checkedAt = .ok (some row) := by
  obtain ⟨hissued, hid⟩ := h.mem_issuedIn_of_latestBind hlatest
  have hvalid := h.valid_of_mem_issuedIn hissued
  have hbound := h.boundTo_latestBind hmem
  rw [hlatest] at hbound
  obtain ⟨hhash, howner, hexpires, hevent⟩ := hbound
  have hfind : sessions.find? call.eventId (uuidText call.sessionId) = some row :=
    (find?_uuidText hvalid.sessionId_lt).mpr
      ⟨Table.get?_eq_some_iff.mpr ⟨hmem, hid.symm⟩, hevent⟩
  have hbefore : checkedAt < row.expiresAt := by
    have hle := call.exp_le_expiresAt ttlSeconds
    rw [hexpires]
    exact Nat.lt_of_lt_of_le hchecked hle
  have hadmits : row.admits digests (call.decoded digests ttlSeconds) call.visitorId checkedAt =
      true :=
    (SearchSessionRow.admits_iff digests rfl (digests.secretHash_ne_nil call.rawSecret)).mpr
      ⟨hbefore, hhash, howner⟩
  rw [authorizedSearchResults_eq, requestSearchCapability_token digests conversions hvalid hdecoded]
  have hfound : sessions.find? call.eventId (call.decoded digests ttlSeconds).sessionId =
      some row := hfind
  rw [Except.map, Option.bind_some, hfound, Option.filter_some, if_pos hadmits]

/-- A cookie yields a session exactly as long as it is the token that was bound to the session
last, sent by its visitor for its event in time; the token is decoded to the session and the hash
it was issued with, and a text without a valid signature is turned down without an exception. -/
theorem authorized_by_current_capability
    (h : CapabilityHistory digests ttlSeconds history sessions) {cookieValue : Text}
    (hunforged : Unforged digests ttlSeconds history cookieValue) :
    (∀ (eventId : Uuid) (visitorId : Text) (decodedAt checkedAt : Instant) (row : SearchSessionRow),
      authorizedSearchResults digests conversions sessions eventId visitorId cookieValue decodedAt
        checkedAt = .ok (some row) →
      ∃ call, latestBind history row.id = some call ∧
        cookieValue = (issueSearchCapability digests ttlSeconds call).secret ∧
        call.visitorId = visitorId ∧ call.eventId = eventId ∧ row ∈ sessions.rows ∧
        row.eventId = eventId ∧ decodedAt < call.exp ttlSeconds * seconds 1 ∧
        checkedAt < row.expiresAt) ∧
    (∀ (call : IssueCall) (row : SearchSessionRow) (decodedAt checkedAt : Instant),
      row ∈ sessions.rows → latestBind history row.id = some call →
      cookieValue = (issueSearchCapability digests ttlSeconds call).secret →
      decodedAt < call.exp ttlSeconds * seconds 1 → checkedAt < call.exp ttlSeconds * seconds 1 →
      authorizedSearchResults digests conversions sessions call.eventId call.visitorId cookieValue
        decodedAt checkedAt = .ok (some row) ∧
      ∃ capability,
        decodeSearchCapability digests conversions cookieValue (uuidText call.eventId)
          call.visitorId decodedAt = .ok (some capability) ∧
        capability.sessionId = (issueSearchCapability digests ttlSeconds call).sessionId ∧
        capability.capabilityHash =
          (issueSearchCapability digests ttlSeconds call).capabilityHash) ∧
    (∀ value : Text, ¬ digests.Signed value → ∀ (eventId visitorId : Text) (now : Instant),
      decodeSearchCapability digests conversions value eventId visitorId now = .ok none) := by
  refine ⟨?_, ?_, ?_⟩
  · intro eventId visitorId decodedAt checkedAt row hrow
    exact latestBind_of_authorized digests conversions h hunforged hrow
  · intro call row decodedAt checkedAt hmem hlatest hcookie hdecoded hchecked
    have htoken : cookieValue = call.token digests ttlSeconds := hcookie
    have hvalid := h.valid_of_mem_issuedIn (h.mem_issuedIn_of_latestBind hlatest).1
    have hdecode := call.decodeSearchCapability_token digests ttlSeconds conversions hvalid.exp_le
      call.eventId call.visitorId decodedAt
    rw [if_pos ⟨hdecoded, rfl, rfl⟩] at hdecode
    rw [htoken]
    exact ⟨authorized_of_latestBind digests conversions h hmem hlatest hdecoded hchecked,
      call.decoded digests ttlSeconds, hdecode, rfl, rfl⟩
  · intro value hsigned eventId visitorId now
    exact decodeSearchCapability_unsigned digests conversions hsigned eventId visitorId now

end Authorization

/-- The token of an issued capability is not forged. -/
theorem unforged_token {digests : Digests} {ttlSeconds : Nat} {history : List CapabilityEvent}
    {call : IssueCall} (hissued : call ∈ issuedIn history) :
    Unforged digests ttlSeconds history (call.token digests ttlSeconds) := by
  intro encodedPayload hdot hvalue
  have hpayload := congrArg (List.takeWhile (· != '.')) hvalue
  rw [IssueCall.token, takeWhile_append_dot (call.dot_notMem_encodedPayload digests ttlSeconds),
    takeWhile_append_dot hdot] at hpayload
  exact ⟨call, hissued, hpayload.symm⟩

/-- Digests that put a marker in front of the message. -/
def markerDigests : Digests where
  sha256 message := 1 :: message
  hmacSha256 message := 2 :: message
  sha256_injective _ _ h := (List.cons.inj h).2
  hmacSha256_injective _ _ h := (List.cons.inj h).2
  sha256_ne_nil _ := List.cons_ne_nil _ _
  hmacSha256_ne_nil _ := List.cons_ne_nil _ _

/-- The conversions of an interpreter that is given texts and integers only. -/
def plainConversions : JsonConversions Unit where
  readFloat _ := ()
  int _ := .error .typeError
  str _ := []

/-- A search session `7` of event `3`, whose capability is issued at time `0` for a day. -/
def firstCall : IssueCall := ⟨7, 3, "visitor".toList, List.replicate 32 5, 0⟩

/-- The row of the session once the capability is bound. -/
def firstRow : SearchSessionRow :=
  bindSearchCapability markerDigests 86400 firstCall ⟨7, 3, 0, none, none⟩

theorem bound_session_is_yielded :
    authorizedSearchResults markerDigests plainConversions
      ((⟨[⟨7, 3, 0, none, none⟩], by decide⟩ : SearchSessions).put firstRow) 3 "visitor".toList
      (firstCall.token markerDigests 86400) 1 1 = .ok (some firstRow) := by
  have hcreated : CapabilityHistory markerDigests 86400 [.createSession 7 3 0]
      (⟨[⟨7, 3, 0, none, none⟩], by decide⟩ : SearchSessions) := .createSession .nil rfl
  have hissued : CapabilityHistory markerDigests 86400 [.issue firstCall, .createSession 7 3 0]
      (⟨[⟨7, 3, 0, none, none⟩], by decide⟩ : SearchSessions) :=
    .issue hcreated ⟨by decide, by decide, by decide⟩ fun earlier hearlier =>
      absurd hearlier List.not_mem_nil
  have hbound : CapabilityHistory markerDigests 86400
      [.bind firstCall, .issue firstCall, .createSession 7 3 0]
      ((⟨[⟨7, 3, 0, none, none⟩], by decide⟩ : SearchSessions).put firstRow) :=
    .bind hissued List.mem_cons_self rfl rfl
  exact ((authorized_by_current_capability markerDigests plainConversions hbound
    (unforged_token List.mem_cons_self)).2.1 firstCall firstRow 1 1 List.mem_cons_self rfl rfl
      (by decide) (by decide)).1

end RaceFrame

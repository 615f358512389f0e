import Mathlib.Logic.Function.Iterate
import RaceFrame.Core.Trim
import RaceFrame.Security.Browser

/-!
# Limits of request bodies

`RequestBodyLimitMiddleware` around an application that is any state machine:
it sends, it awaits messages, and it may catch what `receive` raises. The
application never gets more bytes than the limit; while its body stays within
the limit it runs as without the middleware; a body that goes beyond is cut off
there and answered with 413.
-/

namespace RaceFrame

open Core

/-! ## The limit -/

/-- The fields of `Settings` that `_limit_for` reads. -/
structure BodyLimitSettings where
  maxPhotoUploadBytes : ℤ
  maxPhotoBatchFiles : ℤ
  maxPhotoRequestBytes : ℤ
  maxSelfieUploadBytes : ℤ
  maxSelfieBatchFiles : ℤ
  maxParticipantUploadBytes : ℤ
  maxEventThumbnailUploadBytes : ℤ
  maxFormRequestBytes : ℤ

/-- An ASGI scope. -/
structure AsgiScope where
  scopeType : Option Text
  method : Option Text
  path : Option Text
  headers : List (Bytes × Bytes)

/-- `_limit_for`. -/
def limitFor (settings : BodyLimitSettings) (scope : AsgiScope) : Option ℤ :=
  let path := scope.path.getD []
  let overhead : ℤ := 1024 * 1024
  let starts (start : String) := start.toList.isPrefixOf path
  let ends (ending : String) := ending.toList.isSuffixOf path
  if scope.scopeType ≠ some "http".toList ∨
      safeMethods.contains (upper (scope.method.getD "GET".toList)) then none
  else if starts "/internal/worker/" then none
  else if starts "/upload/events/" then
    some (min (settings.maxPhotoUploadBytes * settings.maxPhotoBatchFiles + overhead)
      settings.maxPhotoRequestBytes)
  else if starts "/user/events/" && ends "/selfies" then
    some (settings.maxSelfieUploadBytes * settings.maxSelfieBatchFiles + overhead)
  else if starts "/admin/events/" && ends "/participants/upload" then
    some (settings.maxParticipantUploadBytes + overhead)
  else if path == "/admin/events/new".toList || (starts "/admin/events/" && ends "/edit") then
    some (settings.maxEventThumbnailUploadBytes + overhead)
  else some settings.maxFormRequestBytes

/-- The bytes that `int` skips around a number. -/
def isSpaceByte (b : UInt8) : Bool := b == 32 || (9 ≤ b && b ≤ 13)

/-- The bytes of decimal digits. -/
def isDigitByte (b : UInt8) : Bool := 48 ≤ b && b ≤ 57

/-- `int(value)` of bytes: `none` when it raises `ValueError`. -/
def intOfBytes (value : Bytes) : Option ℤ :=
  let text := trim isSpaceByte value
  let (sign, digits) := match text with
    | 43 :: rest => ((1 : ℤ), rest)
    | 45 :: rest => (-1, rest)
    | rest => (1, rest)
  let parts := digits.splitOn 95
  if parts.all (fun part => !part.isEmpty && part.all isDigitByte) &&
      decide (parts.flatten.length ≤ 4300) then
    some (sign * parts.flatten.foldl (fun n b => 10 * n + (b.toNat - 48 : Nat)) 0)
  else none

example : intOfBytes " +1_024\r\n".toUTF8.toList = some 1024 := by decide +kernel

/-- `bytes.lower` of one byte. -/
def lowerByte (b : UInt8) : UInt8 := if 65 ≤ b && b ≤ 90 then b + 32 else b

/-- `headers.get(b"content-length")`: the last of equal names stays in the dictionary. -/
def declaredLength (scope : AsgiScope) : Option Bytes :=
  (scope.headers.reverse.find? fun header =>
    header.1.map lowerByte == "content-length".toUTF8.toList).map Prod.snd

/-- What the middleware decides before it calls the application. -/
inductive BodyAdmission
  /-- It passes on the call as it is. -/
  | unlimited
  | refused (statusCode : Nat) (text : String)
  | limited (limit : ℤ)
  deriving DecidableEq

/-- The first part of `__call__`. -/
def admitBody (settings : BodyLimitSettings) (scope : AsgiScope) : BodyAdmission :=
  match limitFor settings scope with
  | none => .unlimited
  | some limit =>
    match declaredLength scope with
    | none => .limited limit
    | some declared =>
      match intOfBytes declared with
      | none => .refused 400 "Invalid Content-Length header."
      | some parsedLength =>
        if parsedLength < 0 then .refused 400 "Invalid Content-Length header."
        else if limit < parsedLength then .refused 413 "Request body is too large."
        else .limited limit

/-! ## The application -/

/-- A message that `receive` returns. -/
inductive AsgiMessage
  | request (body : Bytes)
  | disconnect

/-- `message.get("body", b"")`. -/
def AsgiMessage.body : AsgiMessage → Bytes
  | .request body => body
  | .disconnect => []

/-- The message has the type `http.request`. -/
def AsgiMessage.isRequest : AsgiMessage → Bool
  | .request _ => true
  | .disconnect => false

/-- An exception. -/
inductive AsgiError
  /-- `_RequestBodyTooLarge`. -/
  | bodyTooLarge
  | other (message : Text)

/-- What an application in some state does next. -/
inductive AsgiStep (σ μ : Type)
  | returns
  | raises (error : AsgiError)
  | sends (message : μ) (next : σ)
  /-- It awaits `receive()`. When that raises `_RequestBodyTooLarge`, it goes on in `caught`, or it
  does not catch the exception. -/
  | receives (next : AsgiMessage → σ) (caught : Option σ)

/-- Where an application is. -/
inductive AsgiPhase (σ : Type)
  | running (state : σ)
  | returned
  | raised (error : AsgiError)

/-- A call of an application: `consumed` counts the bytes as `limited_receive` does. -/
structure AsgiRun (σ μ : Type) where
  phase : AsgiPhase σ
  taken : Nat
  consumed : Nat
  received : List AsgiMessage
  sent : List μ

section Runs

variable {σ μ : Type}

/-- A call that has just begun. -/
def AsgiRun.start (state : σ) : AsgiRun σ μ := ⟨.running state, 0, 0, [], []⟩

/-- `limited_receive` for a message, or `receive` itself when there is no limit. -/
def AsgiRun.receive (limit : Option ℤ) (message : AsgiMessage) (next : AsgiMessage → σ)
    (caught : Option σ) (run : AsgiRun σ μ) : AsgiRun σ μ :=
  let consumed := run.consumed + message.body.length
  if message.isRequest ∧ ∃ bytes ∈ limit, bytes < (consumed : ℤ) then
    { run with
      phase := match caught with
        | some state => .running state
        | none => .raised .bodyTooLarge
      taken := run.taken + 1
      consumed := consumed }
  else
    { run with
      phase := .running (next message)
      taken := run.taken + 1
      consumed := consumed
      received := run.received ++ [message] }

variable (app : σ → AsgiStep σ μ) (limit : Option ℤ) (messages : Nat → AsgiMessage)

/-- One step of the application. -/
def AsgiRun.step (run : AsgiRun σ μ) : AsgiRun σ μ :=
  match run.phase with
  | .returned | .raised _ => run
  | .running state =>
    match app state with
    | .returns => { run with phase := .returned }
    | .raises error => { run with phase := .raised error }
    | .sends message next => { run with phase := .running next, sent := run.sent ++ [message] }
    | .receives next caught => run.receive limit (messages run.taken) next caught

/-- The call after a number of steps. -/
def AsgiRun.after (state : σ) (n : Nat) : AsgiRun σ μ :=
  (AsgiRun.step app limit messages)^[n] (.start state)

/-- The answer to `_RequestBodyTooLarge`, when it has left the application. -/
def AsgiRun.answer (run : AsgiRun σ μ) : Option (Nat × String) :=
  match run.phase with
  | .raised .bodyTooLarge => some (413, "Request body is too large.")
  | _ => none

/-- `__call__` after a number of steps of the application: what has become of its call, and the
answer of the middleware itself. -/
def callLimited (settings : BodyLimitSettings) (scope : AsgiScope) (state : σ) (n : Nat) :
    AsgiRun σ μ × Option (Nat × String) :=
  match admitBody settings scope with
  | .unlimited => (AsgiRun.after app none messages state n, none)
  | .refused statusCode text => (.start state, some (statusCode, text))
  | .limited limit =>
    let run := AsgiRun.after app (some limit) messages state n
    (run, run.answer)

end Runs

/-! ## Bodies -/

/-- The body that some messages carry. -/
def bodyOf (received : List AsgiMessage) : Bytes := received.flatMap AsgiMessage.body

theorem length_bodyOf_append (received added : List AsgiMessage) :
    (bodyOf (received ++ added)).length = (bodyOf received).length + (bodyOf added).length := by
  rw [bodyOf, List.flatMap_append, List.length_append]
  rfl

theorem length_bodyOf_concat (received : List AsgiMessage) (message : AsgiMessage) :
    (bodyOf (received ++ [message])).length =
      (bodyOf received).length + message.body.length := by
  rw [length_bodyOf_append, bodyOf, bodyOf, List.flatMap_singleton]

/-- The messages carry a body beyond the limit. -/
def Exceeds (limit : ℤ) (received : List AsgiMessage) : Prop :=
  limit < (bodyOf received).length ∧ ∃ message ∈ received, message.isRequest = true

theorem not_exceeds_nil (limit : ℤ) : ¬Exceeds limit [] := by
  rintro ⟨-, message, hmem, -⟩
  cases hmem

/-- More messages carry more. -/
theorem Exceeds.append {limit : ℤ} {received : List AsgiMessage} (h : Exceeds limit received)
    (added : List AsgiMessage) : Exceeds limit (received ++ added) := by
  obtain ⟨hlt, message, hmem, hrequest⟩ := h
  refine ⟨?_, message, List.mem_append_left added hmem, hrequest⟩
  rw [length_bodyOf_append]
  push_cast
  omega

/-- The message that goes beyond the limit is one with a body. -/
theorem exceeds_concat_iff {limit : ℤ} {received : List AsgiMessage}
    (h : ¬Exceeds limit received) (message : AsgiMessage) :
    Exceeds limit (received ++ [message]) ↔
      message.isRequest = true ∧
        limit < ((bodyOf received).length + message.body.length : Nat) := by
  rw [Exceeds, length_bodyOf_concat]
  constructor
  · rintro ⟨hlt, other, hmem, hrequest⟩
    refine ⟨?_, hlt⟩
    cases message with
    | request body => rfl
    | disconnect =>
      rcases List.mem_append.mp hmem with hmem | hmem
      · exact absurd ⟨by simpa [AsgiMessage.body] using hlt, other, hmem, hrequest⟩ h
      · rw [List.mem_singleton.mp hmem] at hrequest
        exact hrequest
  · rintro ⟨hrequest, hlt⟩
    exact ⟨hlt, message, by simp, hrequest⟩

/-! ## Steps -/

section Steps

variable {σ μ : Type} {app : σ → AsgiStep σ μ} {limit : ℤ} {messages : Nat → AsgiMessage}
  {run : AsgiRun σ μ}

/-- A step leaves what has been received, or it awaits a message. -/
theorem AsgiRun.step_cases (app : σ → AsgiStep σ μ) (messages : Nat → AsgiMessage)
    (run : AsgiRun σ μ) :
    (∃ phase sent, ∀ limit, run.step app limit messages = { run with phase, sent }) ∨
      ∃ state next caught, app state = .receives next caught ∧
        ∀ limit, run.step app limit messages =
          run.receive limit (messages run.taken) next caught := by
  cases hphase : run.phase with
  | returned =>
    exact Or.inl ⟨.returned, run.sent, fun limit => by simp only [step, hphase]; rw [← hphase]⟩
  | raised error =>
    exact Or.inl ⟨.raised error, run.sent, fun limit => by
      simp only [step, hphase]; rw [← hphase]⟩
  | running state =>
    cases happ : app state with
    | returns =>
      exact Or.inl ⟨.returned, run.sent, fun limit => by simp only [step, hphase, happ]⟩
    | raises error =>
      exact Or.inl ⟨.raised error, run.sent, fun limit => by simp only [step, hphase, happ]⟩
    | sends message next =>
      exact Or.inl ⟨.running next, run.sent ++ [message], fun limit => by
        simp only [step, hphase, happ]⟩
    | receives next caught =>
      exact Or.inr ⟨state, next, caught, happ, fun limit => by simp only [step, hphase, happ]⟩

/-- The bytes that the application has got are counted, and within the limit. -/
structure AsgiRun.Bounded (limit : ℤ) (run : AsgiRun σ μ) : Prop where
  counted : (bodyOf run.received).length ≤ run.consumed
  bounded : ((bodyOf run.received).length : ℤ) ≤ max limit 0

theorem AsgiRun.Bounded.receive (h : run.Bounded limit) (message : AsgiMessage)
    (next : AsgiMessage → σ) (caught : Option σ) :
    (run.receive (some limit) message next caught).Bounded limit := by
  have hcounted := h.counted
  have hbounded := h.bounded
  unfold AsgiRun.receive
  dsimp only
  split_ifs with hrefused
  · exact ⟨by dsimp only; omega, hbounded⟩
  · constructor
    · dsimp only
      rw [length_bodyOf_concat]
      omega
    · dsimp only
      rw [length_bodyOf_concat]
      cases message with
      | disconnect => simpa [AsgiMessage.body] using hbounded
      | request body =>
        simp [AsgiMessage.isRequest] at hrefused
        push_cast at hrefused ⊢
        omega

/-- Whatever it does next, the application has got no more than the limit. -/
theorem AsgiRun.Bounded.step (h : run.Bounded limit) :
    (run.step app (some limit) messages).Bounded limit := by
  rcases AsgiRun.step_cases app messages run with
    ⟨phase, sent, hstep⟩ | ⟨state, next, caught, -, hstep⟩
  · rw [hstep]
    exact ⟨h.counted, h.bounded⟩
  · rw [hstep]
    exact h.receive (messages run.taken) next caught

/-- Without a limit every message is counted and handed on. -/
theorem AsgiRun.receive_none (message : AsgiMessage) (next : AsgiMessage → σ)
    (caught : Option σ) :
    run.receive none message next caught =
      { run with
        phase := .running (next message)
        taken := run.taken + 1
        consumed := run.consumed + message.body.length
        received := run.received ++ [message] } := by
  simp [receive]

/-- A call without a limit has counted what it has got. -/
def AsgiRun.Counted (run : AsgiRun σ μ) : Prop := run.consumed = (bodyOf run.received).length

theorem AsgiRun.Counted.step (h : run.Counted) : (run.step app none messages).Counted := by
  rcases AsgiRun.step_cases app messages run with
    ⟨phase, sent, hstep⟩ | ⟨state, next, caught, -, hstep⟩
  · rw [hstep]
    exact h
  · rw [hstep, receive_none, Counted, length_bodyOf_concat, ← h]

/-- What has been received is not taken back. -/
theorem AsgiRun.exceeds_step (h : Exceeds limit run.received) :
    Exceeds limit (run.step app none messages).received := by
  rcases AsgiRun.step_cases app messages run with
    ⟨phase, sent, hstep⟩ | ⟨state, next, caught, -, hstep⟩
  · rw [hstep]
    exact h
  · rw [hstep, receive_none]
    exact h.append [messages run.taken]

/-- While the body stays within the limit, a step is the same with it and without it. -/
theorem AsgiRun.Counted.step_eq (h : run.Counted) (hwithin : ¬Exceeds limit run.received)
    (hnext : ¬Exceeds limit (run.step app none messages).received) :
    run.step app (some limit) messages = run.step app none messages := by
  rcases AsgiRun.step_cases app messages run with
    ⟨phase, sent, hstep⟩ | ⟨state, next, caught, -, hstep⟩
  · rw [hstep, hstep]
  · rw [hstep, receive_none, exceeds_concat_iff hwithin, ← h] at hnext
    rw [hstep, hstep, receive_none]
    simpa [receive] using hnext

/-- An application that does not catch the exception. -/
def Propagates (app : σ → AsgiStep σ μ) : Prop :=
  ∀ state next caught, app state = .receives next caught → caught = none

/-- The call at the message that goes beyond the limit. -/
def AsgiRun.cutOff (messages : Nat → AsgiMessage) (run : AsgiRun σ μ) : AsgiRun σ μ :=
  { run with
    phase := .raised .bodyTooLarge
    taken := run.taken + 1
    consumed := run.consumed + (messages run.taken).body.length }

/-- At the message that goes beyond the limit, the exception ends the call. -/
theorem AsgiRun.Counted.step_eq_cutOff (h : run.Counted) (happ : Propagates app)
    (hwithin : ¬Exceeds limit run.received)
    (hnext : Exceeds limit (run.step app none messages).received) :
    run.step app (some limit) messages = run.cutOff messages := by
  rcases AsgiRun.step_cases app messages run with
    ⟨phase, sent, hstep⟩ | ⟨state, next, caught, hreceives, hstep⟩
  · rw [hstep] at hnext
    exact absurd hnext hwithin
  · obtain rfl := happ state next caught hreceives
    rw [hstep, receive_none, exceeds_concat_iff hwithin, ← h] at hnext
    rw [hstep]
    simpa [receive, cutOff, hnext.1] using hnext.2

end Steps

/-! ## Calls -/

section Calls

variable {σ μ : Type} (app : σ → AsgiStep σ μ) (limit : ℤ) (messages : Nat → AsgiMessage)
  (state : σ)

theorem AsgiRun.after_succ (limit : Option ℤ) (n : Nat) :
    AsgiRun.after app limit messages state (n + 1) =
      (AsgiRun.after app limit messages state n).step app limit messages :=
  Function.iterate_succ_apply' _ n _

theorem AsgiRun.bounded_after (n : Nat) :
    (AsgiRun.after app (some limit) messages state n).Bounded limit := by
  induction n with
  | zero => exact ⟨Nat.le_refl 0, le_max_right _ _⟩
  | succ n ih =>
    rw [after_succ]
    exact ih.step

theorem AsgiRun.counted_after (n : Nat) :
    (AsgiRun.after app none messages state n).Counted := by
  induction n with
  | zero => rfl
  | succ n ih =>
    rw [after_succ]
    exact ih.step

/-- While the body of the plain call stays within the limit, nothing differs. -/
theorem AsgiRun.after_eq {n : Nat}
    (h : ¬Exceeds limit (AsgiRun.after app none messages state n).received) :
    AsgiRun.after app (some limit) messages state n = AsgiRun.after app none messages state n := by
  induction n with
  | zero => rfl
  | succ n ih =>
    rw [after_succ] at h
    have hwithin : ¬Exceeds limit (AsgiRun.after app none messages state n).received :=
      fun hexceeds => h (exceeds_step hexceeds)
    rw [after_succ, after_succ, ih hwithin]
    exact (counted_after app messages state n).step_eq hwithin h

/-- A body beyond the limit is cut off where it goes beyond. -/
theorem AsgiRun.after_eq_cutOff (happ : Propagates app) {n : Nat}
    (h : Exceeds limit (AsgiRun.after app none messages state n).received) :
    ∃ k < n, ¬Exceeds limit (AsgiRun.after app none messages state k).received ∧
      AsgiRun.after app (some limit) messages state n =
        (AsgiRun.after app none messages state k).cutOff messages := by
  induction n with
  | zero => exact absurd h (not_exceeds_nil limit)
  | succ n ih =>
    by_cases hbefore : Exceeds limit (AsgiRun.after app none messages state n).received
    · obtain ⟨k, hk, hwithin, heq⟩ := ih hbefore
      refine ⟨k, by omega, hwithin, ?_⟩
      rw [after_succ, heq]
      rfl
    · refine ⟨n, by omega, hbefore, ?_⟩
      rw [after_succ] at h
      rw [after_succ, after_eq app limit messages state hbefore]
      exact (counted_after app messages state n).step_eq_cutOff happ hbefore h

/-- The declared length is missing, or a number within the limit. -/
def DeclaresWithin (limit : ℤ) (scope : AsgiScope) : Prop :=
  ∀ declared, declaredLength scope = some declared →
    ∃ length, intOfBytes declared = some length ∧ 0 ≤ length ∧ length ≤ limit

omit limit in
/-- The call is limited when the declared length allows it, and refused otherwise. -/
theorem admitBody_cases {settings : BodyLimitSettings} {scope : AsgiScope} {limit : ℤ}
    (h : limitFor settings scope = some limit) :
    (DeclaresWithin limit scope ∧ admitBody settings scope = .limited limit) ∨
      (¬DeclaresWithin limit scope ∧ ∃ statusCode text,
        admitBody settings scope = .refused statusCode text ∧
          (statusCode = 400 ∨ statusCode = 413)) := by
  simp only [admitBody, h, DeclaresWithin]
  cases hdeclared : declaredLength scope with
  | none => exact Or.inl ⟨by simp, rfl⟩
  | some declared =>
    simp only [Option.some.injEq, forall_eq']
    cases hlength : intOfBytes declared with
    | none => exact Or.inr ⟨by simp, 400, _, rfl, Or.inl rfl⟩
    | some length =>
      simp only [Option.some.injEq, exists_eq_left']
      by_cases hneg : length < 0
      · exact Or.inr ⟨by omega, 400, _, if_pos hneg, Or.inl rfl⟩
      rw [if_neg hneg]
      by_cases hlarge : limit < length
      · exact Or.inr ⟨by omega, 413, _, if_pos hlarge, Or.inr rfl⟩
      · exact Or.inl ⟨by omega, if_neg hlarge⟩

/-- What a limit means for a call of which `plain` gives the steps without the middleware. -/
structure BodyLimited (app : σ → AsgiStep σ μ) (messages : Nat → AsgiMessage) (scope : AsgiScope)
    (limit : ℤ) (state : σ) (n : Nat) (plain : Nat → AsgiRun σ μ)
    (called : AsgiRun σ μ × Option (Nat × String)) : Prop where
  /-- The application gets no more than the limit. -/
  bounded : ((bodyOf called.1.received).length : ℤ) ≤ max limit 0
  /-- A declared length that is no number or too large is refused at once. -/
  refused : ¬DeclaresWithin limit scope → called.1 = .start state ∧
    ∃ statusCode text, called.2 = some (statusCode, text) ∧ (statusCode = 400 ∨ statusCode = 413)
  /-- A body within the limit makes no difference. -/
  transparent : DeclaresWithin limit scope → ¬Exceeds limit (plain n).received →
    called = (plain n, (plain n).answer)
  /-- A body beyond the limit is cut off where it goes beyond, and answered. -/
  cut : DeclaresWithin limit scope → Propagates app → Exceeds limit (plain n).received →
    called.2 = some (413, "Request body is too large.") ∧
      ∃ k < n, ¬Exceeds limit (plain k).received ∧ called.1 = (plain k).cutOff messages

omit limit in
/-- The middleware limits the body of every application, over every stream of messages. -/
theorem callLimited_bodyLimited {settings : BodyLimitSettings} {scope : AsgiScope} {limit : ℤ}
    (h : limitFor settings scope = some limit) (n : Nat) :
    BodyLimited app messages scope limit state n (AsgiRun.after app none messages state)
      (callLimited app messages settings scope state n) := by
  rcases admitBody_cases h with ⟨hdeclares, hadmit⟩ | ⟨hnot, statusCode, text, hadmit, hstatus⟩
  · have hcalled : callLimited app messages settings scope state n =
        (AsgiRun.after app (some limit) messages state n,
          (AsgiRun.after app (some limit) messages state n).answer) := by
      simp only [callLimited, hadmit]
    rw [hcalled]
    constructor
    · exact (AsgiRun.bounded_after app limit messages state n).bounded
    · exact fun hnot => absurd hdeclares hnot
    · intro _ hwithin
      rw [AsgiRun.after_eq app limit messages state hwithin]
    · intro _ happ hexceeds
      obtain ⟨k, hk, hwithin, heq⟩ :=
        AsgiRun.after_eq_cutOff app limit messages state happ hexceeds
      rw [heq]
      exact ⟨rfl, k, hk, hwithin, rfl⟩
  · have hcalled : callLimited app messages settings scope state n =
        (.start state, some (statusCode, text)) := by
      simp only [callLimited, hadmit]
    rw [hcalled]
    constructor
    · exact le_max_right limit 0
    · exact fun _ => ⟨rfl, statusCode, text, rfl, hstatus⟩
    · exact fun hdeclares => absurd hdeclares hnot
    · exact fun hdeclares => absurd hdeclares hnot

end Calls

/-! ## A form in two parts -/

/-- An application that reads two messages. -/
def readTwice : Nat → AsgiStep Nat Unit
  | 0 => .receives (fun _ => 1) none
  | 1 => .receives (fun _ => 2) none
  | _ => .returns

/-- A form of three bytes and then three more. -/
def formParts (_ : Nat) : AsgiMessage := .request [1, 2, 3]

/-- Forms of at most four bytes. -/
def fourByteForms : BodyLimitSettings := ⟨0, 0, 0, 0, 0, 0, 0, 4⟩

/-- A form that is posted without a declared length. -/
def postedForm : AsgiScope :=
  ⟨some "http".toList, some "POST".toList, some "/user/search".toList, []⟩

/-- The second part goes beyond the limit. -/
theorem postedForm_cut :
    (callLimited readTwice formParts fourByteForms postedForm 0 3).2 =
      some (413, "Request body is too large.") := by
  have hlimit : limitFor fourByteForms postedForm = some 4 := by decide +kernel
  have happ : Propagates readTwice := by
    intro state next caught h
    match state, h with
    | 0, h => cases h; rfl
    | 1, h => cases h; rfl
  refine ((callLimited_bodyLimited readTwice formParts 0 hlimit 3).cut ?_ happ ?_).1
  · intro declared h
    cases h
  · exact ⟨by decide, .request [1, 2, 3], List.mem_cons_self, rfl⟩

end RaceFrame

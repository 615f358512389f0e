import RaceFrame.Security.Capability
import RaceFrame.Security.ProductionConfig
import RaceFrame.Security.SlidingWindow
import RaceFrame.Text.Upper

/-!
# Browser requests

What `web_security` reads of a request: its origin, its CSRF token, its client,
and the limits that it has to pass before it is handled. What the standard
library computes from urls, characters and addresses is a parameter.
-/

namespace RaceFrame

open Core

/-- The parts of `urlsplit(value)` that an origin is made of; a part that is missing is empty. -/
structure SplitOrigin where
  scheme : Text
  hostname : Text
  username : Text
  password : Text
  /-- `parsed.port`: `none` when it raises `ValueError`. -/
  port : Option (Option Nat)

/-- What the checks of a browser take from the standard library. -/
structure BrowserTools where
  context : CaseContext
  /-- `str.isalnum` of one character. -/
  isAlnum : Char → Bool
  /-- `urlsplit`: `none` when it raises `ValueError`. -/
  splitOrigin : Text → Option SplitOrigin
  /-- `str(ipaddress.ip_address(text))`: `none` when it raises `ValueError`. -/
  ipAddress : Text → Option Text

/-- The fields of `Settings` that the checks of a browser read. -/
structure BrowserSettings where
  environment : Text
  publicOrigins : List Text
  trustProxyHeaders : Bool

/-- A request, with what the middleware draws for it. -/
structure BrowserRequest where
  method : Text
  path : Text
  /-- `request.url.scheme`. -/
  scheme : Text
  /-- `request.cookies`. -/
  cookies : List (Text × Text)
  /-- `request.headers`, with the names in lower case. -/
  headers : List (Text × Text)
  /-- `request.client.host`. -/
  clientHost : Option Text
  /-- `secrets.token_urlsafe(24)`. -/
  newVisitorId : Text

/-- `a or b` where both may be `None`. -/
def orElseText : Option Text → Option Text → Option Text
  | some (c :: text), _ => some (c :: text)
  | _, other => other

/-- `SAFE_METHODS`. -/
def safeMethods : List Text := ["GET".toList, "HEAD".toList, "OPTIONS".toList]

namespace BrowserRequest

/-- `request.cookies.get(name, "")`. -/
def cookie (request : BrowserRequest) (name : String) : Text :=
  (request.cookies.lookup name.toList).getD []

/-- `request.headers.get(name)`. -/
def header (request : BrowserRequest) (name : String) : Option Text :=
  request.headers.lookup name.toList

/-- `request.cookies.get(CSRF_COOKIE, "")`. -/
def csrfCookie (request : BrowserRequest) : Text := request.cookie "raceframe_csrf"

/-- `request.cookies.get(VISITOR_COOKIE, "")`. -/
def visitorCookie (request : BrowserRequest) : Text := request.cookie "raceframe_visitor"

end BrowserRequest

section Tools

variable (tools : BrowserTools)

/-! ## Origins -/

/-- `_normalized_origin`. -/
def normalizedOrigin (value : Text) : Option Text := do
  let parsed ← tools.splitOrigin value
  if !(["http".toList, "https".toList].contains parsed.scheme) || parsed.hostname.isEmpty ||
      !parsed.username.isEmpty || !parsed.password.isEmpty then
    none
  let defaultPort := if parsed.scheme = "http".toList then 80 else 443
  let given ← parsed.port
  let port := match given with
    | none | some 0 => defaultPort
    | some port => port
  let suffix := if port = defaultPort then [] else ':' :: (toString port).toList
  return parsed.scheme ++ "://".toList ++ lower tools.context parsed.hostname ++ suffix

variable (settings : BrowserSettings)

/-- `is_production`. -/
def BrowserSettings.isProduction : Bool := productionEnvironments.contains settings.environment

/-- `_allowed_origins`. -/
def allowedOrigins (request : BrowserRequest) : List Text :=
  settings.publicOrigins.filterMap (normalizedOrigin tools) ++
    if settings.isProduction then []
    else match request.header "host" with
      | none | some [] => []
      | some host => [request.scheme ++ "://".toList ++ lower tools.context host]

/-- `_request_origin_is_allowed`. -/
def requestOriginIsAllowed (request : BrowserRequest) : Bool :=
  match orElseText (request.header "origin") (request.header "referer") with
  | none => true
  | some source =>
    (normalizedOrigin tools source).any (allowedOrigins tools settings request).contains

/-! ## Tokens -/

/-- `_valid_browser_token`. -/
def validBrowserToken (value : Text) : Bool :=
  decide (20 ≤ value.length ∧ value.length ≤ 128) &&
    value.all fun c => tools.isAlnum c || ['-', '_'].contains c

/-- What `require_browser_csrf` raises. -/
inductive CsrfError
  | httpException (statusCode : Nat) (detail : String)
  /-- `hmac.compare_digest` takes ASCII only. -/
  | typeError
  deriving DecidableEq

/-- `require_browser_csrf`, with the token of the form and the one of the header. -/
def requireBrowserCsrf (request : BrowserRequest) (csrfToken xCsrfToken : Option Text) :
    Except CsrfError Unit :=
  if safeMethods.contains (upper request.method) then .ok ()
  else
    let expectedToken := request.csrfCookie
    let suppliedToken := (orElseText xCsrfToken (orElseText csrfToken (some []))).getD []
    if expectedToken.isEmpty || suppliedToken.isEmpty then
      .error (.httpException 403 "Invalid or missing CSRF token.")
    else match compareDigest expectedToken suppliedToken with
      | .error _ => .error .typeError
      | .ok false => .error (.httpException 403 "Invalid or missing CSRF token.")
      | .ok true =>
        if requestOriginIsAllowed tools settings request then .ok ()
        else .error (.httpException 403 "Request origin is not allowed.")

/-- `_has_browser_admission_context`. -/
def hasBrowserAdmissionContext (request : BrowserRequest) : Bool :=
  validBrowserToken tools request.csrfCookie && requestOriginIsAllowed tools settings request

/-! ## Limits -/

/-- `client_ip`. -/
def clientIp (request : BrowserRequest) : Text :=
  let candidate := request.clientHost.getD "unknown".toList
  let candidate :=
    if settings.trustProxyHeaders then
      (orElseText (request.header "cf-connecting-ip") (orElseText
        (some (((request.header "x-forwarded-for").getD []).takeWhile (· ≠ ',')))
        (some candidate))).getD []
    else candidate
  (tools.ipAddress (strip candidate)).getD "unknown".toList

/-- `visitor_id` of the middleware. -/
def visitorIdOf (request : BrowserRequest) : Text :=
  if validBrowserToken tools request.visitorCookie then request.visitorCookie
  else request.newVisitorId

/-- The categories of requests whose number at a time is limited. -/
inductive Category
  | publicSearch
  | photoUpload
  deriving DecidableEq

/-- The paths of the searches and the uploads. -/
def isGuardedPath (path : Text) : Bool :=
  "/user/events/".toList.isPrefixOf path &&
      ("/selfies".toList.isSuffixOf path || "/bib-only".toList.isSuffixOf path) ||
    "/upload/events/".toList.isPrefixOf path

/-- The category of a request, when it has to be admitted. -/
def categoryOf (request : BrowserRequest) : Option Category :=
  if request.method = "POST".toList && hasBrowserAdmissionContext tools settings request &&
      "/user/events/".toList.isPrefixOf request.path &&
      ("/selfies".toList.isSuffixOf request.path || "/bib-only".toList.isSuffixOf request.path) then
    some .publicSearch
  else if request.method = "POST".toList && hasBrowserAdmissionContext tools settings request &&
      "/upload/events/".toList.isPrefixOf request.path then
    some .photoUpload
  else none

/-- The arguments of a call of `hit`. -/
structure RateCheck where
  bucket : Text
  key : Text
  limit : Nat
  windowSeconds : Nat
  deriving DecidableEq

/-- The call at a reading of the clock. -/
def RateCheck.at (check : RateCheck) (now : ℚ) : WindowHit :=
  ⟨check.bucket, check.key, check.limit, check.windowSeconds, now⟩

/-- `event_key`: the fourth segment of the path. -/
def eventKeyOf (path : Text) : Text := (path.splitOn '/').getD 3 "unknown".toList

/-- The limits that a request of a category has to pass, in their order. -/
def checksOf (request : BrowserRequest) : Category → List RateCheck
  | .publicSearch =>
    [⟨"public-search-visitor".toList, visitorIdOf tools request, 5, 60⟩,
      ⟨"public-search-ip".toList, clientIp tools settings request, 300, 600⟩,
      ⟨"public-search-event".toList, eventKeyOf request.path, 500, 600⟩]
  | .photoUpload => [⟨"photo-upload-visitor".toList, visitorIdOf tools request, 120, 60⟩]

/-- The limit of a bucket. -/
def bucketLimit (bucket : Text) : Nat :=
  if bucket = "public-search-visitor".toList then 5
  else if bucket = "public-search-ip".toList then 300
  else if bucket = "public-search-event".toList then 500
  else 120

/-- The window of a bucket in seconds. -/
def bucketWindow (bucket : Text) : Nat :=
  if bucket = "public-search-ip".toList ∨ bucket = "public-search-event".toList then 600 else 60

theorem checksOf_rates {request : BrowserRequest} {category : Category} {check : RateCheck}
    (h : check ∈ checksOf tools settings request category) :
    check.limit = bucketLimit check.bucket ∧ check.windowSeconds = bucketWindow check.bucket := by
  cases category with
  | publicSearch =>
    simp only [checksOf, List.mem_cons, List.not_mem_nil, or_false] at h
    rcases h with rfl | rfl | rfl <;> exact ⟨rfl, rfl⟩
  | photoUpload =>
    rw [List.mem_singleton.mp h]
    exact ⟨rfl, rfl⟩

theorem bucketLimit_pos (bucket : Text) : 1 ≤ bucketLimit bucket := by
  rw [bucketLimit]
  split_ifs <;> decide

/-! ## What passes the check of the token -/

theorem requireBrowserCsrf_eq_ok {request : BrowserRequest} {csrfToken xCsrfToken : Option Text}
    (hmethod : request.method = "POST".toList) :
    requireBrowserCsrf tools settings request csrfToken xCsrfToken = .ok () ↔
      request.csrfCookie ≠ [] ∧ (request.csrfCookie.all fun c => c.toNat < 128) ∧
        (orElseText xCsrfToken (orElseText csrfToken (some []))).getD [] = request.csrfCookie ∧
        requestOriginIsAllowed tools settings request = true := by
  have hwrites : safeMethods.contains (upper request.method) = false := by
    rw [hmethod]
    decide
  unfold requireBrowserCsrf
  rw [hwrites]
  simp only [Bool.false_eq_true, if_false]
  generalize (orElseText xCsrfToken (orElseText csrfToken (some []))).getD [] = supplied
  generalize request.csrfCookie = expected
  by_cases hmissing : (expected.isEmpty || supplied.isEmpty) = true
  · rw [if_pos hmissing]
    refine iff_of_false (fun h => nomatch h) ?_
    rintro ⟨hexpected, -, rfl, -⟩
    rw [Bool.or_self, List.isEmpty_iff] at hmissing
    exact hexpected hmissing
  rw [if_neg hmissing, compareDigest, List.all_append]
  simp only [Bool.or_eq_true, List.isEmpty_iff, not_or] at hmissing
  by_cases hsame : supplied = expected
  · subst hsame
    rw [Bool.and_self, beq_self_eq_true]
    by_cases hascii : (supplied.all fun c => decide (c.toNat < 128)) = true
    · simp only [hascii, if_true]
      by_cases horigin : requestOriginIsAllowed tools settings request = true
      · rw [if_pos horigin]
        exact iff_of_true rfl ⟨hmissing.1, trivial, trivial, horigin⟩
      · rw [if_neg horigin]
        exact iff_of_false (fun h => nomatch h) fun h => horigin h.2.2.2
    · simp only [if_neg hascii]
      exact iff_of_false (fun h => nomatch h) fun h => hascii h.2.1
  · refine iff_of_false ?_ fun h => hsame h.2.2.1
    rw [beq_false_of_ne (Ne.symm hsame)]
    split_ifs <;> exact fun h => nomatch h

/-- A search or an upload is in a category when it comes from a page of the service. -/
theorem categoryOf_isSome {request : BrowserRequest} (hmethod : request.method = "POST".toList)
    (hpath : isGuardedPath request.path = true) :
    (categoryOf tools settings request).isSome = hasBrowserAdmissionContext tools settings request
    := by
  have hpost : decide (request.method = "POST".toList) = true := decide_eq_true hmethod
  rw [isGuardedPath] at hpath
  unfold categoryOf
  rw [hpost, Bool.true_and]
  cases hasBrowserAdmissionContext tools settings request with
  | false => rfl
  | true =>
    rw [Bool.true_and, Bool.true_and]
    split_ifs with hsearch hupload
    · rfl
    · rfl
    · rw [Bool.or_eq_true] at hpath
      exact absurd hpath (not_or.mpr ⟨hsearch, hupload⟩)

end Tools

end RaceFrame

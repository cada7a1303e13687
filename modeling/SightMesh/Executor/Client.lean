import SightMesh.Executor.Processes

/-! `CdesktopClient.request` and the lookup of a managed effect: what one HTTP exchange is read
as. -/
namespace SightMesh

open Python

/-- What becomes of a request. A refusal carries its body and what `_retry_at` reads in its headers;
`broken` is a response that raises while it is read or decoded. -/
inductive Exchange where
  | answered (body : Option Json)
  | refused (code : ℕ) (detail : String) (retryAt : Option Time)
  | unreachable (reason : String)
  | broken (message : String)

def rejectionStatuses : List ℕ := [401, 403, 409, 429]

/-- `_rejection_type`, where `other` is the plain `CdesktopError`. -/
def rejectionType (code : ℕ) (retryAt : Option Time) : CdesktopFailure :=
  if code = 424 then .interrupted
  else if code = 425 then .pending
  else if code ∈ rejectionStatuses then .rejected (some code) retryAt
  else .other

def refusalText (method path : String) (code : ℕ) (detail : String) : String :=
  method ++ " " ++ path ++ " failed: HTTP " ++ toString code ++ ": " ++ detail

def unreachableText (baseUrl reason : String) : String :=
  "Cannot reach cdesktop at " ++ baseUrl ++ ": " ++ reason

def clientRequest (py : Library) (baseUrl method path : String) : Exchange → Answer Json
  | .refused code detail retryAt =>
    .error (.cdesktop (rejectionType code retryAt) (refusalText method path code detail))
  | .unreachable reason => .error (.cdesktop .transport (unreachableText baseUrl reason))
  | .broken message => .error (.value message)
  | .answered none => .ok .null
  | .answered (some (.obj fields)) =>
    match Dict.get fields "success" with
    | .bool false => .error (.cdesktop (.rejected none none)
        (py.str ((Dict.get fields "message").orElse' (.obj fields))))
    | _ => if Dict.has fields "data" then .ok (Dict.get fields "data") else .ok (.obj fields)
  | .answered (some data) => .ok data

def effectPath (taskId : TaskId) (epoch : ℕ) : String :=
  "/managed-tasks/" ++ taskId ++ "/epochs/" ++ toString epoch

def fieldText (py : Library) (body : Dict) (name : String) : String :=
  if (body.get name).truthy then py.str (body.get name) else ""

/-- The fields of an effect body its callers read. -/
def Native.decode (py : Library) (body : Dict) : Native where
  state := fieldText py body "state"
  reason := fieldText py body "reason"
  retryable := (body.get "retryable").truthy
  retryAfterSeconds := match body.get "retry_after_seconds" with
    | .num (.int n) => some n
    | .num (.finite q) => some q
    | _ => none
  workspaceId := fieldText py body "workspace_id"
  sessionId := fieldText py body "session_id"

def lookupEffect (py : Library) (baseUrl : String) (taskId : TaskId) (epoch : ℕ)
    (exchange : Exchange) : Answer Native :=
  match clientRequest py baseUrl "GET" (effectPath taskId epoch) exchange with
  | .error e => .error e
  | .ok (.obj body) => .ok (.decode py body)
  | .ok _ => .error (.cdesktop .other "cdesktop managed effect response is invalid")

/-- The states `_native_effect` reads as absence. -/
def absentStates : List String := ["", "missing", "not_found", "lost"]

def Native.live (native : Native) : Bool :=
  native.state = "active" && native.workspaceId ≠ "" && native.sessionId ≠ ""

/-- The text search of `is_effect_not_found`. -/
def readsAsAbsence (py : Library) (text : String) : Bool :=
  contains "404" text || contains (py.lower effectNotFoundMessage) (py.lower text)

theorem isEffectNotFound_untyped {failure : CdesktopFailure} (py : Library) (text : String)
    (untyped : ∀ retryAt, failure ≠ .rejected (some 404) retryAt) :
    isEffectNotFound py failure text = readsAsAbsence py text := by
  unfold isEffectNotFound readsAsAbsence
  split
  · rename_i retryAt
    exact absurd rfl (untyped retryAt)
  · rw [Bool.false_or]

/-- 404 has no type of its own, so it is found in the text only. -/
theorem rejectionType_untyped (code : ℕ) (retryAt retryAt' : Option Time) :
    rejectionType code retryAt ≠ .rejected (some 404) retryAt' := by
  unfold rejectionType
  intro typed
  split at typed
  · exact nomatch typed
  · split at typed
    · exact nomatch typed
    · split at typed
      · rename_i listed
        cases typed
        exact absurd listed (by decide)
      · exact nomatch typed

end SightMesh

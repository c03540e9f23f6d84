import QuarkSelfAI.Workflow.Host

/-!
# Authorization evidence

The portable evidence a standing authorization carries, and its validation
against the scope and the grantor a feature expects.
-/

namespace QuarkSelfAI.Domain

open Foundation Workflow

structure DurableAuthorizationEvidence where
  id : String
  grantedBy : String
  grantedAt : String
  scope : String
  revision : Nat
  source : String

structure AuthorizationExpectation where
  scope : String
  grantedBy : String

/-- The members of evidence as they travel in payloads. -/
def DurableAuthorizationEvidence.members (evidence : DurableAuthorizationEvidence) : List (String × JsValue) :=
  [("id", .string evidence.id), ("grantedBy", .string evidence.grantedBy),
    ("grantedAt", .string evidence.grantedAt), ("scope", .string evidence.scope),
    ("revision", .number evidence.revision), ("source", .string evidence.source)]

def text (value : JsValue) (label : String) (max : Nat) : Except String String :=
  boundedText s!"{label} is required" label max value

def timestamp (host : Host) (value : JsValue) (label : String) : Except String Timestamp := do
  let result ← text value label 100
  match host.parseDate result with
  | none => .error s!"{label} must be a timestamp"
  | some instant => .ok instant

/-- A positive safe integer. -/
def revisionOf : JsValue → Except String Nat
  | .number value =>
    if ¬ isSafeInteger value ∨ value < 1 then
      .error "authorization revision must be a positive integer"
    else .ok value.num.toNat
  | _ => .error "authorization revision must be a positive integer"

def requireAuthorizationEvidence (host : Host) (value : JsValue) (expected : AuthorizationExpectation)
    (effectiveAt : Timestamp) : Except String DurableAuthorizationEvidence :=
  match value with
  | .object _ => do
    let granted ← timestamp host (value.get "grantedAt") "authorization grantedAt"
    if effectiveAt < granted then .error "authorization cannot be granted in the future"
    let expectedScope ← text (.string expected.scope) "expected authorization scope" 300
    let expectedGrantor ← text (.string expected.grantedBy) "expected authorization grantor" 300
    if value.get "grantedBy" ≠ .string expectedGrantor then
      .error s!"authorization must be granted by {expectedGrantor}"
    if value.get "scope" ≠ .string expectedScope then
      .error s!"authorization scope must be {expectedScope}"
    let revision ← revisionOf (value.get "revision")
    let id ← text (value.get "id") "authorization id" 300
    let grantedAt ← text (value.get "grantedAt") "authorization grantedAt" 100
    let source ← text (value.get "source") "authorization source" 500
    return { id, grantedBy := expectedGrantor, grantedAt, scope := expectedScope, revision, source }
  | _ => .error "authorization evidence is required"

end QuarkSelfAI.Domain

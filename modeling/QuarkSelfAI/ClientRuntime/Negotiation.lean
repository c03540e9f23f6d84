import QuarkSelfAI.Foundation.IsoTime
import QuarkSelfAI.Foundation.Table

/-!
# Executor negotiation

`negotiateExecutor` walks the preferred executors and then the other allowed ones, and takes the first that the plan
allows and whose report is ready, unexpired and sufficient. A protocol without a name is never taken, which no validated
plan asks for.
-/

namespace QuarkSelfAI.ClientRuntime

open Foundation

inductive ExecutorAvailability where
  | ready
  | notInstalled
  | authRequired
  | versionUnsupported
  | unavailable
deriving DecidableEq

/-- What negotiation reads of a report; the validator has read its expiry as an instant. -/
structure ExecutorCapabilityReport where
  executorId : String
  availability : ExecutorAvailability
  protocolVersions : List String
  capabilities : List String
  expiresAt : Timestamp
deriving DecidableEq

structure ExecutorRequirement where
  protocolVersions : List String
  capabilities : List String
  allowedExecutors : List String
  preferredExecutors : List String

inductive SelectionReason where
  | preferredReady
  | fallbackReady
deriving DecidableEq

structure ExecutorSelection where
  executorId : String
  reportExpiresAt : Timestamp
  matchedProtocolVersion : String
  matchedCapabilities : List String
  reason : SelectionReason
deriving DecidableEq

namespace ExecutorRequirement

variable (requirement : ExecutorRequirement)

/-- The preferred list, then the allowed executors that it leaves out. -/
def order : List String :=
  requirement.preferredExecutors ++ requirement.allowedExecutors.filter (· ∉ requirement.preferredExecutors)

/-- The first required protocol the report offers. -/
def protocol (report : ExecutorCapabilityReport) : Option String :=
  requirement.protocolVersions.find? (· ∈ report.protocolVersions)

/-- What the loop makes of one executor; `none` goes on to the next. -/
def select (reports : List ExecutorCapabilityReport) (now : Timestamp) (executorId : String) :
    Option ExecutorSelection :=
  if executorId ∉ requirement.allowedExecutors then none
  else
    -- a `Map` answers the last report of an executor
    match reports.reverse.find? (·.executorId = executorId) with
    | none => none
    | some report =>
      if report.availability ≠ .ready ∨ report.expiresAt ≤ now then none
      else
        match requirement.protocol report with
        | none => none
        | some protocol =>
          if protocol = "" ∨ ∃ capability ∈ requirement.capabilities, capability ∉ report.capabilities then none
          else
            some {
              executorId := executorId
              reportExpiresAt := report.expiresAt
              matchedProtocolVersion := protocol
              matchedCapabilities := requirement.capabilities
              reason := if executorId ∈ requirement.preferredExecutors then .preferredReady else .fallbackReady }

end ExecutorRequirement

def negotiateExecutor (requirement : ExecutorRequirement) (reports : List ExecutorCapabilityReport) (now : Timestamp) :
    Except String ExecutorSelection :=
  match requirement.order.findSome? (requirement.select reports now) with
  | some selection => .ok selection
  | none => .error "no eligible executor satisfies the signed plan requirements"

/-! ## Who is eligible -/

/-- A ready, unexpired report that offers a required protocol and all required capabilities. -/
structure Sufficient (requirement : ExecutorRequirement) (now : Timestamp) (report : ExecutorCapabilityReport) : Prop where
  ready : report.availability = .ready
  unexpired : now < report.expiresAt
  spoken : ∃ protocol ∈ requirement.protocolVersions, protocol ∈ report.protocolVersions
  capable : requirement.capabilities ⊆ report.capabilities

/-- An allowed executor with a sufficient report. -/
def Eligible (requirement : ExecutorRequirement) (reports : List ExecutorCapabilityReport) (now : Timestamp)
    (executorId : String) : Prop :=
  executorId ∈ requirement.allowedExecutors ∧
    ∃ report ∈ reports, report.executorId = executorId ∧ Sufficient requirement now report

section Selection

variable {requirement : ExecutorRequirement} {reports : List ExecutorCapabilityReport} {now : Timestamp}
  {executorId : String} {report : ExecutorCapabilityReport} {selection : ExecutorSelection}

theorem find_report (distinct : (reports.map ExecutorCapabilityReport.executorId).Nodup) :
    reports.reverse.find? (·.executorId = executorId) = some report ↔
      report ∈ reports ∧ report.executorId = executorId := by
  have keyed : (reports.reverse.map ExecutorCapabilityReport.executorId).Nodup := by
    rw [List.map_reverse, List.nodup_reverse]
    exact distinct
  have found := @Table.find?_eq_some_iff _ _ _ report _
    (⟨reports.reverse, keyed⟩ : Table ExecutorCapabilityReport.executorId) executorId
  rw [Table.find?, ← Table.mem_rows, List.mem_reverse] at found
  exact found

/-- A report offers a required protocol exactly when one is found, and the one found has a name. -/
theorem protocol_isSome (named : "" ∉ requirement.protocolVersions) :
    (∃ protocol, requirement.protocol report = some protocol ∧ protocol ≠ "") ↔
      ∃ protocol ∈ requirement.protocolVersions, protocol ∈ report.protocolVersions := by
  constructor
  · rintro ⟨protocol, found, -⟩
    exact ⟨protocol, List.mem_of_find?_eq_some found, by simpa using List.find?_some found⟩
  · rintro ⟨protocol, required, offered⟩
    obtain ⟨first, found⟩ : ∃ first, requirement.protocol report = some first := by
      rw [ExecutorRequirement.protocol, ← Option.isSome_iff_exists, List.find?_isSome]
      exact ⟨protocol, required, by simpa using offered⟩
    exact ⟨first, found, fun empty => named (empty ▸ List.mem_of_find?_eq_some found)⟩

/-- What the loop has found where it stops. -/
theorem select_eq_some_iff : requirement.select reports now executorId = some selection ↔
    executorId ∈ requirement.allowedExecutors ∧ ∃ report protocol,
      reports.reverse.find? (·.executorId = executorId) = some report ∧ report.availability = .ready ∧
        now < report.expiresAt ∧ (requirement.protocol report = some protocol ∧ protocol ≠ "") ∧
        requirement.capabilities ⊆ report.capabilities ∧
        selection = {
          executorId := executorId
          reportExpiresAt := report.expiresAt
          matchedProtocolVersion := protocol
          matchedCapabilities := requirement.capabilities
          reason := if executorId ∈ requirement.preferredExecutors then .preferredReady else .fallbackReady } := by
  constructor
  · intro found
    rw [ExecutorRequirement.select] at found
    split at found <;> [cases found; skip]
    rename_i allowed
    split at found <;> [cases found; skip]
    rename_i report reported
    split at found <;> [cases found; skip]
    rename_i live
    split at found <;> [cases found; skip]
    rename_i protocol heard
    split at found <;> [cases found; skip]
    rename_i fit
    simp only [not_or, not_exists, not_and, not_not] at live fit
    exact ⟨not_not.mp allowed, report, protocol, reported, live.1, Int.not_le.mp live.2, ⟨heard, fit.1⟩, fit.2,
      (Option.some.inj found).symm⟩
  · rintro ⟨allowed, report, protocol, reported, ready, unexpired, ⟨heard, named⟩, capable, rfl⟩
    have live : ¬ (report.availability ≠ .ready ∨ report.expiresAt ≤ now) :=
      not_or.mpr ⟨not_not.mpr ready, Int.not_le.mpr unexpired⟩
    have fit : ¬ (protocol = "" ∨ ∃ capability ∈ requirement.capabilities, capability ∉ report.capabilities) := by
      rintro (empty | ⟨capability, required, missing⟩)
      · exact named empty
      · exact missing (capable required)
    rw [ExecutorRequirement.select, if_neg (not_not.mpr allowed), reported]
    dsimp only
    rw [if_neg live, heard]
    dsimp only
    rw [if_neg fit]

/-- The loop stops at an executor exactly when it is eligible. -/
theorem select_isSome (named : "" ∉ requirement.protocolVersions)
    (distinct : (reports.map ExecutorCapabilityReport.executorId).Nodup) :
    (∃ selection, requirement.select reports now executorId = some selection) ↔
      Eligible requirement reports now executorId := by
  simp only [select_eq_some_iff]
  constructor
  · rintro ⟨selection, allowed, report, protocol, reported, ready, unexpired, heard, capable, -⟩
    obtain ⟨listed, own⟩ := (find_report distinct).mp reported
    exact ⟨allowed, report, listed, own, ready, unexpired, (protocol_isSome named).mp ⟨protocol, heard⟩, capable⟩
  · rintro ⟨allowed, report, listed, own, sufficient⟩
    obtain ⟨protocol, heard⟩ := (protocol_isSome named).mpr sufficient.spoken
    exact ⟨_, allowed, report, protocol, (find_report distinct).mpr ⟨listed, own⟩, sufficient.ready,
      sufficient.unexpired, heard, sufficient.capable, rfl⟩

theorem select_executorId (found : requirement.select reports now executorId = some selection) :
    selection.executorId = executorId := by
  obtain ⟨-, _, _, -, -, -, -, -, rfl⟩ := select_eq_some_iff.mp found
  rfl

theorem negotiateExecutor_ok : negotiateExecutor requirement reports now = .ok selection ↔
    requirement.order.findSome? (requirement.select reports now) = some selection := by
  rw [negotiateExecutor]
  split
  · rename_i chosen found
    rw [found, Except.ok.injEq, Option.some.injEq]
  · rename_i missing
    rw [missing]
    constructor <;> rintro ⟨⟩

/-- Every allowed executor is in the order. -/
theorem mem_order (allowed : executorId ∈ requirement.allowedExecutors) : executorId ∈ requirement.order := by
  rw [ExecutorRequirement.order, List.mem_append, List.mem_filter]
  by_cases preferred : executorId ∈ requirement.preferredExecutors
  · exact .inl preferred
  · exact .inr ⟨allowed, by simpa using preferred⟩

/-- An executor is returned exactly when one is eligible, and it is the first eligible one of the order. -/
theorem negotiateExecutor_first (requirement : ExecutorRequirement) (reports : List ExecutorCapabilityReport)
    (now : Timestamp) (named : "" ∉ requirement.protocolVersions)
    (distinct : (reports.map ExecutorCapabilityReport.executorId).Nodup) :
    ((∃ selection, negotiateExecutor requirement reports now = .ok selection) ↔
        ∃ executorId, Eligible requirement reports now executorId) ∧
      ∀ selection, negotiateExecutor requirement reports now = .ok selection →
        ∃ before after, requirement.preferredExecutors ++
            requirement.allowedExecutors.filter (· ∉ requirement.preferredExecutors) =
              before ++ selection.executorId :: after ∧
          Eligible requirement reports now selection.executorId ∧
          ∀ earlier ∈ before, ¬ Eligible requirement reports now earlier := by
  simp only [negotiateExecutor_ok]
  constructor
  · constructor
    · rintro ⟨selection, found⟩
      obtain ⟨before, executorId, after, -, here, -⟩ := List.findSome?_eq_some_iff.mp found
      exact ⟨executorId, (select_isSome named distinct).mp ⟨selection, here⟩⟩
    · rintro ⟨executorId, eligible⟩
      obtain ⟨selection, here⟩ := (select_isSome named distinct).mpr eligible
      rw [← Option.isSome_iff_exists, List.findSome?_isSome_iff]
      exact ⟨executorId, mem_order eligible.1, by rw [here]; rfl⟩
  · intro selection found
    obtain ⟨before, executorId, after, split, here, earlier⟩ := List.findSome?_eq_some_iff.mp found
    rw [select_executorId here]
    refine ⟨before, after, split, (select_isSome named distinct).mp ⟨selection, here⟩, ?_⟩
    intro other listed eligible
    obtain ⟨chosen, there⟩ := (select_isSome named distinct).mpr eligible
    rw [earlier other listed] at there
    cases there

def pilotReport (executorId : String) (protocolVersions : List String) : ExecutorCapabilityReport where
  executorId := executorId
  availability := .ready
  protocolVersions := protocolVersions
  capabilities := ["tool.execute"]
  expiresAt := 60000

def pilotRequirement (protocolVersions : List String) : ExecutorRequirement where
  protocolVersions := protocolVersions
  capabilities := ["tool.execute"]
  allowedExecutors := ["safe-fallback", "executor-a"]
  preferredExecutors := ["executor-a"]

theorem negotiateExecutor_first_pilot :
    ∃ before after, ["executor-a", "safe-fallback"] = before ++ "executor-a" :: after ∧
      Eligible (pilotRequirement ["envelope.v1"])
        [pilotReport "executor-a" ["envelope.v1"], pilotReport "safe-fallback" ["envelope.v1"]] 0 "executor-a" ∧
      ∀ earlier ∈ before, ¬ Eligible (pilotRequirement ["envelope.v1"])
        [pilotReport "executor-a" ["envelope.v1"], pilotReport "safe-fallback" ["envelope.v1"]] 0 earlier :=
  (negotiateExecutor_first (pilotRequirement ["envelope.v1"])
    [pilotReport "executor-a" ["envelope.v1"], pilotReport "safe-fallback" ["envelope.v1"]] 0 (by decide)
    (by decide)).2 ⟨"executor-a", 60000, "envelope.v1", ["tool.execute"], .preferredReady⟩ (by decide)

/-- A requirement may ask for a protocol without a name, and the report that offers it is passed over. -/
theorem unnamed_passed_over :
    Eligible (pilotRequirement ["", "envelope.v1"]) [pilotReport "executor-a" ["", "envelope.v1"]] 0 "executor-a" ∧
      ¬ ∃ selection, negotiateExecutor (pilotRequirement ["", "envelope.v1"])
        [pilotReport "executor-a" ["", "envelope.v1"]] 0 = .ok selection := by
  refine ⟨⟨by decide, pilotReport "executor-a" ["", "envelope.v1"], by decide, rfl, rfl, by decide, by decide, by decide⟩, ?_⟩
  rintro ⟨selection, returned⟩
  have refused : negotiateExecutor (pilotRequirement ["", "envelope.v1"])
      [pilotReport "executor-a" ["", "envelope.v1"]] 0 =
        .error "no eligible executor satisfies the signed plan requirements" := by decide
  rw [refused] at returned
  cases returned

end Selection

end QuarkSelfAI.ClientRuntime

import QuarkSelfAI.Foundation.JsValue

/-!
# Policy conditions

A condition is a leaf about one fact of the input or a combination of conditions. `policyConditionFacts` declares the
facts that `matchesPolicy` may read; an input is a record of JSON values.
-/

namespace QuarkSelfAI.Policy

open Foundation

inductive PolicyOperator where
  | eq
  | neq
  | contains
  | in
  | exists
  | gte
  | lte

inductive PolicyValue where
  | text (value : String)
  | number (value : Rat)
  | flag (value : Bool)
  | texts (values : List String)
deriving DecidableEq

structure FactCondition where
  fact : String
  op : PolicyOperator
  value : Option PolicyValue := none

inductive PolicyCondition where
  | fact (condition : FactCondition)
  | all (conditions : List PolicyCondition)
  | any (conditions : List PolicyCondition)
  | not (condition : PolicyCondition)

/-- `path.split('.')`. -/
def segments (path : String) : List String := (path.toList.splitOn '.').map String.ofList

/-- What is no record has no members, so that nothing is found below it. -/
def valueAt (input : JsValue) (path : String) : JsValue := (segments path).foldl JsValue.get input

/-- `actual === value`; an array of the condition is no value of the input. -/
def equals : JsValue → Option PolicyValue → Bool
  | .undefined, none => true
  | .string actual, some (.text value) => actual = value
  | .number actual, some (.number value) => actual = value
  | .bool actual, some (.flag value) => actual = value
  | _, _ => false

def fact (condition : FactCondition) (input : JsValue) : Bool :=
  let actual := valueAt input condition.fact
  match condition.op with
  | .exists => if condition.value = some (.flag false) then actual = .undefined else actual ≠ .undefined
  | .eq => equals actual condition.value
  | .neq => ! equals actual condition.value
  | .contains =>
    match actual, condition.value with
    | .string actual, some (.text value) => includes actual value
    | .array items, value => items.any (equals · value)
    | _, _ => false
  | .in =>
    match actual, condition.value with
    | .string actual, some (.texts values) => values.contains actual
    | _, _ => false
  | .gte =>
    match actual, condition.value with
    | .number actual, some (.number value) => value ≤ actual
    | _, _ => false
  | .lte =>
    match actual, condition.value with
    | .number actual, some (.number value) => actual ≤ value
    | _, _ => false

mutual

def matchesPolicy : PolicyCondition → JsValue → Bool
  | .fact condition, input => fact condition input
  | .all conditions, input => everyMatches conditions input
  | .any conditions, input => someMatches conditions input
  | .not condition, input => ! matchesPolicy condition input

def everyMatches : List PolicyCondition → JsValue → Bool
  | [], _ => true
  | item :: rest, input => matchesPolicy item input && everyMatches rest input

def someMatches : List PolicyCondition → JsValue → Bool
  | [], _ => false
  | item :: rest, input => matchesPolicy item input || someMatches rest input

end

/-- `result.add(fact)`. -/
def addFact (fact : String) (result : List String) : List String := if fact ∈ result then result else result ++ [fact]

mutual

/-- The facts of a condition, behind those that are listed already. -/
def policyConditionFacts : PolicyCondition → List String → List String
  | .fact condition, result => addFact condition.fact result
  | .all conditions, result | .any conditions, result => childrenFacts conditions result
  | .not condition, result => policyConditionFacts condition result

def childrenFacts : List PolicyCondition → List String → List String
  | [], result => result
  | child :: rest, result => childrenFacts rest (policyConditionFacts child result)

end

/-! ## Declared facts -/

theorem subset_addFact (fact : String) (result : List String) : fact ∈ addFact fact result ∧ result ⊆ addFact fact result := by
  rw [addFact]
  split
  · rename_i listed
    exact ⟨listed, List.Subset.refl _⟩
  · exact ⟨by simp, List.subset_append_left _ _⟩

mutual

/-- What is declared stays declared. -/
theorem subset_policyConditionFacts : (condition : PolicyCondition) → (result : List String) →
    result ⊆ policyConditionFacts condition result
  | .fact condition, result => (subset_addFact condition.fact result).2
  | .all conditions, result | .any conditions, result => subset_childrenFacts conditions result
  | .not condition, result => subset_policyConditionFacts condition result

theorem subset_childrenFacts : (conditions : List PolicyCondition) → (result : List String) →
    result ⊆ childrenFacts conditions result
  | [], _ => List.Subset.refl _
  | child :: rest, result => fun _ listed =>
    subset_childrenFacts rest _ (subset_policyConditionFacts child result listed)

end

/-- The inputs have the same value at every declared fact. -/
def Agree (facts : List String) (left right : JsValue) : Prop := ∀ fact ∈ facts, valueAt left fact = valueAt right fact

theorem Agree.anti {facts more : List String} {left right : JsValue} (agree : Agree more left right)
    (fewer : facts ⊆ more) : Agree facts left right :=
  fun fact listed => agree fact (fewer listed)

section

variable {left right : JsValue}

theorem fact_congr {condition : FactCondition} (same : valueAt left condition.fact = valueAt right condition.fact) :
    fact condition left = fact condition right := by
  rw [fact, fact, same]

mutual

theorem matchesPolicy_congr : (condition : PolicyCondition) → (result : List String) →
    Agree (policyConditionFacts condition result) left right →
      matchesPolicy condition left = matchesPolicy condition right
  | .fact condition, result, agree => fact_congr (agree condition.fact (subset_addFact condition.fact result).1)
  | .all conditions, result, agree => (children_congr conditions result agree).1
  | .any conditions, result, agree => (children_congr conditions result agree).2
  | .not condition, result, agree => by
    rw [matchesPolicy, matchesPolicy, matchesPolicy_congr condition result agree]

theorem children_congr : (conditions : List PolicyCondition) → (result : List String) →
    Agree (childrenFacts conditions result) left right →
      everyMatches conditions left = everyMatches conditions right ∧ someMatches conditions left = someMatches conditions right
  | [], _, _ => ⟨rfl, rfl⟩
  | child :: rest, result, agree => by
    have first := matchesPolicy_congr child result (agree.anti (subset_childrenFacts rest _))
    obtain ⟨everyLater, someLater⟩ := children_congr rest _ agree
    rw [everyMatches, everyMatches, someMatches, someMatches, first, everyLater, someLater]
    exact ⟨rfl, rfl⟩

end

end

/-! ## De Morgan's laws -/

mutual

/-- The condition with every leaf negated, and all and any exchanged. -/
def dual : PolicyCondition → PolicyCondition
  | .fact condition => .not (.fact condition)
  | .all conditions => .any (duals conditions)
  | .any conditions => .all (duals conditions)
  | .not condition => .not (dual condition)

def duals : List PolicyCondition → List PolicyCondition
  | [] => []
  | item :: rest => dual item :: duals rest

end

mutual

/-- The condition or its negation, with every negation moved to a leaf. -/
def atLeaves : Bool → PolicyCondition → PolicyCondition
  | true, .fact condition => .fact condition
  | false, .fact condition => .not (.fact condition)
  | true, .all conditions => .all (allAtLeaves true conditions)
  | false, .all conditions => .any (allAtLeaves false conditions)
  | true, .any conditions => .any (allAtLeaves true conditions)
  | false, .any conditions => .all (allAtLeaves false conditions)
  | positive, .not condition => atLeaves (! positive) condition

def allAtLeaves : Bool → List PolicyCondition → List PolicyCondition
  | _, [] => []
  | positive, item :: rest => atLeaves positive item :: allAtLeaves positive rest

end

variable {input : JsValue}

mutual

theorem matchesPolicy_dual : (condition : PolicyCondition) →
    matchesPolicy (dual condition) input = ! matchesPolicy condition input
  | .fact _ => rfl
  | .all conditions => by
    rw [dual, matchesPolicy, matchesPolicy, (matches_duals conditions).2]
  | .any conditions => by
    rw [dual, matchesPolicy, matchesPolicy, (matches_duals conditions).1]
  | .not condition => by
    rw [dual, matchesPolicy, matchesPolicy, matchesPolicy_dual condition]

theorem matches_duals : (conditions : List PolicyCondition) →
    everyMatches (duals conditions) input = ! someMatches conditions input ∧
      someMatches (duals conditions) input = ! everyMatches conditions input
  | [] => ⟨rfl, rfl⟩
  | item :: rest => by
    obtain ⟨everyLater, someLater⟩ := matches_duals rest
    rw [duals, everyMatches, someMatches, someMatches, everyMatches, matchesPolicy_dual item, everyLater, someLater,
      Bool.not_or, Bool.not_and]
    exact ⟨rfl, rfl⟩

end

mutual

/-- A condition or its negation, as the flag says. -/
theorem matchesPolicy_atLeaves : (positive : Bool) → (condition : PolicyCondition) →
    matchesPolicy (atLeaves positive condition) input = (positive == matchesPolicy condition input)
  | true, .fact _ => (Bool.true_beq _).symm
  | false, .fact _ => (Bool.false_beq _).symm
  | true, .all conditions => by
    rw [atLeaves, matchesPolicy, matchesPolicy, Bool.true_beq, (matches_allAtLeaves conditions).1]
  | false, .all conditions => by
    rw [atLeaves, matchesPolicy, matchesPolicy, Bool.false_beq, (matches_allAtLeaves conditions).2.2.2]
  | true, .any conditions => by
    rw [atLeaves, matchesPolicy, matchesPolicy, Bool.true_beq, (matches_allAtLeaves conditions).2.1]
  | false, .any conditions => by
    rw [atLeaves, matchesPolicy, matchesPolicy, Bool.false_beq, (matches_allAtLeaves conditions).2.2.1]
  | positive, .not condition => by
    rw [atLeaves, matchesPolicy, matchesPolicy_atLeaves (! positive) condition]
    cases positive <;> cases matchesPolicy condition input <;> rfl

theorem matches_allAtLeaves : (conditions : List PolicyCondition) →
    everyMatches (allAtLeaves true conditions) input = everyMatches conditions input ∧
      someMatches (allAtLeaves true conditions) input = someMatches conditions input ∧
      everyMatches (allAtLeaves false conditions) input = (! someMatches conditions input) ∧
      someMatches (allAtLeaves false conditions) input = ! everyMatches conditions input
  | [] => ⟨rfl, rfl, rfl, rfl⟩
  | item :: rest => by
    obtain ⟨every, some, neither, other⟩ := matches_allAtLeaves rest
    simp only [allAtLeaves, everyMatches, someMatches, matchesPolicy_atLeaves _ item, Bool.true_beq, Bool.false_beq,
      every, some, neither, other, Bool.not_or, Bool.not_and, and_self]

end

/-! ## The declared facts are all that is read -/

/-- A condition answers alike on inputs with the same declared facts, and De Morgan's laws do not change it. -/
theorem matchesPolicy_declared {condition : PolicyCondition} {left right : JsValue}
    (agree : Agree (policyConditionFacts condition []) left right) :
    matchesPolicy condition left = matchesPolicy condition right ∧
      matchesPolicy (.not (dual condition)) left = matchesPolicy condition left ∧
      matchesPolicy (atLeaves true condition) left = matchesPolicy condition left := by
  refine ⟨matchesPolicy_congr condition [] agree, ?_, ?_⟩
  · rw [matchesPolicy, matchesPolicy_dual, Bool.not_not]
  · rw [matchesPolicy_atLeaves, Bool.true_beq]

/-- The source and the length of an event: it comes from the chat, and it is not a long one. -/
def sampleCondition : PolicyCondition :=
  .all [.fact ⟨"source.kind", .eq, some (.text "chat")⟩, .not (.fact ⟨"length", .gte, some (.number 100)⟩)]

def sampleInput (sender : String) : JsValue :=
  .object [("source", .object [("kind", "chat"), ("sender", sender)]), ("length", .number 7)]

/-- The sender is not declared, and the answer does not depend on it. -/
theorem sampleCondition_declared :
    matchesPolicy sampleCondition (sampleInput "a") = matchesPolicy sampleCondition (sampleInput "b") ∧
      matchesPolicy (.not (dual sampleCondition)) (sampleInput "a") = matchesPolicy sampleCondition (sampleInput "a") ∧
      matchesPolicy (atLeaves true sampleCondition) (sampleInput "a") =
        matchesPolicy sampleCondition (sampleInput "a") := by
  refine matchesPolicy_declared fun fact listed => ?_
  have declared : policyConditionFacts sampleCondition [] = ["source.kind", "length"] := by decide
  rw [declared] at listed
  simp only [List.mem_cons, List.not_mem_nil, or_false] at listed
  rcases listed with rfl | rfl <;> decide

end QuarkSelfAI.Policy

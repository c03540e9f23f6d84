import QuarkSelfAI.Workflow.Host

/-!
# Follow-up evaluations

What a review accepts from its evaluator: updates of tasks, reminders for the owner, and
questions to other people.
-/

namespace QuarkSelfAI.Followup

open Foundation Storage Workflow

structure FollowupReminder where
  taskId : String
  title : String
  urgency : JsValue
  reason : String
  recommendedAction : String
  url : Option String

structure FollowupUpdate where
  taskId : String
  title : String
  summary : String
  changes : List String
  reason : String
  priority : Option Rat
  tags : Option (List String)
  dueDate : Option String
  url : Option String

structure FollowupOutreachInput where
  taskId : String
  title : String
  personName : Option String
  personOpenId : Option String
  question : String
  reason : String
  context : String
  url : Option String

structure FollowupEvaluation where
  updates : List FollowupUpdate
  reminders : List FollowupReminder
  outreachRequests : List FollowupOutreachInput

namespace FollowupEvaluation

/-! ## Checks -/

def record (label : String) : JsValue → Except String JsValue
  | .object members => .ok (.object members)
  | _ => .error s!"{label} must be an object"

def array (label : String) : JsValue → Except String (List JsValue)
  | .array items => .ok items
  | _ => .error s!"{label} must be an array"

def text (label : String) (max : Nat) (value : JsValue) : Except String String :=
  boundedText s!"{label} is required" label max value

def optional (max : Nat) (value : JsValue) : Except String (Option String) :=
  optionalText "optional text is required" "optional text" max value

/-- Check the items of an array under their indices, up to the first refusal. -/
def mapItems {α : Type} (check : JsValue → Nat → Except String α) : List JsValue → Nat → Except String (List α)
  | [], _ => .ok []
  | item :: rest, index => do
    let first ← check item index
    let others ← mapItems check rest (index + 1)
    return first :: others

def validateReminder (host : Host) (value : JsValue) (index : Nat) : Except String FollowupReminder := do
  let item ← record s!"reminder {index}" value
  if host.text (item.get "urgency") ∉ ["low", "medium", "high"] then
    .error s!"invalid followup reminder {index}"
  let url ← optional 2000 (item.get "url")
  let taskId ← text "reminder taskId" 300 (item.get "taskId")
  let title ← text "reminder title" 500 (item.get "title")
  let reason ← text "reminder reason" 2000 (item.get "reason")
  let recommendedAction ← text "recommendedAction" 2000 (item.get "recommendedAction")
  return { taskId, title, urgency := item.get "urgency", reason, recommendedAction, url }

def validateOutreach (value : JsValue) (index : Nat) : Except String FollowupOutreachInput := do
  let item ← record s!"outreach {index}" value
  let personName ← optional 300 (item.get "personName")
  let personOpenId ← optional 300 (item.get "personOpenId")
  if personName.isNone ∧ personOpenId.isNone then .error s!"outreach {index} requires a person"
  let url ← optional 2000 (item.get "url")
  let taskId ← text "outreach taskId" 300 (item.get "taskId")
  let title ← text "outreach title" 500 (item.get "title")
  let question ← text "outreach question" 2000 (item.get "question")
  let reason ← text "outreach reason" 2000 (item.get "reason")
  let context ← text "outreach context" 5000 (item.get "context")
  return { taskId, title, personName, personOpenId, question, reason, context, url }

/-- The priority of an update, as a number. -/
def validatePriority (host : Host) (index : Nat) (value : JsValue) : Except String (Option Rat) :=
  if value = .undefined then .ok none
  else if host.toNumber value ∈ [some 0, some 1, some 3, some 5] then .ok (host.toNumber value)
  else .error s!"update {index} priority is invalid"

def validateTags (index : Nat) (value : JsValue) : Except String (Option (List String)) :=
  if value = .undefined then .ok none
  else do
    let items ← array s!"update {index} tags" value
    let tags ← mapItems (fun tag tagIndex => text s!"update {index} tag {tagIndex}" 100 tag) items 0
    if ¬ tags.Nodup then .error s!"update {index} tags must be unique"
    return some tags

def validateDueDate (host : Host) (index : Nat) (value : JsValue) : Except String (Option String) := do
  let dueDate ← optional 100 value
  if ∃ text ∈ dueDate, host.parseDate text = none then .error s!"update {index} dueDate is invalid"
  return dueDate

def validateFollowupUpdate (host : Host) (value : JsValue) (index : Nat) : Except String FollowupUpdate := do
  let item ← record s!"update {index}" value
  let listed ← array s!"update {index} changes" (item.get "changes")
  let changes ← mapItems (fun change changeIndex => text s!"update {index} change {changeIndex}" 500 change) listed 0
  if changes = [] then .error s!"update {index} must describe a real change"
  let priority ← validatePriority host index (item.get "priority")
  let tags ← validateTags index (item.get "tags")
  let dueDate ← validateDueDate host index (item.get "dueDate")
  let url ← optional 2000 (item.get "url")
  let taskId ← text "update taskId" 300 (item.get "taskId")
  let title ← text "update title" 500 (item.get "title")
  let summary ← text "update summary" 1000 (item.get "summary")
  let reason ← text "update reason" 2000 (item.get "reason")
  return { taskId, title, summary, changes, reason, priority, tags, dueDate, url }

end FollowupEvaluation

open FollowupEvaluation in
def validateFollowupEvaluation (host : Host) (value : JsValue) : Except String FollowupEvaluation := do
  let root ← record "followup evaluation" value
  let listed ← array "updates" (root.get "updates")
  let updates ← mapItems (validateFollowupUpdate host) listed 0
  let listed ← array "reminders" (root.get "reminders")
  let reminders ← mapItems (validateReminder host) listed 0
  let listed ← array "outreachRequests" (root.get "outreachRequests")
  let outreachRequests ← mapItems validateOutreach listed 0
  return { updates, reminders, outreachRequests }

/-! ## Payloads -/

def textItems (texts : List String) : JsValue := .array (texts.map .string)

def FollowupUpdate.payload (update : FollowupUpdate) : JsValue :=
  .object ([("taskId", .string update.taskId), ("title", .string update.title),
      ("summary", .string update.summary), ("changes", textItems update.changes),
      ("reason", .string update.reason)] ++
    JsValue.whenSome "priority" update.priority .number ++ JsValue.whenSome "tags" update.tags textItems ++
    JsValue.whenSome "dueDate" update.dueDate .string ++ JsValue.whenSome "url" update.url .string)

def FollowupOutreachInput.members (item : FollowupOutreachInput) : List (String × JsValue) :=
  [("taskId", .string item.taskId), ("title", .string item.title)] ++
    JsValue.whenSome "personName" item.personName .string ++
    JsValue.whenSome "personOpenId" item.personOpenId .string ++
    [("question", .string item.question), ("reason", .string item.reason),
      ("context", .string item.context)] ++ JsValue.whenSome "url" item.url .string

/-- The person a question goes to, as far as it is known. -/
def FollowupOutreachInput.person (item : FollowupOutreachInput) : String :=
  (item.personOpenId.or item.personName).getD ""

end QuarkSelfAI.Followup

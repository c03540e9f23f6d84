import QuarkSelfAI.Workflow.Host

/-!
# Effect kinds

The capabilities that more than one feature asks for, under their stable names.
-/

namespace QuarkSelfAI.Domain

/-! ## Task store -/

def listActive : String := "task-store.list-active.v1"

def isCompleted : String := "task-store.is-completed.v1"

/-! ## Task projection -/

def upsertIntake : String := "assistant.task-projection.upsert-intake.v1"

def applyFollowupUpdate : String := "assistant.task-projection.apply-followup-update.v1"

def recordResearchResult : String := "assistant.task-projection.record-research-result.v1"

def recordFollowupReply : String := "assistant.task-projection.record-followup-reply.v1"

/-! ## Feishu -/

def loadMessageContext : String := "feishu.load-message-context.v1"

def sendAsUser : String := "feishu.send-as-user.v1"

def resolveContact : String := "feishu.resolve-contact.v1"

/-! ## Conversation and reasoning -/

def dispatchConversation : String := "assistant.conversation.dispatch.v1"

def evaluateFollowups : String := "assistant.followup.evaluate.v1"

end QuarkSelfAI.Domain

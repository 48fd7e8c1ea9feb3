import RollCall.Advice
import RollCall.Text
import RollCall.Value

/-!
# Reading the agent's answers

An answer is a document, or plain text where it is none. Whatever is not understood counts against
approval.
-/

set_option autoImplicit false

namespace RollCall.Advice

/-- The vote in an answer: only the word `yes` approves. -/
def Vote.ofValue (answer : Value) : Vote where
  approve := Text.isWord "yes" (Text.trim ((answer.member "vote").asText?.getD ""))
  reason := (answer.member "reason").asText?.getD ""

def Vote.words (vote : Vote) : String :=
  s!"approve={vote.approve} reason={vote.reason}"

def agentIds (answer : Value) : List String :=
  let entries := (answer.member "agents").items.filter Value.isRecord
  Text.nonEmpty (entries.filterMap fun entry => (entry.member "id").asText?)

end RollCall.Advice

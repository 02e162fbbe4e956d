import ChatFlow.Channel.Endpoint
import ChatFlow.LogSetup
import ChatFlow.Store.Connection
import ChatFlow.Proofs.Contention.Race
import ChatFlow.Proofs.Interpreter.Isolation
import ChatFlow.Proofs.Interpreter.Transparency
import ChatFlow.Proofs.Interpreter.Enduring
import ChatFlow.Proofs.Interpreter.Waiting
import ChatFlow.Proofs.Interpreter.Replying
import ChatFlow.Proofs.Conversation.Rereading
import ChatFlow.Proofs.Interpreter.Survival
import ChatFlow.Proofs.Interpreter.Acknowledging
import ChatFlow.Proofs.Interpreter.Finishing
import ChatFlow.Proofs.Contention.Winning
import ChatFlow.Proofs.Interpreter.Transcript
import ChatFlow.Proofs.Conversation.WritingBack
import ChatFlow.Proofs.Conversation.Tolerance
import ChatFlow.Proofs.Interpreter.Replacing
import ChatFlow.Proofs.Interpreter.Publishing
import ChatFlow.Proofs.Library.Freshness
import ChatFlow.Proofs.Interpreter.OneDocument
import ChatFlow.Proofs.Channel.Accepting
import ChatFlow.Proofs.Interpreter.Expiring
import ChatFlow.Proofs.Interpreter.Counting
import ChatFlow.Proofs.Interpreter.Commuting
import ChatFlow.Proofs.Turn.Looping
import ChatFlow.Proofs.Decimal.Integers
import ChatFlow.Proofs.Behavior.Matching
import ChatFlow.Proofs.Behavior.Offering
import ChatFlow.Proofs.Turn.Forgetting
import ChatFlow.Proofs.Interpreter.Repeating
import ChatFlow.Proofs.Behavior.Calling
import ChatFlow.Proofs.Behavior.Reporting
import ChatFlow.Proofs.Behavior.Coercing
import ChatFlow.Proofs.Interpreter.Recalling
import ChatFlow.Proofs.Behavior.Declaring
import ChatFlow.Proofs.Turn.Completing
import ChatFlow.Proofs.Behavior.Comparing
import ChatFlow.Proofs.Template.Retexting

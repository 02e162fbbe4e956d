import ChatFlow.Schema.Issue
import ChatFlow.Text.Quoted

/-!
Everything that can go wrong, by cause.

Three families meet here. A *mismatch* is an operation on data of the wrong sort or size; a *report*
is a document that does not fit its record; and the service's own failures carry a message and the
status that a request is answered with. Whatever the world outside raises is kept with its name.

`Failure.text` is the wording. The service's own failures are worded as the pair of message and
status, the message in quotes.
-/

namespace ChatFlow

/-- A cause of failure. -/
inductive Failure where
  /-- A text is due and a value of this sort is there. -/
  | textDue (sort : String)
  /-- Several items are due and a value of this sort is there. -/
  | notIterable (sort : String)
  /-- Named entries are due and a value of this sort is there. -/
  | notMapping (sort : String)
  /-- A text pattern is due and another plain value is there. -/
  | patternDue
  /-- A value of this sort cannot be a key. -/
  | unhashable (sort : String)
  /-- A value of this sort has no JSON form. -/
  | notSerializable (sort : String)
  /-- The text is no integer. -/
  | badInteger (numeral : String)
  /-- The text is no number. -/
  | badNumber (numeral : String)
  /-- The numeral has more digits than are read. -/
  | numeralTooLong (digits : Nat)
  /-- The integer has more digits than are written. -/
  | integerTooLong
  /-- No floating-point number is near the integer. -/
  | integerTooLarge
  /-- A repetition count in a pattern is beyond all bounds. -/
  | repetitionTooLarge
  /-- A pattern switches to two character sets at once. -/
  | contradictingSwitches
  /-- A point in time outside the calendar. -/
  | outsideCalendar
  /-- A span of time of too many days. -/
  | spanTooLong (days : Int)
  /-- Points in time with and without an offset have no order. -/
  | unordered
  /-- A setting that does not exist. -/
  | unknownSetting (name : String)
  /-- The store was asked for outside the service's loop. -/
  | noLoop
  /-- A document that does not fit its record. -/
  | invalid (report : Schema.Report)
  /-- The store failed. -/
  | storage (message : String) (status : Int)
  /-- An internal service failed. -/
  | service (message : String)
  /-- Somebody else wrote the session first. -/
  | conflict (conversation : String) (expected : Int)
  /-- A node cannot be executed as configured. -/
  | node (message : String) (nodeId : Option String)
  /-- A failure of the service without a closer cause. -/
  | general (message : String) (status : Int)
  /-- A request answered with this status. -/
  | http (status : Int) (detail : String)
  /-- Raised outside the service. -/
  | foreign (name message : String)
deriving Repr

namespace Failure

/-- The status and message that a failure of the service itself carries. -/
def own? : Failure → Option (String × Int)
  | storage message status => some (message, status)
  | service message => some (message, 500)
  | conflict conversation expected =>
    some ("Session for conversation " ++ conversation ++ " changed since sequence "
      ++ toString expected, 409)
  | node message _ => some (message, 500)
  | general message status => some (message, status)
  | _ => none

/-- The pair of message and status. -/
def pairText (message : String) (status : Int) : String :=
  "(" ++ Text.quoted message ++ ", " ++ toString status ++ ")"

/-- A quoted text cut after so many characters. -/
def quotedUpTo (limit : Nat) (s : String) : String :=
  String.ofList ((Text.quoted s).toList.take limit)

/-- The wording of a failure. -/
def text : Failure → String
  | textDue sort => "expected string or bytes-like object, got '" ++ sort ++ "'"
  | notIterable sort => "'" ++ sort ++ "' object is not iterable"
  | notMapping sort => "'" ++ sort ++ "' object is not a mapping"
  | patternDue => "first argument must be string or compiled pattern"
  | unhashable sort => "unhashable type: '" ++ sort ++ "'"
  | notSerializable sort => "Object of type " ++ sort ++ " is not JSON serializable"
  | badInteger numeral => "invalid literal for int() with base 10: " ++ quotedUpTo 200 numeral
  | badNumber numeral => "could not convert string to float: " ++ Text.quoted numeral
  | numeralTooLong digits =>
    "Exceeds the limit (4300 digits) for integer string conversion: value has " ++ toString digits
      ++ " digits; use sys.set_int_max_str_digits() to increase the limit"
  | integerTooLong =>
    "Exceeds the limit (4300 digits) for integer string conversion; "
      ++ "use sys.set_int_max_str_digits() to increase the limit"
  | integerTooLarge => "int too large to convert to float"
  | repetitionTooLarge => "the repetition number is too large"
  | contradictingSwitches => "ASCII and UNICODE flags are incompatible"
  | outsideCalendar => "date value out of range"
  | spanTooLong days => "days=" ++ toString days ++ "; must have magnitude <= 999999999"
  | unordered => "can't compare offset-naive and offset-aware datetimes"
  | unknownSetting name => "Environment variable " ++ name ++ " not found"
  | noLoop => "No event loop available. Database methods must be called from an async context."
  | invalid report => report.text
  | storage message status => pairText message status
  | service message => pairText message 500
  | conflict conversation expected =>
    pairText ("Session for conversation " ++ conversation ++ " changed since sequence "
      ++ toString expected) 409
  | node message _ => pairText message 500
  | general message status => pairText message status
  | http status detail => toString status ++ ": " ++ detail
  | foreign name message => if name == "KeyError" then Text.quoted message else message

/-- The public name of the sort of failure. -/
def name : Failure → String
  | textDue _ | notIterable _ | notMapping _ | patternDue | unhashable _ | notSerializable _
  | unordered => "TypeError"
  | badInteger _ | badNumber _ | numeralTooLong _ | integerTooLong | unknownSetting _
  | contradictingSwitches => "ValueError"
  | integerTooLarge | repetitionTooLarge | outsideCalendar | spanTooLong _ => "OverflowError"
  | noLoop => "RuntimeError"
  | invalid _ => "ValidationError"
  | storage _ _ => "FlowDBException"
  | service _ => "FlowServiceException"
  | conflict _ _ => "FlowContextConflictException"
  | node _ _ => "NodeExecutionException"
  | general _ _ => "FlowException"
  | http _ _ => "HTTPException"
  | foreign name _ => name

/-- The wording, or the name of the sort of failure if the wording is empty. -/
def textOrName (f : Failure) : String :=
  if f.text.isEmpty then f.name else f.text

end Failure

end ChatFlow

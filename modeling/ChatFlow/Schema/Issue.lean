/-!
What is wrong with a document that does not fit its record.

An `Issue` is a cause and the place where it was found; a `Report` gathers the issues of one document
under the title of the record it should have been, in the order of the record's fields.
-/

namespace ChatFlow

namespace Schema

/-- One step from a document towards one of its parts. -/
inductive Place where
  | name (s : String)
  | index (i : Int)
deriving Repr, DecidableEq

namespace Place

/-- The step as a report writes it. -/
def text : Place → String
  | name s => s
  | index i => toString i

end Place

/-- Why a part of a document does not fit. -/
inductive Cause where
  /-- A field without a default is absent. -/
  | missing
  | notText
  | notDict
  | notList
  | notBool
  /-- A text or a number that stands for neither truth value. -/
  | unreadableBool
  | notInteger
  | unreadableInteger
  | overlongInteger
  /-- A number with a fractional part where an integer is due. -/
  | fractional
  /-- An infinity or the undefined number where an integer is due. -/
  | notFinite
  | notNumber
  | unreadableNumber
  /-- None of the words that are allowed here. -/
  | notOneOf (words : List String)
  /-- No dictionary where a record of this title is due. -/
  | notRecord (title : String)
  /-- No dictionary where a request's record is due. -/
  | notObject
  | notMoment
  | unreadableMoment
  /-- A text that is neither a point in time nor a date. -/
  | unreadableDate
  /-- A request body that is no JSON document. -/
  | brokenJson
deriving Repr, DecidableEq

namespace Cause

/-- The short name of a cause. -/
def code : Cause → String
  | missing => "missing"
  | notText => "string_type"
  | notDict => "dict_type"
  | notList => "list_type"
  | notBool => "bool_type"
  | unreadableBool => "bool_parsing"
  | notInteger => "int_type"
  | unreadableInteger => "int_parsing"
  | overlongInteger => "int_parsing_size"
  | fractional => "int_from_float"
  | notFinite => "finite_number"
  | notNumber => "float_type"
  | unreadableNumber => "float_parsing"
  | notOneOf _ => "literal_error"
  | notRecord _ => "model_type"
  | notObject => "model_attributes_type"
  | notMoment => "datetime_type"
  | unreadableMoment => "datetime_parsing"
  | unreadableDate => "datetime_from_date_parsing"
  | brokenJson => "json_invalid"

/-- Words in quotes, separated by commas and, before the last, by "or". -/
def choices : List String → String
  | [] => ""
  | [w] => "'" ++ w ++ "'"
  | [v, w] => "'" ++ v ++ "' or '" ++ w ++ "'"
  | w :: rest => "'" ++ w ++ "', " ++ choices rest

/-- The sentence that explains a cause. -/
def message : Cause → String
  | missing => "Field required"
  | notText => "Input should be a valid string"
  | notDict => "Input should be a valid dictionary"
  | notList => "Input should be a valid list"
  | notBool => "Input should be a valid boolean"
  | unreadableBool => "Input should be a valid boolean, unable to interpret input"
  | notInteger => "Input should be a valid integer"
  | unreadableInteger => "Input should be a valid integer, unable to parse string as an integer"
  | overlongInteger =>
    "Unable to parse input string as an integer, exceeded maximum size"
  | fractional => "Input should be a valid integer, got a number with a fractional part"
  | notFinite => "Input should be a finite number"
  | notNumber => "Input should be a valid number"
  | unreadableNumber => "Input should be a valid number, unable to parse string as a number"
  | notOneOf words => "Input should be " ++ choices words
  | notRecord title => "Input should be a valid dictionary or instance of " ++ title
  | notObject => "Input should be a valid dictionary or object to extract fields from"
  | notMoment => "Input should be a valid datetime"
  | unreadableMoment => "Input should be a valid datetime"
  | unreadableDate => "Input should be a valid datetime or date"
  | brokenJson => "JSON decode error"

/-- The cause concerns a point in time. -/
def isTemporal : Cause → Bool
  | notMoment | unreadableMoment | unreadableDate => true
  | _ => false

end Cause

/-- A cause and the place where it was found, outermost step first. -/
structure Issue where
  place : List Place
  cause : Cause
deriving Repr, DecidableEq

namespace Issue

/-- The same issue seen from one step further out. -/
def under (step : Place) (i : Issue) : Issue :=
  { i with place := step :: i.place }

/-- The lines of an issue in a report; an issue of the document itself has no line for its place. -/
def lines (i : Issue) : String :=
  let place := if i.place.isEmpty then "" else "\n" ++ ".".intercalate (i.place.map Place.text)
  place ++ "\n  " ++ i.cause.message ++ " [type=" ++ i.cause.code ++ "]"

end Issue

/-- Everything that is wrong with a document that should have been a record of this title. -/
structure Report where
  title : String
  issues : List Issue
deriving Repr, DecidableEq

namespace Report

/-- The report as text: a count, then each issue. -/
def text (r : Report) : String :=
  let n := r.issues.length
  toString n ++ " validation error" ++ (if n == 1 then "" else "s") ++ " for " ++ r.title
    ++ "".intercalate (r.issues.map Issue.lines)

end Report

end Schema

end ChatFlow

/-!
# Errors

Everything that can go wrong with a request, from the first look at the settings to the last byte
of the output, with its wording and its category.
-/

namespace ShopQuery

/-- What a criteria field has to be. -/
inductive FieldType where
  | string
  | number
deriving DecidableEq, Repr

def FieldType.name : FieldType → String
  | .string => "string"
  | .number => "number"

/-- The two bounds of a period. -/
inductive DateField where
  | start
  | finish
deriving DecidableEq, Repr

def DateField.key : DateField → String
  | .start => "startDate"
  | .finish => "endDate"

def DateField.name : DateField → String
  | .start => "start"
  | .finish => "end"

/-- Why a request has no result. -/
inductive Error where
  | missingCriterias
  | wrongCriteriaShape
  | unknownCriteria
  | wrongFieldType (key : String) (expected : FieldType)
  | missingDateField (field : DateField)
  | invalidDateFormat (detail : String)
  | invalidDateRange
  | config (detail : String)
  | read (detail : String)
  | parse (detail : String)
  | connection (detail : String)
  | query (detail : String)
  | write (detail : String)
deriving DecidableEq, Repr

namespace Error

def message : Error → String
  | .missingCriterias => "No criterias"
  | .wrongCriteriaShape => "Wrong criteria format"
  | .unknownCriteria => "Unknown criteria"
  | .wrongFieldType _ expected => s!"Wrong {expected.name} format"
  | .missingDateField field => s!"No {field.name} date"
  | .invalidDateFormat detail => s!"Wrong date format: {detail}"
  | .invalidDateRange => "Start date is greater than end date"
  | .config detail => s!"Configuration error: {detail}"
  | .read detail => s!"Read error: {detail}"
  | .parse detail => s!"Parse error: {detail}"
  | .connection detail => s!"Connection error: {detail}"
  | .query detail => s!"Query error: {detail}"
  | .write detail => s!"Write error: {detail}"

def category : Error → String
  | .missingCriterias | .wrongCriteriaShape | .unknownCriteria | .wrongFieldType _ _ =>
    "Criteria Error"
  | .missingDateField _ | .invalidDateFormat _ | .invalidDateRange => "Date Error"
  | .config _ => "Configuration Error"
  | .read _ => "Read Error"
  | .parse _ => "Parse Error"
  | .connection _ => "Connection Error"
  | .query _ => "Query Error"
  | .write _ => "Write Error"

/-- An error that lies in the request itself. -/
def isValidation : Error → Bool
  | .missingCriterias | .wrongCriteriaShape | .unknownCriteria | .wrongFieldType _ _
  | .missingDateField _ | .invalidDateFormat _ | .invalidDateRange => true
  | _ => false

end Error

end ShopQuery

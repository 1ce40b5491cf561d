import DocQuery.Criteria.Comparison
import DocQuery.Json.Shape
import DocQuery.Value.Display

/-!
# Errors

What can go wrong, by cause.  Each cause belongs to one of eight kinds, and the
wording of all messages stands here.
-/

namespace DocQuery

/-!
# Causes

A fault in a criteria document, in typed criteria that are compiled, or in a
native filter or pipeline that is evaluated.
-/

/-- A value that does not have the type of its attribute. -/
inductive ValueFault where
  | dateText (text : String)
  | date (got : Value)
  | uuidText (text : String)
  | uuid (got : Value)
  deriving DecidableEq

inductive IdentifierFault where
  | text (text : String)
  | value (got : Value)
  deriving DecidableEq

inductive CriteriaFault where
  | clauseShape (got : Value)
  | selectAndOmit
  | negationEmpty
  | negationShape (got : Value)
  | branchesShape (key : String) (got : Value)
  | branchEmpty (key : String)
  | branchShape (key : String) (got : Value)
  | noOperators (field : String)
  | unknownKey (key field : String)
  | keyNeedsList (key field : String)
  | keyNeedsText (key field : String)
  | direction (got : Value) (field : String)
  | sortWord (extra : String)
  | sortShape (got : Value)
  | amount (key : String) (got : Value)
  | fieldName (key : String) (got : Value)
  | fieldList (key : String) (got : Value)
  | countFlag (got : Value)
  | outputTwice (output : String)
  | noOperands
  | needsList (comparison : Comparison) (field : String) (got : Value)
  | needsText (comparison : Comparison) (field : String) (got : Value)
  | operand (fault : ValueFault)
  | topLevelOperator (name : String)
  | branchList (got : Value)
  | negationOperand (got : Value)
  | operator (name : String)
  | membershipList (got : Value)
  | patternShape (got : Value)
  | pattern (pattern : String)
  | stageShape (stage : Document)
  | stage (name : String)
  | stageAmount (got : Value)
  | accumulator (name : String)
  | groupWithoutKey
  | accumulatorShape (output : String) (got : Value)
  deriving DecidableEq

inductive StorageFault where
  | duplicateId (collection : String) (id : Value)
  | duplicateKey (collection index : String)
  | unacknowledged (operation : String)
  | notReadBack
  /-- A failure that a backend reports in its own words. -/
  | reported (text : String)
  deriving DecidableEq

/-- A text that is not JSON, or does not have the shape that was asked for. -/
inductive TextFault where
  | notJson
  | shape (fault : ShapeFault)

inductive DefinitionFault where
  | noIdentity
  | text (fault : TextFault)

inductive ConnectionFault where
  | noDatabaseForCredentials
  | noDatabase
  | address (text : String)
  /-- Options that do not go together. -/
  | options
  deriving DecidableEq

inductive Error where
  | criteria (fault : CriteriaFault)
  | identifier (fault : IdentifierFault)
  | notRegistered (identity : String)
  | storage (fault : StorageFault)
  | definition (fault : DefinitionFault)
  | document (fault : ValueFault)
  | settings (fault : TextFault)
  | connection (fault : ConnectionFault)

inductive ErrorKind where
  | invalidCriteria
  | invalidIdentifier
  | notFound
  | storage
  | invalidDefinition
  | invalidDocument
  | serialization
  | initialization
  deriving DecidableEq, Repr

/-!
# Wording
-/

def apostrophed (text : String) : String :=
  "'" ++ text ++ "'"

def ValueFault.message : ValueFault → String
  | dateText text => apostrophed text ++ " is not a valid date"
  | date got => got.shown ++ " is not a valid date"
  | uuidText text => apostrophed text ++ " is not a valid uuid"
  | uuid got => got.shown ++ " is not a valid uuid"

def IdentifierFault.message : IdentifierFault → String
  | text written => apostrophed written ++ " is not a valid identifier"
  | value got => got.shown ++ " cannot be used as an identifier"

def CriteriaFault.message : CriteriaFault → String
  | clauseShape got => "where must be a document, got " ++ got.shown
  | selectAndOmit => "select and omit cannot be combined"
  | negationEmpty => "not requires a non-empty clause"
  | negationShape got => "not requires a clause, got " ++ got.shown
  | branchesShape key got => key ++ " requires a non-empty list of clauses, got " ++ got.shown
  | branchEmpty key => key ++ " contains an empty clause"
  | branchShape key got => key ++ " branches must be clauses, got " ++ got.shown
  | noOperators field => "empty operator list for " ++ apostrophed field
  | unknownKey key field => "unknown operator " ++ apostrophed key ++ " on " ++ apostrophed field
  | keyNeedsList key field => apostrophed key ++ " on " ++ apostrophed field ++ " requires a list"
  | keyNeedsText key field =>
      apostrophed key ++ " on " ++ apostrophed field ++ " requires a string"
  | direction got field =>
      "invalid sort direction " ++ got.shown ++ " for " ++ apostrophed field
  | sortWord extra => "unexpected " ++ apostrophed extra ++ " in sort"
  | sortShape got => "invalid sort " ++ got.shown
  | amount key got => key ++ " must be a non-negative integer, got " ++ got.shown
  | fieldName key got => key ++ " entries must be field names, got " ++ got.shown
  | fieldList key got => key ++ " must be a field name or list, got " ++ got.shown
  | countFlag got => "count must be a boolean, got " ++ got.shown
  | outputTwice output =>
      "aggregate output " ++ apostrophed output ++ " is requested more than once"
  | noOperands => "logical combinator without operands"
  | needsList comparison field got =>
      comparison.name ++ " on " ++ apostrophed field ++ " requires a list, got " ++ got.shown
  | needsText comparison field got =>
      comparison.name ++ " on " ++ apostrophed field ++ " requires a string, got " ++ got.shown
  | operand fault => fault.message
  | topLevelOperator name => "unsupported top-level operator " ++ apostrophed name
  | branchList got => "logical operator requires a list, got " ++ got.shown
  | negationOperand got => "$not requires an operator document, got " ++ got.shown
  | operator name => "unsupported operator " ++ apostrophed name
  | membershipList got => "$in/$nin require a list, got " ++ got.shown
  | patternShape got => "$regex requires a pattern, got " ++ got.shown
  | pattern text => "invalid regex " ++ apostrophed text
  | stageShape got => "pipeline stage must have exactly one operator: " ++ got.shown
  | stage name => "unsupported pipeline stage " ++ apostrophed name
  | stageAmount got => "expected a non-negative count, got " ++ got.shown
  | accumulator name => "unsupported accumulator " ++ apostrophed name
  | groupWithoutKey => "$group requires an _id expression"
  | accumulatorShape output got =>
      "invalid accumulator for " ++ apostrophed output ++ ": " ++ got.shown

def StorageFault.message : StorageFault → String
  | duplicateId collection id => "duplicate key in " ++ collection ++ ": _id " ++ id.shown
  | duplicateKey collection index => "duplicate key in " ++ collection ++ " for index " ++ index
  | unacknowledged operation => operation ++ " was not acknowledged by the store"
  | notReadBack => "inserted document could not be read back"
  | reported words => words

def TextFault.message : TextFault → String
  | notJson => "the text is not JSON"
  | shape fault => fault.message

def DefinitionFault.message : DefinitionFault → String
  | noIdentity => "collection definition has no identity"
  | text fault => fault.message

def ConnectionFault.message : ConnectionFault → String
  | noDatabaseForCredentials => "a database is required when authentication is used"
  | noDatabase => "no database was configured"
  | address text => apostrophed text ++ " is not the address of a server"
  | options => "the options of the connection do not go together"

/-!
# Kinds
-/

namespace ErrorKind

def name : ErrorKind → String
  | invalidCriteria => "InvalidCriteria"
  | invalidIdentifier => "InvalidIdentifier"
  | notFound => "NotFound"
  | storage => "Storage"
  | invalidDefinition => "InvalidDefinition"
  | invalidDocument => "InvalidDocument"
  | serialization => "Serialization"
  | initialization => "Initialization"

def heading : ErrorKind → String
  | invalidCriteria => "Invalid criteria"
  | invalidIdentifier => "Invalid identifier"
  | notFound => "Not found"
  | storage => "Storage error"
  | invalidDefinition => "Invalid definition"
  | invalidDocument => "Invalid document"
  | serialization => "Serialization error"
  | initialization => "Initialization error"

end ErrorKind

namespace Error

def kind : Error → ErrorKind
  | criteria _ => .invalidCriteria
  | identifier _ => .invalidIdentifier
  | notRegistered _ => .notFound
  | storage _ => .storage
  | definition _ => .invalidDefinition
  | document _ => .invalidDocument
  | settings _ => .serialization
  | connection _ => .initialization

def detail : Error → String
  | criteria fault => fault.message
  | identifier fault => fault.message
  | notRegistered identity => "collection " ++ apostrophed identity ++ " is not registered"
  | storage fault => fault.message
  | definition fault => fault.message
  | document fault => fault.message
  | settings fault => fault.message
  | connection fault => fault.message

def message (e : Error) : String :=
  e.kind.heading ++ ": " ++ e.detail

end Error
end DocQuery

import SqlCompose.Dialect

/-!
# Errors

What can go wrong while a statement is composed, a date is read or a schema is looked at, as causes;
`QueryError.message` is the one place where causes become text.
-/

namespace SqlCompose

/-- What a lookup finds wrong with its operand. -/
inductive OperandFault where
  | notText
  | notPattern
  | notScalarOrQuery
  | listOfValues
  | notFlag
  | notPair
  deriving DecidableEq

/-- What was expected of the operand. -/
def OperandFault.reason : OperandFault → String
  | .notText => "expected a text value"
  | .notPattern => "expected a pattern"
  | .notScalarOrQuery => "expected a non-null scalar or a sub-query"
  | .listOfValues => "expected a scalar or a sub-query, got a list"
  | .notFlag => "expected a boolean"
  | .notPair => "expected a list of two values"

/-- What a dialect may lack. -/
inductive Feature where
  | fullJoin
  | cascadingDrop
  | columnChange
  | primaryKeyAddition
  | primaryKeyRemoval
  | foreignKeyAddition
  | foreignKeyRemoval
  deriving DecidableEq

/-- The name of a feature. -/
def Feature.name : Feature → String
  | .fullJoin => "FULL JOIN"
  | .cascadingDrop => "DROP TABLE ... CASCADE"
  | .columnChange => "altering columns"
  | .primaryKeyAddition => "adding a primary key to an existing table"
  | .primaryKeyRemoval => "dropping a primary key"
  | .foreignKeyAddition => "adding a foreign key to an existing table"
  | .foreignKeyRemoval => "dropping a foreign key"

/-- What is wrong with a filter. -/
inductive FilterFault where
  /-- The document is a scalar with the given text. -/
  | notAGroup (document : String)
  /-- The value under a key is neither a scalar nor a list of scalars. -/
  | nestedValue (key : String)
  | unknownJoin (text : String)
  | conditionOnCrossJoin
  | listAssigned (column : String)
  deriving DecidableEq

/-- The fault in words. -/
def FilterFault.message : FilterFault → String
  | .notAGroup document => "expected an object or array, got " ++ document
  | .nestedValue key => "nested value for '" ++ key ++ "' is not a scalar"
  | .unknownJoin text => "unknown join type '" ++ text ++ "'"
  | .conditionOnCrossJoin => "CROSS JOIN takes no ON condition"
  | .listAssigned column => "cannot assign a list to column '" ++ column ++ "'"

/-- What a statement lacks. -/
inductive StatementFault where
  | noColumns (table : String)
  | unionWithoutSelect
  | deleteWithoutTable
  | insertWithoutRows (table : String)
  | rowLength (table : String) (columns values : Nat)
  | nothingToSet (table : String)
  | noDriver (dialect : Dialect)
  deriving DecidableEq

/-- The fault in words. -/
def StatementFault.message : StatementFault → String
  | .noColumns table => "table '" ++ table ++ "' has no columns"
  | .unionWithoutSelect => "UNION is only valid between SELECT statements"
  | .deleteWithoutTable => "DELETE needs a table in FROM"
  | .insertWithoutRows table => "INSERT INTO " ++ table ++ " needs columns and at least one row"
  | .rowLength table columns values =>
    "INSERT INTO " ++ table ++ " has " ++ toString columns ++ " columns but a row of "
      ++ toString values ++ " values"
  | .nothingToSet table => "UPDATE " ++ table ++ " has nothing to set"
  | .noDriver dialect => dialect.name ++ " adapter has no driver to reflect through"

/-- Why a statement, a date or a schema cannot be had. -/
inductive QueryError where
  /-- A condition names an operator that the adapter does not know. -/
  | unknownLookup (field lookup : String)
  /-- A lookup has an operand that it cannot write. -/
  | invalidOperand (lookup : String) (fault : OperandFault)
  | notSupported (dialect : Dialect) (feature : Feature)
  /-- No dialect has the given name. -/
  | unknownSource (name : String)
  | invalidDate (text : String)
  | invalidFilter (fault : FilterFault)
  | incomplete (fault : StatementFault)
  /-- The database answers with an error. -/
  | driver (message : String)
  deriving DecidableEq

namespace QueryError

/-- The error in words. -/
def message : QueryError → String
  | .unknownLookup field lookup =>
    "Unknown lookup '" ++ lookup ++ "' for field '" ++ field ++ "'"
  | .invalidOperand lookup fault =>
    "Invalid value for lookup '" ++ lookup ++ "': " ++ fault.reason
  | .notSupported dialect feature => dialect.name ++ " does not support " ++ feature.name
  | .unknownSource name => "Unknown data source: " ++ name
  | .invalidDate text => "Invalid date value: " ++ text
  | .invalidFilter fault => "Invalid filter: " ++ fault.message
  | .incomplete fault => "Incomplete statement: " ++ fault.message
  | .driver message => "Driver error: " ++ message

/-- Whether a lookup is at fault. -/
def isLookupError : QueryError → Bool
  | .unknownLookup _ _ => true
  | .invalidOperand _ _ => true
  | _ => false

end QueryError

end SqlCompose

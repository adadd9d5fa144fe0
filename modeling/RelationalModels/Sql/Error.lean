import RelationalModels.Text.Shown

/-!
# Errors of the database layer

What can go wrong between a description of a table or query and its execution. `SqlError.name` is
the name of the kind of error, by which wrapped errors remember their cause.
-/

namespace RelationalModels.Sql

inductive ConstraintKind where
  | primaryKey
  | foreignKey
  deriving DecidableEq

def ConstraintKind.name : ConstraintKind → String
  | primaryKey => "PrimaryKeyConstraint"
  | foreignKey => "ForeignKeyConstraint"

def maxIdentifierLength : Nat := 9999

inductive SqlError where
  | duplicateColumn (table column : String)
  | missingColumn (kind : ConstraintKind) (table column : String)
  | unnamedColumn
  | missingTargetColumn (table reference targetTable targetColumn : String)
  | missingTargetTable (table column targetTable targetColumn : String)
  | overlongIdentifier (name : String)
  | unreadableStatement
  | operational (connectionLost : Bool) (text : String)
  | integrity (text : String)
  | disconnected (text : String)
  | general (text : String)
  | other (kind : String) (connectionLost : Bool) (text : String)
  deriving DecidableEq

namespace SqlError

def name : SqlError → String
  | duplicateColumn _ _ => "DuplicateColumnError"
  | missingColumn _ _ _ => "ConstraintColumnNotFoundError"
  | unnamedColumn => "ArgumentError"
  | missingTargetColumn _ _ _ _ => "NoReferencedColumnError"
  | missingTargetTable _ _ _ _ => "NoReferencedTableError"
  | overlongIdentifier _ => "IdentifierError"
  | unreadableStatement => "ProgrammingError"
  | operational _ _ => "OperationalError"
  | integrity _ => "IntegrityError"
  | disconnected _ => "DisconnectionError"
  | general _ => "SQLAlchemyError"
  | other kind _ _ => kind

def message : SqlError → String
  | duplicateColumn table column =>
    "A column with name '" ++ column ++ "' is already present in table '" ++ table ++ "'."
  | missingColumn kind table column =>
    "Can't create " ++ kind.name ++ " on table '" ++ table ++ "': no column named '" ++ column ++
      "' is present."
  | unnamedColumn =>
    "Column must be constructed with a non-blank name or assign a non-blank .name " ++
      "before adding to a Table."
  | missingTargetColumn table reference targetTable targetColumn =>
    "Could not initialize target column for ForeignKey " ++ Text.shown reference ++
      " on table '" ++ table ++ "': table '" ++ targetTable ++ "' has no column named '" ++ targetColumn ++ "'"
  | missingTargetTable table column targetTable targetColumn =>
    "Foreign key associated with column '" ++ table ++ "." ++ column ++
      "' could not find table '" ++ targetTable ++
      "' with which to generate a foreign key to target column '" ++ targetColumn ++ "'"
  | overlongIdentifier name =>
    "Identifier '" ++ name ++ "' exceeds maximum length of " ++ toString maxIdentifierLength ++
      " characters"
  | unreadableStatement => "the query contains a null character"
  | operational _ text => text
  | integrity text => text
  | disconnected text => text
  | general text => text
  | other _ _ text => text

def isTransient : SqlError → Bool
  | disconnected _ => true
  | operational connectionLost _ => connectionLost
  | other _ connectionLost _ => connectionLost
  | _ => false

end SqlError

end RelationalModels.Sql

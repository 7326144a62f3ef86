import Findings.Text.Quoted

/-!
# Errors

Every way in which an operation can fail, by its cause, and the sentence that tells of it.
-/
namespace Findings

/-- Why fusion parameters are refused. -/
inductive FusionFault where
  | weights
  | constant
  deriving DecidableEq, Repr

def FusionFault.message : FusionFault → String
  | .weights => "Invalid weight configuration: weights must be positive"
  | .constant => "Invalid RRF constant: k must be positive"

/-- Why a finding is refused. -/
inductive FindingFault where
  | blankSession
  | blankContent
  | otherSession (actual expected : String)
  | missing (id : Int)
  | unknownKind (name : String)
  | unknownSeverity (name : String)
  deriving DecidableEq, Repr

def FindingFault.message : FindingFault → String
  | .blankSession => "Session id cannot be empty"
  | .blankContent => "Finding content cannot be empty"
  | .otherSession actual expected =>
    s!"Finding belongs to session '{actual}', expected '{expected}'"
  | .missing id => s!"Finding {id} does not exist"
  | .unknownKind name => s!"Unknown finding type '{name}'"
  | .unknownSeverity name => s!"Unknown severity '{name}'"

/-- Why a statement on the tables fails. -/
inductive TableFault where
  /-- The named table does not exist. -/
  | noTable (name : String)
  /-- No id is left. -/
  | full
  /-- A column that must have a value has none. -/
  | notNull (column : String)
  /-- A column has a value that its check refuses. -/
  | check (condition : String)
  /-- A finding names a session that does not exist. -/
  | foreignKey
  /-- A finding with the id exists. -/
  | duplicateFinding
  /-- An embedding with the id exists. -/
  | duplicateEmbedding
  /-- A vector to be stored has the wrong length. -/
  | storedLength (expected actual : Nat)
  /-- A vector to be stored is empty. -/
  | emptyStored
  /-- The vector of a nearest-neighbour query has the wrong length. -/
  | queryLength (expected actual : Nat)
  /-- The vector of a nearest-neighbour query is empty. -/
  | emptyQuery
  /-- The vectors of a distance have different lengths. -/
  | distanceLength (first second : Nat)
  /-- The second vector of a distance is empty. -/
  | emptyDistance
  /-- A distance in the result is not a number. -/
  | noDistance
  /-- The vectors of a table would be too long. -/
  | dimensionLimit (provided : Nat)
  /-- A quoted word of a query does not end. -/
  | unterminatedText
  /-- A query has operators or signs. -/
  | querySyntax
  /-- A lookup names too many ids. -/
  | tooManyIds
  /-- There is no such row. -/
  | noRow
  /-- A stored text does not spell a value of its column. -/
  | unreadable
  deriving DecidableEq, Repr

/-- The longest vectors that a table can hold. -/
def maxDimension : Nat := 8192

def TableFault.message : TableFault → String
  | .noTable name => s!"no such table: {name}"
  | .full => "database or disk is full"
  | .notNull column => s!"NOT NULL constraint failed: findings.{column}"
  | .check condition => s!"CHECK constraint failed: {condition}"
  | .foreignKey => "FOREIGN KEY constraint failed"
  | .duplicateFinding => "UNIQUE constraint failed: findings.id"
  | .duplicateEmbedding => "UNIQUE constraint failed on finding_embeddings primary key"
  | .storedLength expected actual =>
    "Dimension mismatch for inserted vector for the \"embedding\" column. " ++
      s!"Expected {expected} dimensions but received {actual}."
  | .emptyStored =>
    "Inserted vector for the \"embedding\" column is invalid: " ++
      "zero-length vectors are not supported."
  | .queryLength expected actual =>
    "Dimension mismatch for query vector for the \"embedding\" column. " ++
      s!"Expected {expected} dimensions but received {actual}."
  | .emptyQuery =>
    "Query vector on the \"embedding\" column is invalid: zero-length vectors are not supported."
  | .distanceLength first second =>
    s!"Vector dimension mistmatch. First vector has {first} dimensions, " ++
      s!"while the second has {second} dimensions."
  | .emptyDistance => "Error reading 2nd vector: zero-length vectors are not supported."
  | .noDistance => "Invalid column type Null at index: 1, name: distance"
  | .dimensionLimit provided =>
    "vec0 constructor error: Dimension on vector column too large, " ++
      s!"provided {provided}, maximum {maxDimension}"
  | .unterminatedText => "unterminated string"
  | .querySyntax => "fts5: syntax error"
  | .tooManyIds => "too many SQL variables"
  | .noRow => "Query returned no rows"
  | .unreadable => "Conversion error"

/-- Why a file cannot be used. -/
inductive FileFault where
  | missing
  | exists
  | notDirectory
  | isDirectory
  | notText
  | zeroInName
  | nameTooLong
  deriving DecidableEq, Repr

def FileFault.message : FileFault → String
  | .missing => "No such file or directory (os error 2)"
  | .exists => "File exists (os error 17)"
  | .notDirectory => "Not a directory (os error 20)"
  | .isDirectory => "Is a directory (os error 21)"
  | .notText => "stream did not contain valid UTF-8"
  | .zeroInName => "file name contained an unexpected NUL byte"
  | .nameTooLong => "File name too long (os error 36)"

/-- What was to be done with a file. -/
inductive FileTask where
  | createDatabaseDirectory (path : String)
  | createConfigDirectory (path : String)
  | readConfig (path : String)
  | writeConfig (path : String)
  | readFindings (path : String)
  deriving DecidableEq, Repr

def FileTask.message : FileTask → String
  | .createDatabaseDirectory path =>
    "Failed to create database directory: " ++ Text.quotedPath path
  | .createConfigDirectory path => "Failed to create config directory: " ++ Text.quotedPath path
  | .readConfig path => "Failed to read config file: " ++ Text.quotedPath path
  | .writeConfig path => "Failed to write config file: " ++ Text.quotedPath path
  | .readFindings path => "Failed to read findings file: " ++ path

/-- A rule of the configuration that is violated, and where. -/
structure Violation where
  path : String
  message : String
  deriving DecidableEq, Repr

/-- A violation between its field names. -/
def Violation.shown (v : Violation) : String :=
  "ValidationError \x7b path: " ++ Text.quoted v.path ++ ", message: " ++ Text.quoted v.message ++
    " \x7d"

/-- Why a configuration cannot be had. -/
inductive SettingFault where
  | zeroDimension
  | noConfigDirectory
  | noDataDirectory
  | configExists (path : String)
  deriving DecidableEq, Repr

def SettingFault.message : SettingFault → String
  | .zeroDimension => "Embedding dimension must be greater than 0"
  | .noConfigDirectory => "Cannot determine config directory"
  | .noDataDirectory => "Cannot determine data directory"
  | .configExists path => s!"Config already exists at {path} (use --force to overwrite)"

/-- Why there is no embedding. -/
inductive EmbeddingFault where
  | initialization (reason : String)
  | generation (reason : String)
  | input (reason : String)
  | dimension (expected actual : Nat)
  deriving DecidableEq, Repr

def EmbeddingFault.message : EmbeddingFault → String
  | .initialization reason => s!"Model initialization failed: {reason}"
  | .generation reason => s!"Embedding generation failed: {reason}"
  | .input reason => s!"Invalid input: {reason}"
  | .dimension expected actual => s!"Dimension mismatch: expected {expected}, got {actual}"

/-- An error of an operation. -/
inductive Error where
  | setting (fault : SettingFault)
  | invalidConfig (violations : List Violation)
  | configMissing (path : String)
  | file (task : FileTask) (fault : FileFault)
  | configSyntax
  | configTooLarge
  | findingsSyntax (path : String)
  | table (fault : TableFault)
  | connection
  | schemaMissing (path : String)
  | dimension (expected actual : Nat)
  | fusion (fault : FusionFault)
  | finding (fault : FindingFault)
  | embedding (reason : String)
  deriving DecidableEq, Repr

/-- The error of an embedding that could not be had. -/
def EmbeddingFault.error : EmbeddingFault → Error
  | .dimension expected actual => .dimension expected actual
  | fault => .embedding fault.message

namespace Error

def message : Error → String
  | .setting fault => "Configuration error: " ++ fault.message
  | .invalidConfig violations =>
    "Configuration validation failed: [" ++
      String.intercalate ", " (violations.map Violation.shown) ++ "]"
  | .configMissing path => "Configuration file not found: " ++ path
  | .file task fault => "IO error: " ++ task.message ++ ": " ++ fault.message
  | .configSyntax => "TOML error"
  | .configTooLarge => "TOML serialization error"
  | .findingsSyntax path => "JSON error: Failed to parse findings file: " ++ path
  | .table .tooManyIds => TableFault.tooManyIds.message
  | .table fault => "Database error: " ++ fault.message
  | .connection => "Connection pool error"
  | .schemaMissing path => "Schema has not been applied to " ++ path
  | .dimension expected actual =>
    s!"Embedding dimension mismatch: expected {expected}, got {actual}"
  | .fusion fault => "Invalid fusion configuration: " ++ fault.message
  | .finding fault => "Invalid finding: " ++ fault.message
  | .embedding reason => "Embedding error: " ++ reason

/-- Whether the error tells of a wrong set-up, so that no search can succeed. -/
def isConfigurationFatal : Error → Bool
  | .schemaMissing _ => true
  | .dimension _ _ => true
  | .fusion _ => true
  | _ => false

end Error

end Findings

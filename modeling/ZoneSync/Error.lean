namespace ZoneSync

/-!
# Errors

* `FileError` — why a file cannot be read as text;
* `Error` — what the operations of the library fail with, and its wording.

Faults of a record are no errors in this sense: they are collected in the report on a document.
-/

/-- Why a file cannot be read as text. -/
inductive FileError where
  | missing
  | isDirectory
  | notUtf8
  /-- Any other fault, in the words of the system. -/
  | other (text : String)
  deriving DecidableEq, Repr

/-- The wording of a file error. -/
def FileError.message : FileError → String
  | .missing => "No such file or directory (os error 2)"
  | .isDirectory => "Is a directory (os error 21)"
  | .notUtf8 => "stream did not contain valid UTF-8"
  | .other text => text

/-- What an operation fails with. -/
inductive Error where
  /-- The document cannot be used at all. -/
  | document (message : String)
  | config (message : String)
  | io (cause : FileError)
  /-- A text is no JSON, or not the JSON that is asked for. -/
  | json (message : String)
  /-- A text is no YAML, or not the YAML that is asked for. -/
  | yaml (message : String)
  /-- A provider cannot be reached. -/
  | http (message : String)
  | authentication (message : String)
  | rateLimited (message : String)
  | notFound (message : String)
  /-- A provider refuses a request. -/
  | provider (name message : String)
  deriving DecidableEq, Repr

namespace Error

/-- The wording of an error. -/
def message : Error → String
  | document m => "Document error: " ++ m
  | config m => "Configuration error: " ++ m
  | io cause => "I/O error: " ++ cause.message
  | json m => "JSON error: " ++ m
  | yaml m => "YAML error: " ++ m
  | http m => "HTTP error: " ++ m
  | authentication m => "Authentication failed: " ++ m
  | rateLimited m => "Rate limited: " ++ m
  | notFound m => "Record not found: " ++ m
  | provider name m => "Provider error (" ++ name ++ "): " ++ m

instance : ToString Error := ⟨message⟩

/-- The wording of an error, with that of its cause once more if it has one. -/
def chain (e : Error) : String :=
  match e with
  | io cause => e.message ++ ": " ++ cause.message
  | json m | yaml m => e.message ++ ": " ++ m
  | _ => e.message

end Error

end ZoneSync

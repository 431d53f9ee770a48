namespace ZoneSync.Yaml

/-!
# Faults of YAML texts

* `Fault` — why a text cannot be read, or cannot be read as what is asked for;
* `Fault.message` — its wording.
-/

/-- Why a YAML text cannot be read. -/
inductive Fault where
  /-- A character that no YAML text may hold. -/
  | forbiddenCharacter
  /-- A character that begins no token. -/
  | strayCharacter
  /-- A tab where indentation is expected. -/
  | tabIndent
  /-- A key without its colon. -/
  | missingColon
  /-- An entry, key or value where none may stand. -/
  | misplaced
  /-- A quote that is not closed, or that a document marker cuts. -/
  | openQuote
  /-- An escape that is not known, or of a code that is no character. -/
  | badEscape
  | badDirective
  | badAnchor
  | badTag
  /-- The head of a block scalar. -/
  | badBlockHead
  /-- A colon next to a flow indicator. -/
  | badColon
  /-- A token where a node is expected. -/
  | missingNode
  /-- A collection whose next entry or end is missing. -/
  | openCollection
  /-- A second document, or no beginning of one. -/
  | extraDocument
  | unknownAlias
  | tooManyAliases
  | tooDeep
  | duplicateKey
  /-- A node of another kind than the one asked for. -/
  | wrongKind (expected : String)
  deriving DecidableEq, Repr

/-- The wording of a fault. -/
def Fault.message : Fault → String
  | forbiddenCharacter => "control characters are not allowed"
  | strayCharacter => "found character that cannot start any token"
  | tabIndent => "found a tab character where an indentation space is expected"
  | missingColon => "could not find expected ':'"
  | misplaced => "block entries and mapping keys are not allowed in this context"
  | openQuote => "found unexpected end of a quoted scalar"
  | badEscape => "found unknown escape character"
  | badDirective => "found a malformed or unknown directive"
  | badAnchor => "did not find expected alphabetic or numeric character"
  | badTag => "did not find expected tag"
  | badBlockHead => "did not find expected comment or line break"
  | badColon => "found unexpected ':'"
  | missingNode => "did not find expected node content"
  | openCollection => "did not find expected end of a collection"
  | extraDocument => "deserializing from YAML containing more than one document is not supported"
  | unknownAlias => "unknown anchor"
  | tooManyAliases => "repetition limit exceeded"
  | tooDeep => "recursion limit exceeded"
  | duplicateKey => "duplicate entry"
  | wrongKind expected => "invalid type, expected " ++ expected

end ZoneSync.Yaml

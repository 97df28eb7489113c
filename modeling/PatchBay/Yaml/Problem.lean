/-!
# What can be wrong with a YAML text
-/

namespace PatchBay.Yaml

/-- Why a text is no single YAML document. -/
inductive Problem where
  /-- A character that may not stand in a text. -/
  | forbiddenCharacter
  /-- A character that nothing can start with. -/
  | strayCharacter
  /-- A tab where spaces have to indent. -/
  | tabIndentation
  /-- A quoted scalar that does not end. -/
  | unterminatedQuote
  /-- A backslash that is not followed by an escape. -/
  | unknownEscape
  /-- A marker between documents inside a quoted scalar. -/
  | markerInQuote
  /-- A colon in a flow collection that belongs to nothing. -/
  | strayColon
  /-- Something after the sign of a block scalar that does not belong there. -/
  | blockHeader
  /-- An anchor or alias without a name. -/
  | anchorName
  /-- A tag that is not well formed, or whose handle is not declared. -/
  | tagForm
  /-- A directive that is not well formed. -/
  | directiveForm
  /-- A key without its colon. -/
  | missingColon
  /-- A key, a value or an entry where there can be none. -/
  | misplaced
  /-- A token that does not fit in. -/
  | unexpectedToken
  /-- An alias of something that is not there. -/
  | unknownAnchor
  /-- Too many aliases to follow. -/
  | tooManyAliases
  /-- More than one document. -/
  | moreDocuments
  /-- Collections inside one another without end. -/
  | tooDeep
deriving Repr, DecidableEq

/-- The problem as it is told to a person. -/
def Problem.message : Problem → String
  | .forbiddenCharacter => "control characters are not allowed"
  | .strayCharacter => "found character that cannot start any token"
  | .tabIndentation => "found a tab character that violates indentation"
  | .unterminatedQuote => "found unexpected end of stream"
  | .unknownEscape => "found unknown escape character"
  | .markerInQuote => "found unexpected document indicator"
  | .strayColon => "found unexpected ':'"
  | .blockHeader => "did not find expected comment or line break"
  | .anchorName => "did not find expected alphabetic or numeric character"
  | .tagForm => "did not find expected tag"
  | .directiveForm => "found unknown directive name"
  | .missingColon => "could not find expected ':'"
  | .misplaced => "mapping values are not allowed in this context"
  | .unexpectedToken => "did not find expected node content"
  | .unknownAnchor => "unknown anchor"
  | .tooManyAliases => "repetition limit exceeded"
  | .moreDocuments => "deserializing from YAML containing more than one document is not supported"
  | .tooDeep => "recursion limit exceeded"

end PatchBay.Yaml

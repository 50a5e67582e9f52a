import LicenseHeader.FileTree.Basic

/-!
# Faults of a configuration

Every way in which a configuration, a style document or a mapping can be wrong, and the wording of
each.
-/

namespace LicenseHeader

/-- What is wrong with the definition of a style. -/
inductive StyleFault where
  /-- Blank lines are allowed, but the header is not one block. -/
  | blankLinesOutsideBlock
  /-- The pattern of the first or of the last line is missing. -/
  | missingDetection
  deriving DecidableEq, Repr

def StyleFault.message : StyleFault → Text
  | blankLinesOutsideBlock => "allowBlankLines requires multipleLines".toList
  | missingDetection =>
    "both firstLineDetectionPattern and lastLineDetectionPattern are required".toList

inductive ConfigError where
  /-- The file cannot be read. -/
  | unreadable (path : Path) (cause : FileError)
  /-- The file is no TOML document of the right shape. -/
  | malformed (path : Path)
  | invalidStyle (style : Text) (fault : StyleFault)
  /-- A pattern of a style is no regular expression. -/
  | invalidRegex (style pattern : Text)
  /-- An include pattern is reversed. -/
  | negatedInclude (pattern : Text)
  /-- A file name or extension is given to two styles. -/
  | conflictingMapping (key first second : Text)
  | unknownStyle (style key : Text)
  | missingHeader
  | invalidBaseDir (path : Path)
  /-- A property is an array or a table. -/
  | invalidProperty (key : Text)
  deriving DecidableEq, Repr

namespace ConfigError

/-- The wording of a fault.  The reason why a document or a pattern is malformed is left out. -/
def message : ConfigError → Text
  | unreadable path cause =>
    "Failed to read config file '".toList ++ path.text ++ "': ".toList ++ cause.message
  | malformed path => "Failed to parse config file '".toList ++ path.text ++ "'".toList
  | invalidStyle style fault =>
    "Invalid header style '".toList ++ style ++ "': ".toList ++ fault.message
  | invalidRegex style pattern =>
    "Invalid pattern '".toList ++ pattern ++ "' in header style '".toList ++ style ++ "'".toList
  | negatedInclude pattern =>
    "Include pattern '".toList ++ pattern ++ "' cannot be negated".toList
  | conflictingMapping key first second =>
    "'".toList ++ key ++ "' is mapped to both '".toList ++ first ++ "' and '".toList ++ second
      ++ "'".toList
  | unknownStyle style key =>
    "'".toList ++ key ++ "' is mapped to unknown header style '".toList ++ style ++ "'".toList
  | missingHeader => "No header configured: set either inlineHeader or headerPath".toList
  | invalidBaseDir path =>
    "Base directory '".toList ++ path.text ++ "' is not a directory".toList
  | invalidProperty key =>
    "Property '".toList ++ key ++ "' must be a string, number, boolean or date".toList

end ConfigError

end LicenseHeader

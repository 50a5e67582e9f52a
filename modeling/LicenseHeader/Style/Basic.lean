import LicenseHeader.Text.Case
import LicenseHeader.Regex.Reader
import LicenseHeader.Config.Error

/-!
# Header styles

A style says how a licence header is written in one comment syntax: the fixed first and last lines,
the text around each line, and the patterns by which an existing header is known.

A style comes from its definition, `StyleModel`, by `Style.ofModel`, which checks it.  How regular
expressions are read is a parameter of `Style.ofModelWith`.
-/

namespace LicenseHeader

structure StyleModel where
  /-- The line above the header text. -/
  opening : Text := []
  /-- The line below the header text. -/
  closing : Text := []
  /-- What stands before each line of the header text. -/
  before : Text := []
  /-- What stands after each line of the header text. -/
  after : Text := []
  /-- Whether blank lines may stand inside a header. -/
  allowsBlank : Bool := false
  /-- Whether a header is one block with a first and a last line, not a run of single lines. -/
  isBlock : Bool := true
  /-- Whether all lines are brought to the same length. -/
  pads : Bool := false
  /-- The pattern of lines that stay above a header. -/
  skip : Option Text := none
  /-- The pattern of the first line of a header. -/
  first : Option Text := none
  /-- The pattern of the last line of a header. -/
  last : Option Text := none
  deriving DecidableEq, Repr

/-- A pattern that a whole line has to match. -/
structure LinePattern where
  /-- The written form, anchored at both ends. -/
  source : Text
  regex : Regex

namespace LinePattern

/-- The pattern of whole lines that a regular expression gives, where `compile` reads it. -/
def compileWith? (compile : Text → Option Regex) (pattern : Text) : Option LinePattern :=
  let source := "^(?:".toList ++ pattern ++ ")$".toList
  (compile source).map (⟨source, ·⟩)

def accepts (p : LinePattern) (line : Text) : Bool := p.regex.isMatch line

end LinePattern

structure Style where
  /-- The name of the style in lower case. -/
  id : Text
  opening : Text
  closing : Text
  before : Text
  after : Text
  allowsBlank : Bool
  isBlock : Bool
  pads : Bool
  skip : Option LinePattern
  first : Option LinePattern
  last : Option LinePattern

/-- The text that stands for a line break in the definition of a style. -/
def lineBreakMark : Text := "$\x7beol\x7d".toList

def expandLineBreaks (t : Text) : Text := t.replace lineBreakMark ['\n']

namespace Style

/-- The name of the style of files that have none. -/
def unknownId : Text := "unknown".toList

/-- The style of files that have none. -/
def unknown : Style where
  id := unknownId
  opening := []
  closing := []
  before := []
  after := []
  allowsBlank := false
  isBlock := false
  pads := false
  skip := none
  first := none
  last := none

def isUnknown (s : Style) : Bool := s.id = unknownId

/-- A pattern of the style `id`, where `compile` reads regular expressions. -/
def compilePattern (compile : Text → Option Regex) (id : Text) :
    Option Text → Except ConfigError (Option LinePattern)
  | none => .ok none
  | some pattern =>
    match LinePattern.compileWith? compile pattern with
    | some p => .ok (some p)
    | none => .error (.invalidRegex id pattern)

/-- The style with a definition, where `compile` reads regular expressions.  The two patterns that
detect a header are needed, and blank lines may be allowed only in a block. -/
def ofModelWith (compile : Text → Option Regex) (name : Text) (m : StyleModel) :
    Except ConfigError Style := do
  let id := name.lower
  if m.allowsBlank ∧ ¬m.isBlock then throw (.invalidStyle id .blankLinesOutsideBlock)
  if m.first.isNone ∨ m.last.isNone then throw (.invalidStyle id .missingDetection)
  let skip ← compilePattern compile id m.skip
  let first ← compilePattern compile id m.first
  let last ← compilePattern compile id m.last
  return {
    id
    opening := expandLineBreaks m.opening
    closing := expandLineBreaks m.closing
    before := expandLineBreaks m.before
    after := expandLineBreaks m.after
    allowsBlank := m.allowsBlank
    isBlock := m.isBlock
    pads := m.pads
    skip
    first
    last }

def ofModel (name : Text) (m : StyleModel) : Except ConfigError Style :=
  ofModelWith Regex.read? name m

/-- Whether a line stays above a header. -/
def isSkipLine (s : Style) (line : Text) : Bool := s.skip.any (·.accepts line)

def isFirstLine (s : Style) (line : Text) : Bool := s.first.any (·.accepts line)

def isLastLine (s : Style) (line : Text) : Bool := s.last.any (·.accepts line)

end Style

end LicenseHeader

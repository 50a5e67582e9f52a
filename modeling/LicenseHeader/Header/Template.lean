import LicenseHeader.Header.Properties
import LicenseHeader.Style.Basic
import LicenseHeader.Text.Line

/-!
# Header templates

A header template is the text of a licence header without any comment syntax.

* `HeaderTemplate.decorate` writes it in a style, and `HeaderTemplate.render` puts the values of
  properties in as well;
* `HeaderTemplate.isPresent` tells whether a file carries it: the strict check looks for the rendered
  header up to spaces at the ends of lines, the lenient one leaves out comment syntax and all white
  space on both sides.
-/

namespace LicenseHeader

structure HeaderTemplate where
  text : Text
  deriving DecidableEq, Repr

namespace HeaderTemplate

def lines (h : HeaderTemplate) : List Text := h.text.lines

/-- The length of the longest line. -/
def width (h : HeaderTemplate) : Nat := (h.lines.map List.length).foldl max 0

def pad (width : Nat) (line : Text) : Text := line ++ List.replicate (width - line.length) ' '

/-- A line of the header in a style, where all lines are filled up to `width` if the style says
so. -/
def decorateLine (s : Style) (width : Nat) (line : Text) : Text :=
  Text.trimEnd (s.before ++ (if s.pads then pad width line else line) ++ s.after)

/-- The line above or below a header, with the break that ends it.  A line break alone is already
one, and an empty text is no line. -/
def delimiter (t : Text) : Text :=
  if t = [] then [] else if t = ['\n'] then t else t ++ ['\n']

def decorate (h : HeaderTemplate) (s : Style) : Text :=
  delimiter s.opening
    ++ h.lines.flatMap (fun line => decorateLine s h.width line ++ ['\n'])
    ++ delimiter s.closing

/-- The header in a style with the values of properties. -/
def render (h : HeaderTemplate) (s : Style) (properties : Properties) :
    Except PropertyCycle Text :=
  properties.expand (h.decorate s)

/-- The number of lines that are looked at in a file, besides those of the header. -/
def extraLines : Nat := 10

/-- The first lines of a file, where the header is looked for. -/
def firstLines (h : HeaderTemplate) (file : Text) : List Text :=
  file.lines.take (h.lines.length + extraLines)

/-- A line without spaces at its end; one carriage return is dropped before. -/
def tidyLine (line : Text) : Text :=
  let body := if line.getLast? = some '\r' then line.dropLast else line
  (body.reverse.dropWhile (· == ' ')).reverse

/-- Drops the spaces at the ends of the lines, all but the last of which end with a break. -/
def tidyParts : List Text → List Text
  | [] => []
  | [last] => [last]
  | line :: rest => tidyLine line :: tidyParts rest

/-- The text without spaces before line breaks, which become line feeds. -/
def tidy (t : Text) : Text := Text.joinWith ['\n'] (tidyParts (splitAt '\n' t))

/-- Whether the first lines of a file have the rendered header, up to spaces at the ends of
lines. -/
def isPresentStrict (h : HeaderTemplate) (file : Text) (s : Style) (properties : Properties) :
    Except PropertyCycle Bool :=
  let found := tidy (Text.joinWith ['\n'] (h.firstLines file) ++ ['\n', '\n'])
  (h.render s properties).map fun expected => (tidy expected).isIn found

/-- Takes the comment syntax of a style out of a text. -/
def undecorate (s : Style) (t : Text) : Text :=
  [s.opening, s.closing, s.before, s.after].foldl (fun t d => t.replace d.trim []) t

/-- Whether the first lines of a file have the words of the header, comment syntax and white space
left out. -/
def isPresentLenient (h : HeaderTemplate) (file : Text) (s : Style) (properties : Properties) :
    Except PropertyCycle Bool :=
  let found := Text.squeeze (undecorate s (Text.trim (h.firstLines file).flatten))
  (properties.expand h.text.squeeze).map fun expected => expected.squeeze.isIn found

def isPresent (h : HeaderTemplate) (file : Text) (s : Style) (properties : Properties)
    (strict : Bool) : Except PropertyCycle Bool :=
  if strict then h.isPresentStrict file s properties else h.isPresentLenient file s properties

end HeaderTemplate

end LicenseHeader

import LicenseHeader.Text.Basic

/-!
# Lines

A text is a sequence of lines, each with the break that ends it.  A line feed ends a line, and a
carriage return right before it belongs to the break.  The last line may have no line feed; a
carriage return at its very end counts as its break.

* `Line.split` takes a text apart and `Line.unsplit` puts it together again; `unsplit_split` says
  that nothing is lost;
* `Text.lines` gives the lines as they are compared with a header, where a carriage return at the
  very end of a text is part of the last line.  It cuts the text after each line feed and then takes
  the breaks off.
-/

namespace LicenseHeader

/-- What ends a line. -/
inductive LineBreak where
  /-- A line feed. -/
  | lf
  /-- A carriage return and a line feed. -/
  | crlf
  /-- A carriage return at the end of the text. -/
  | cr
  /-- The end of the text. -/
  | none
  deriving DecidableEq, Repr

namespace LineBreak

def text : LineBreak → Text
  | lf => ['\n']
  | crlf => ['\r', '\n']
  | cr => ['\r']
  | none => []

end LineBreak

structure Line where
  /-- The characters of the line, its break left out. -/
  body : Text
  /-- The break that ends the line. -/
  ending : LineBreak
  deriving DecidableEq, Repr

namespace Line

def text (l : Line) : Text := l.body ++ l.ending.text

def size (l : Line) : Nat := l.text.size

/-- Whether the line is empty or has only white space. -/
def isBlank (l : Line) : Bool := l.body.isBlank

/-- Adds a character in front of the first of some lines. -/
def prepend (c : Char) : List Line → List Line
  | [] => [if c = '\r' then ⟨[], .cr⟩ else ⟨[c], .none⟩]
  | ⟨body, ending⟩ :: rest =>
    if body = [] ∧ c = '\r' ∧ ending = .lf then ⟨[], .crlf⟩ :: rest
    else ⟨c :: body, ending⟩ :: rest

/-- The lines of a text; none for the empty text. -/
def split : Text → List Line
  | [] => []
  | c :: t => if c = '\n' then ⟨[], .lf⟩ :: split t else prepend c (split t)

/-- The text that some lines make up. -/
def unsplit (ls : List Line) : Text := ls.flatMap text

/-- The number of bytes that some lines take. -/
def totalSize (ls : List Line) : Nat := (unsplit ls).size

@[simp]
theorem unsplit_nil : unsplit [] = [] := rfl

@[simp]
theorem unsplit_cons (l : Line) (ls : List Line) : unsplit (l :: ls) = l.text ++ unsplit ls := rfl

@[simp]
theorem unsplit_append (ks ls : List Line) : unsplit (ks ++ ls) = unsplit ks ++ unsplit ls := by
  simp [unsplit]

theorem unsplit_prepend (c : Char) (ls : List Line) :
    unsplit (prepend c ls) = c :: unsplit ls := by
  cases ls with
  | nil => by_cases h : c = '\r' <;> simp [prepend, h, text, LineBreak.text]
  | cons l ls =>
    obtain ⟨body, ending⟩ := l
    by_cases h : body = [] ∧ c = '\r' ∧ ending = .lf
    · obtain ⟨rfl, rfl, rfl⟩ := h
      simp [prepend, text, LineBreak.text]
    · simp [prepend, h, text]

/-- Nothing of a text is lost when it is cut into lines. -/
@[simp]
theorem unsplit_split (t : Text) : unsplit (split t) = t := by
  induction t with
  | nil => rfl
  | cons c t ih =>
    by_cases h : c = '\n'
    · simp [split, h, ih, text, LineBreak.text]
    · simp [split, h, unsplit_prepend, ih]

end Line

namespace Text

/-- The text without a character at its end, if it is there. -/
def dropEnd (c : Char) (t : Text) : Text := if t.getLast? = some c then t.dropLast else t

/-- The pieces of a text, which is cut after each of its line feeds. -/
def pieces : Text → List Text
  | [] => []
  | c :: t =>
    if c = '\n' then [c] :: pieces t
    else
      match pieces t with
      | [] => [[c]]
      | p :: ps => (c :: p) :: ps

/-- A piece without its line break.  A carriage return at its end counts as one. -/
def withoutBreak (p : Text) : Text := (p.dropEnd '\n').dropEnd '\r'

/-- A piece without the line feed at its end, and without a carriage return before this line feed. -/
def asLine (p : Text) : Text := if p.getLast? = some '\n' then p.withoutBreak else p

def lines (t : Text) : List Text := t.pieces.map asLine

end Text

/-- The way the line breaks of a file are written. -/
inductive LineEnding where
  | lf
  | crlf
  deriving DecidableEq, Repr

namespace LineEnding

/-- The way the first line break of a text is written. -/
def detect (t : Text) : LineEnding :=
  match t.findIdx? (· = '\n') with
  | some i => if (t.take i).getLast? = some '\r' then .crlf else .lf
  | none => .lf

/-- Writes the line feeds of a text in this way. -/
def apply (e : LineEnding) (t : Text) : Text :=
  match e with
  | .lf => t
  | .crlf => t.flatMap fun c => if c = '\n' then ['\r', '\n'] else [c]

end LineEnding

end LicenseHeader

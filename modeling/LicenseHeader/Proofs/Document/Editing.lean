import LicenseHeader.Proofs.Header.Offsets
import LicenseHeader.Proofs.Text.LineBreaks

/-!
# Editing a document in place

A `Document` keeps what is above, of and below its header apart.  Here a document is edited as one
text: headers are put in and taken out at places counted in bytes, which have to be kept in step with
the text.  An edit fails at a place that is not between two characters, and is refused if the header
cannot be rendered; what the buffer is then is kept.

* `EditBuffer`, `EditBuffer.insertHeader` and `EditBuffer.removeHeader`: the buffer and its edits;
* `EditBuffer.Represents`: the buffer holds the text of a document, with the places of its header;
* `perform_insert_ok`, `perform_insert_error` and `perform_remove`: what one edit does, and
  `exists_performAll`, what any number of edits do;
* `EditBuffer.edits_safe` is the result.
-/

namespace LicenseHeader

/-- A document as one text with the places of its header. -/
structure EditBuffer where
  style : Style
  content : Cursor
  places : HeaderPlaces
  lineEnding : LineEnding
  properties : Properties

/-- A computation on a buffer that may be refused or fail. -/
abbrev Editing := ExceptT PropertyCycle (StateT EditBuffer Option)

/-- An edit of a document. -/
inductive Edit where
  | insert (h : HeaderTemplate)
  | remove

namespace EditBuffer

/-- The buffer of a file with the given text. -/
def ofText (style : Style) (keywords : List Text) (properties : Properties) (text : Text) :
    Option EditBuffer :=
  (HeaderPlaces.scan style keywords (Cursor.ofText text)).map fun (places, content) =>
    { style, content, places, lineEnding := LineEnding.detect text, properties }

/-- Puts a header in. -/
def insertHeader (h : HeaderTemplate) : Editing Unit := do
  let b ← get
  let rendered ← h.render b.style b.properties
  let new := b.lineEnding.apply rendered
  let content ← b.content.insert b.places.start new
  modify fun b => { b with content }
  modify fun b =>
    { b with places := { b.places with stop := some (b.places.start + new.size), existing := true } }

/-- Takes the header out, if there is one. -/
def removeHeader : Editing Unit := do
  let b ← get
  match b.places.stop with
  | none => return
  | some stop =>
    modify fun b => { b with places := { b.places with stop := none } }
    let content ← b.content.delete b.places.start stop
    modify fun b => { b with content, places := { b.places with existing := false } }

/-- Does an edit. -/
def perform (b : EditBuffer) : Edit → Option (Except PropertyCycle Unit × EditBuffer)
  | .insert h => (insertHeader h).run.run b
  | .remove => removeHeader.run.run b

/-- Does one edit after the other, whether they are refused or not. -/
def performAll (b : EditBuffer) : List Edit → Option EditBuffer
  | [] => some b
  | e :: es =>
    match b.perform e with
    | none => none
    | some (_, b') => b'.performAll es

end EditBuffer

namespace Editing

variable {α β : Type}

theorem run_get_bind (f : EditBuffer → Editing α) (b : EditBuffer) :
    (get >>= f).run.run b = (f b).run.run b := rfl

theorem run_ok_bind (a : α) (f : α → Editing β) (b : EditBuffer) :
    ((liftM (Except.ok a : Except PropertyCycle α) : Editing α) >>= f).run.run b
      = (f a).run.run b := rfl

/-- What is refused leaves the buffer as it is, and nothing more is done. -/
theorem run_error_bind (cycle : PropertyCycle) (f : α → Editing β) (b : EditBuffer) :
    ((liftM (Except.error cycle : Except PropertyCycle α) : Editing α) >>= f).run.run b
      = some (.error cycle, b) := rfl

end Editing

/-! ### The edits of a document -/

namespace Document

/-- Does an edit; a header that cannot be rendered is not put in. -/
def edit (d : Document) : Edit → Document
  | .insert h => (d.insertHeader h).toOption.getD d
  | .remove => d.removeHeader

/-- A document with another header and another text below it. -/
def Continues (d d' : Document) : Prop :=
  ∃ header below, d' = { d with header, below }

theorem continues_edit (d : Document) (e : Edit) : d.Continues (d.edit e) := by
  cases e with
  | remove => exact ⟨none, d.below, rfl⟩
  | insert h =>
    rw [edit, insertHeader]
    cases h.render d.style d.properties with
    | error cycle => exact ⟨d.header, d.below, rfl⟩
    | ok rendered =>
      exact ⟨some (d.lineEnding.apply rendered), d.header.getD [] ++ d.below, rfl⟩

/-- Edits change nothing above the header, nor the conventions for headers. -/
theorem continues_foldl_edit (d : Document) (edits : List Edit) :
    d.Continues (edits.foldl edit d) := by
  induction edits generalizing d with
  | nil => exact ⟨d.header, d.below, rfl⟩
  | cons e edits ih =>
    obtain ⟨_, _, hedit⟩ := continues_edit d e
    obtain ⟨header, below, hrest⟩ := ih (d.edit e)
    refine ⟨header, below, ?_⟩
    rw [List.foldl_cons, hrest, hedit]

end Document

/-! ### A buffer for a document -/

namespace HeaderPlaces

/-- The places of the header of a document. -/
def ofDocument (d : Document) : HeaderPlaces := ⟨d.beginsAt, d.endsAt?, d.hasHeader⟩

theorem ofDocument_ofText (s : Style) (keywords : List Text) (properties : Properties) (t : Text) :
    ofDocument (Document.ofText s keywords properties t) = ofScan (HeaderScan.run s keywords t) := by
  have hstop : (Document.ofText s keywords properties t).endsAt?
      = (HeaderScan.run s keywords t).endsAt? := by
    show Option.map _ (Option.map Line.unsplit _) = _
    rw [Option.map_map]
    rfl
  rw [ofDocument, hstop, Document.hasHeader_ofText]
  rfl

end HeaderPlaces

namespace EditBuffer

/-- The buffer holds the text of a document and the places of its header. -/
structure Represents (b : EditBuffer) (d : Document) : Prop where
  style : b.style = d.style
  text : b.content.text = d.text
  places : b.places = .ofDocument d
  lineEnding : b.lineEnding = d.lineEnding
  properties : b.properties = d.properties

variable {b : EditBuffer} {d : Document} {h : HeaderTemplate}

/-- Every file can be opened. -/
theorem exists_ofText (s : Style) (keywords : List Text) (properties : Properties) (t : Text) :
    ∃ b, ofText s keywords properties t = some b ∧
      b.Represents (Document.ofText s keywords properties t) := by
  obtain ⟨c, hscan, hat⟩ := HeaderPlaces.scan_eq_run s keywords (Cursor.ofText t)
  refine ⟨_, by rw [ofText, hscan]; rfl, rfl, ?_, ?_, rfl, rfl⟩
  · rw [Document.text_ofText]
    exact hat.text
  · exact (HeaderPlaces.ofDocument_ofText s keywords properties t).symm

theorem perform_insert_error {cycle : PropertyCycle}
    (hr : h.render b.style b.properties = .error cycle) :
    b.perform (.insert h) = some (.error cycle, b) := by
  unfold perform insertHeader
  dsimp only
  rw [Editing.run_get_bind, hr, Editing.run_error_bind]

/-- **Putting a header in.**  The place is between two characters, and the places are kept in step. -/
theorem perform_insert_ok (hb : b.Represents d) {rendered : Text}
    (hr : h.render b.style b.properties = .ok rendered) :
    ∃ d' b', d.insertHeader h = .ok d' ∧ b.perform (.insert h) = some (.ok (), b') ∧
      b'.Represents d' ∧
      d' = { d with
        header := some (d.lineEnding.apply rendered), below := d.header.getD [] ++ d.below } := by
  have hinsert : d.insertHeader h = .ok { d with
      header := some (d.lineEnding.apply rendered), below := d.header.getD [] ++ d.below } := by
    rw [Document.insertHeader, ← hb.style, ← hb.properties, hr]
    rfl
  have hcontent : b.content.insert b.places.start (b.lineEnding.apply rendered)
      = some { b.content with text := d.above ++ d.lineEnding.apply rendered
          ++ (d.header.getD [] ++ d.below) } := by
    rw [hb.places, hb.lineEnding]
    exact Cursor.insert_eq_some (by rw [hb.text, Document.text, List.append_assoc]) _
  have hperform : b.perform (.insert h) = some (.ok (), { b with
      content := { b.content with text := d.above ++ d.lineEnding.apply rendered
          ++ (d.header.getD [] ++ d.below) }
      places := ⟨b.places.start,
        some (b.places.start + (b.lineEnding.apply rendered).size), true⟩ }) := by
    unfold perform insertHeader
    dsimp only
    rw [Editing.run_get_bind, hr, Editing.run_ok_bind, hcontent]
    rfl
  refine ⟨_, _, hinsert, hperform, ⟨hb.style, rfl, ?_, hb.lineEnding, hb.properties⟩, rfl⟩
  dsimp only
  rw [hb.places, hb.lineEnding]
  rfl

/-- **Taking the header out.**  Both places are between two characters, the second not before the
first. -/
theorem perform_remove (hb : b.Represents d) :
    ∃ b', b.perform .remove = some (.ok (), b') ∧ b'.Represents d.removeHeader ∧
      (d.header = none → b' = b) := by
  unfold perform removeHeader
  dsimp only
  rw [Editing.run_get_bind]
  cases hheader : d.header with
  | none =>
    have hstop : b.places.stop = none := by
      rw [hb.places]
      show Option.map _ d.header = none
      rw [hheader]
      rfl
    have hsame : d.removeHeader = d := by
      rw [Document.removeHeader, ← hheader]
    rw [hstop, hsame]
    exact ⟨b, rfl, hb, fun _ => rfl⟩
  | some header =>
    have hstop : b.places.stop = some (d.above.size + header.size) := by
      rw [hb.places]
      show Option.map _ d.header = _
      rw [hheader]
      rfl
    have hstart : b.places.start = d.above.size := by
      rw [hb.places]
      rfl
    have hcontent : b.content.delete b.places.start (d.above.size + header.size)
        = some { b.content with text := d.above ++ d.below } := by
      rw [hstart]
      refine Cursor.delete_eq_some ?_
      rw [hb.text, Document.text, hheader, List.append_assoc]
      rfl
    rw [hstop]
    dsimp only
    rw [hcontent]
    refine ⟨_, rfl, ⟨hb.style, ?_, ?_, hb.lineEnding, hb.properties⟩, fun hnone => ?_⟩
    · show d.above ++ d.below = d.above ++ [] ++ d.below
      rw [List.append_nil]
    · show HeaderPlaces.mk b.places.start none false = _
      rw [hstart]
      rfl
    · exact absurd hnone (by simp)

/-- One edit: the buffer goes on to represent the document. -/
theorem exists_perform (hb : b.Represents d) (e : Edit) :
    ∃ answer b', b.perform e = some (answer, b') ∧ b'.Represents (d.edit e) := by
  cases e with
  | remove =>
    obtain ⟨b', hremove, hb', -⟩ := perform_remove hb
    exact ⟨_, b', hremove, hb'⟩
  | insert h =>
    cases hr : h.render b.style b.properties with
    | error cycle =>
      refine ⟨_, b, perform_insert_error hr, ?_⟩
      rw [hb.style, hb.properties] at hr
      rw [Document.edit, Document.insertHeader, hr]
      exact hb
    | ok rendered =>
      obtain ⟨d', b', hinsert, hperform, hb', -⟩ := perform_insert_ok hb hr
      refine ⟨_, b', hperform, ?_⟩
      rw [Document.edit, hinsert]
      exact hb'

/-- Any number of edits, by induction on them. -/
theorem exists_performAll (hb : b.Represents d) (edits : List Edit) :
    ∃ b', b.performAll edits = some b' ∧ b'.Represents (edits.foldl Document.edit d) := by
  induction edits generalizing b d with
  | nil => exact ⟨b, rfl, hb⟩
  | cons e edits ih =>
    obtain ⟨answer, b₁, hperform, hb₁⟩ := exists_perform hb e
    obtain ⟨b', hall, hb'⟩ := ih hb₁
    refine ⟨b', ?_, hb'⟩
    rw [performAll, hperform]
    exact hall

/-! ### Buffers after any edits -/

/-- What every edit does to a document of a file with the text `t`, and to its buffer.  All edits
succeed at their places; only a header that cannot be rendered is refused. -/
structure IsSafe (b : EditBuffer) (d : Document) (t : Text) : Prop where
  existing_iff : b.places.existing = true ↔ b.places.stop.isSome = true
  /-- The text above the header is that of the file. -/
  above : ∃ front before now, front.size = b.places.start ∧ t = front ++ before ∧
    b.content.text = front ++ now
  /-- A header is put in with the line ending of the file, and can be taken out again. -/
  insert : ∀ h rendered, h.render b.style b.properties = .ok rendered →
    ∃ d' b' b'', d.insertHeader h = .ok d' ∧
      b.perform (.insert h) = some (.ok (), b') ∧ b'.Represents d' ∧
      b'.perform .remove = some (.ok (), b'') ∧ b''.Represents d'.removeHeader ∧
      (∃ front rest inserted, front.size = b.places.start ∧ b.content.text = front ++ rest ∧
        inserted = (LineEnding.detect t).apply rendered ∧ LineEnding.Writes t rendered inserted ∧
        b'.content.text = front ++ inserted ++ rest) ∧
      b''.content.text = b.content.text
  /-- A refused header leaves everything as it is. -/
  refused : ∀ h cycle, h.render b.style b.properties = .error cycle →
    d.insertHeader h = .error cycle ∧ b.perform (.insert h) = some (.error cycle, b)
  /-- The bytes between the two places are taken out, and the second time nothing. -/
  remove : ∃ b', b.perform .remove = some (.ok (), b') ∧ b'.Represents d.removeHeader ∧
    b'.perform .remove = some (.ok (), b') ∧
    ∃ front header rest, front.size = b.places.start ∧
      b.places.stop.getD b.places.start = front.size + header.size ∧
      b.content.text = front ++ header ++ rest ∧ b'.content.text = front ++ rest

theorem isSafe_of_represents {t before : Text} (hb : b.Represents d) (habove : t = d.above ++ before)
    (hending : d.lineEnding = LineEnding.detect t) : b.IsSafe d t := by
  have hstart : d.above.size = b.places.start := by
    rw [hb.places]
    rfl
  have htext : b.content.text = d.above ++ (d.header.getD [] ++ d.below) := by
    rw [hb.text, Document.text, List.append_assoc]
  refine {
    existing_iff := ?_
    above := ⟨d.above, before, _, hstart, habove, htext⟩
    insert := ?_
    refused := fun h cycle hr => ⟨?_, perform_insert_error hr⟩
    remove := ?_ }
  · rw [hb.places]
    show d.header.isSome = true ↔ (d.header.map _).isSome = true
    rw [Option.isSome_map]
  · intro h rendered hr
    obtain ⟨d', b', hdocument, hinsert, hb', rfl⟩ := perform_insert_ok hb hr
    obtain ⟨b'', hremove, hb'', -⟩ := perform_remove hb'
    refine ⟨_, b', b'', hdocument, hinsert, hb', hremove, hb'', ⟨d.above, _, _, hstart, htext, rfl,
      LineEnding.writes_apply_detect t rendered, ?_⟩, ?_⟩
    · rw [hb'.text, ← hending]
      rfl
    · rw [hb''.text, htext]
      show d.above ++ [] ++ (d.header.getD [] ++ d.below) = _
      rw [List.append_nil]
  · rw [Document.insertHeader, ← hb.style, ← hb.properties, hr]
    rfl
  · obtain ⟨b', hremove, hb', -⟩ := perform_remove hb
    obtain ⟨b'', hagain, -, hsame⟩ := perform_remove hb'
    rw [hsame rfl] at hagain
    refine ⟨b', hremove, hb', hagain, d.above, d.header.getD [], d.below, hstart, ?_, hb.text, ?_⟩
    · rw [hb.places]
      show (Option.map _ d.header).getD d.above.size = _
      cases d.header with
      | none => rfl
      | some header => rfl
    · rw [hb'.text]
      show d.above ++ [] ++ d.below = _
      rw [List.append_nil]

/-- **Editing is safe.**  A file can be opened and edited in any way, with any headers: no edit fails,
the buffer holds the text and the places of the document that `Document.edit` gives, the place of the
header stays where it was, and every further edit does to the text what it should.  What is put in is the
rendered header, every line feed of which is written with a carriage return if the first line break of
the file has one, and which is left as it is otherwise. -/
theorem edits_safe (s : Style) (keywords : List Text) (properties : Properties) (t : Text)
    (edits : List Edit) :
    ∃ opened b d, ofText s keywords properties t = some opened ∧
      edits.foldl Document.edit (Document.ofText s keywords properties t) = d ∧
      opened.performAll edits = some b ∧ b.Represents d ∧
      b.style = s ∧ b.properties = properties ∧ b.places.start = opened.places.start ∧
      b.IsSafe d t ∧
      (LineEnding.detect t = .crlf ↔
        ∃ front back, t = front ++ '\r' :: '\n' :: back ∧ '\n' ∉ front) := by
  obtain ⟨opened, hopen, hrep⟩ := exists_ofText s keywords properties t
  obtain ⟨b, hall, hb⟩ := exists_performAll hrep edits
  obtain ⟨header, below, hedits⟩ :=
    Document.continues_foldl_edit (Document.ofText s keywords properties t) edits
  have habove : t = (Document.ofText s keywords properties t).above
      ++ ((Document.ofText s keywords properties t).header.getD []
        ++ (Document.ofText s keywords properties t).below) := by
    rw [← List.append_assoc]
    exact (Document.text_ofText s keywords properties t).symm
  rw [hedits] at hb
  refine ⟨opened, b, _, hopen, hedits, hall, hb, hb.style, hb.properties, ?_,
    isSafe_of_represents hb habove rfl, LineEnding.detect_eq_crlf_iff⟩
  rw [hb.places, hrep.places]
  rfl

end EditBuffer

end LicenseHeader

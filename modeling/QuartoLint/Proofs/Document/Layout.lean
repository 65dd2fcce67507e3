/-
One document, many texts.

The same lines can be laid out in a text in many ways: each line may have
blanks behind its content, and ends in a line feed, a carriage return or both,
whatever the other lines end in. The last line may also end with the text, if
there is anything of it to see. None of this shows in the document that is
made of the text (`Document.ofText_layout`).

# Line ends and what looks like one

There is one thing that a layout must not do: a carriage return that ends a
line must not have a line feed right behind it, as an empty line would put
there, because the two would be taken for the end of one line. Everything
else that may look like a line end to other programs, such as the line
separator U+2028, is a blank like any other and may be part of the padding.
-/
import QuartoLint.Proofs.Document.Segments
import QuartoLint.Proofs.Text.Trim
import QuartoLint.Scan

namespace QuartoLint

namespace Text

-- ================================================================ layouts

/-- The three ways in which a line may end before the text does. -/
inductive LineEnd
  | lineFeed
  | carriageReturn
  | both
deriving Repr, DecidableEq

def LineEnd.text : LineEnd → Text
  | lineFeed => ['\n']
  | carriageReturn => ['\r']
  | both => ['\r', '\n']

/-- Blanks behind the content of a line, none of which is a line end. -/
structure Padding where
  text : Text
  blank : text.all isBlank = true
  noLineEnd : NoLineEnd text

/-- What is chosen to lay out lines with the given contents: padding for each
line and what the line ends in. The last may end with the text if it is not
empty. -/
inductive Layout : List Text → Type
  | nothing : Layout []
  | unended (content : Text) (padding : Padding)
      (hne : content ++ padding.text ≠ []) : Layout [content]
  | ended {contents : List Text} (content : Text) (padding : Padding)
      (lineEnd : LineEnd) (rest : Layout contents) :
      Layout (content :: contents)

namespace Layout

variable {contents : List Text}

/-- The text in which the lines are laid out. -/
def text {contents : List Text} : Layout contents → Text
  | nothing => []
  | unended content padding _ => content ++ padding.text
  | ended content padding lineEnd rest =>
    content ++ padding.text ++ (lineEnd.text ++ rest.text)

/-- No carriage return that ends a line has a line feed right behind it. -/
def ReturnsAlone {contents : List Text} : Layout contents → Prop
  | nothing => True
  | unended .. => True
  | ended _ _ lineEnd rest =>
    (lineEnd = .carriageReturn → rest.text.head? ≠ some '\n')
      ∧ rest.ReturnsAlone

/-- The lines with their padding. -/
def segments {contents : List Text} : Layout contents → List Text
  | nothing => []
  | unended content padding _ => [content ++ padding.text]
  | ended content padding _ rest => (content ++ padding.text) :: rest.segments

end Layout

-- ========================================================= the laid out text

theorem isLineEnd_text {lineEnd : LineEnd} {rest : Text}
    (halone : lineEnd = .carriageReturn → rest.head? ≠ some '\n') :
    IsLineEnd lineEnd.text rest := by
  cases lineEnd with
  | lineFeed => exact .feed rest
  | carriageReturn => exact .lone (halone rfl)
  | both => exact .pair rest

/-- A text in which lines are laid out divides into these lines with their
padding. -/
theorem Layout.dividesInto_segments {contents : List Text}
    (layout : Layout contents)
    (hcontents : ∀ content ∈ contents, NoLineEnd content)
    (halone : layout.ReturnsAlone) :
    DividesInto layout.text layout.segments := by
  induction layout with
  | nothing => exact .none
  | unended content padding hne =>
      have hcontent := List.forall_mem_singleton.1 hcontents
      exact .last hne (NoLineEnd.append hcontent padding.noLineEnd)
  | ended content padding lineEnd rest ih =>
      obtain ⟨hcontent, hrest⟩ := List.forall_mem_cons.1 hcontents
      exact .ended (NoLineEnd.append hcontent padding.noLineEnd)
        (isLineEnd_text halone.1) (ih hrest halone.2)

end Text

-- ============================================================= the document

/-- Padding is dropped with the blanks at the end of a line. -/
theorem normalizeLine_append_padding (content : Text)
    (padding : Text.Padding) :
    normalizeLine (content ++ padding.text) = normalizeLine content := by
  unfold normalizeLine
  rw [Text.trimEnd_append (List.all_eq_true.1 padding.blank)]

theorem Text.Layout.map_normalizeLine_segments {contents : List Text}
    (layout : Text.Layout contents) :
    layout.segments.map normalizeLine = contents.map normalizeLine := by
  induction layout with
  | nothing => rfl
  | unended content padding hne =>
      exact congrArg (fun line => [line])
        (normalizeLine_append_padding content padding)
  | ended content padding lineEnd rest ih =>
      rw [segments, List.map_cons, List.map_cons, ih,
        normalizeLine_append_padding]

namespace Document

theorem ofText_layout_eq (source : Text) {contents : List Text}
    (hcontents : ∀ content ∈ contents, Text.NoLineEnd content)
    (layout : Text.Layout contents) (halone : layout.ReturnsAlone) :
    ofText source layout.text = ofLines source contents := by
  have hlines := (layout.dividesInto_segments hcontents halone).lines_eq
  unfold ofText ofLines
  rw [hlines, layout.map_normalizeLine_segments]

/-- Lines without line ends in their contents make the same document however
they are laid out in a text, with whatever blanks behind them and whatever
line ends, as long as no carriage return that ends a line has a line feed
right behind it. So the same is found in any two texts in which they are laid
out, at the same positions. -/
theorem ofText_layout (source : Text) {contents : List Text}
    (hcontents : ∀ content ∈ contents, Text.NoLineEnd content)
    (layout other : Text.Layout contents) (hlayout : layout.ReturnsAlone)
    (hother : other.ReturnsAlone) :
    ofText source layout.text = ofLines source contents
      ∧ (validate (ofText source layout.text)).toList
        = (validate (ofText source other.text)).toList := by
  have hfirst := ofText_layout_eq source hcontents layout hlayout
  have hsecond := ofText_layout_eq source hcontents other hother
  refine ⟨hfirst, ?_⟩
  rw [hfirst, hsecond]

/-- Three lines, the second one empty, in two texts. In the first, the empty
line is kept from joining the carriage return before it by its padding. -/
theorem ofText_layout_separators :
    let contents : List Text := [['-', '-', '-'], [], ['a']]
    let bare : Text.Padding := ⟨[], by decide, by decide, by decide⟩
    let nextLine : Text.Padding := ⟨['\x85'], by decide, by decide, by decide⟩
    let separator : Text.Padding :=
      ⟨[' ', '\u2028'], by decide, by decide, by decide⟩
    let layout : Text.Layout contents :=
      .ended _ separator .carriageReturn
        (.ended _ nextLine .lineFeed (.unended _ bare (by decide)))
    let other : Text.Layout contents :=
      .ended _ bare .both (.ended _ bare .lineFeed
        (.ended _ separator .carriageReturn .nothing))
    layout.text = ['-', '-', '-', ' ', '\u2028', '\r', '\x85', '\n', 'a']
      ∧ ofText [] layout.text = ofLines [] contents
      ∧ (validate (ofText [] layout.text)).toList
        = (validate (ofText [] other.text)).toList := by
  intro contents bare nextLine separator layout other
  have hcontents : ∀ content ∈ contents, Text.NoLineEnd content := by
    unfold Text.NoLineEnd
    decide
  have hlayout : layout.ReturnsAlone :=
    ⟨fun _ => by decide, ⟨nofun, trivial⟩⟩
  have hother : other.ReturnsAlone :=
    ⟨nofun, ⟨nofun, ⟨fun _ => by decide, trivial⟩⟩⟩
  exact ⟨rfl, ofText_layout [] hcontents layout other hlayout hother⟩

end Document

end QuartoLint

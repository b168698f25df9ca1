import ScadText.Editor.Folding
import ScadText.Editor.Highlight
import ScadText.Editor.Remark
import ScadText.Token.Lexer

/-!
# A session with an editor

The session keeps the current text of each open document. Opening or changing a document publishes
its remarks; the two requests read a document and change nothing.

## Main definitions

* `Session`: the open documents.
* `Event`, `Reply`: what the editor sends, and what it gets.
* `Session.step`, `Session.run`: one event, and a list of them.
-/

namespace ScadText.Editor

/-- The current text of each document that has been opened. -/
structure Session where
  documents : List (String × List Char)
  deriving DecidableEq, Repr

namespace Session

def empty : Session := ⟨[]⟩

/-- The text of a document; one that was never opened is empty. -/
def text (session : Session) (uri : String) : List Char :=
  (session.documents.lookup uri).getD []

/-- The session in which a document has a given text. -/
def put (session : Session) (uri : String) (text : List Char) : Session :=
  ⟨(uri, text) :: session.documents.filter fun entry => entry.1 != uri⟩

@[simp] theorem text_put_self (session : Session) (uri : String) (text : List Char) :
    (session.put uri text).text uri = text := by
  simp [Session.text, put]

theorem lookup_filter_ne {documents : List (String × List Char)} {uri other : String}
    (h : other ≠ uri) :
    (documents.filter fun entry => entry.1 != uri).lookup other = documents.lookup other := by
  induction documents with
  | nil => rfl
  | cons entry rest ih =>
    obtain ⟨name, text⟩ := entry
    by_cases hn : name = uri
    · subst hn
      simp [List.lookup_cons, ih, beq_eq_false_iff_ne.mpr h]
    · simp only [List.filter_cons, bne_iff_ne.mpr hn, List.lookup_cons, ih, if_true]

@[simp] theorem text_put_of_ne (session : Session) {uri other : String} (text : List Char)
    (h : other ≠ uri) : (session.put uri text).text other = session.text other := by
  simp [Session.text, put, List.lookup_cons, beq_eq_false_iff_ne.mpr h, lookup_filter_ne h]

end Session

/-- What the editor sends. A change carries full texts, of which the last one stands. -/
inductive Event where
  | opened (uri : String) (text : List Char)
  | changed (uri : String) (texts : List (List Char))
  | wantsHighlight (uri : String)
  | wantsFolding (uri : String)
  deriving DecidableEq, Repr

/-- What the editor gets. -/
inductive Reply where
  | published (uri : String) (remarks : Except OutOfRange (List Remark))
  | highlight (deltas : List Highlight.Delta)
  | folding (regions : List Folding.Region)

namespace Session

/-- The reply that publishes the remarks on a document. -/
def publish (session : Session) (uri : String) : Reply :=
  .published uri (Editor.remarks (session.text uri))

/-- The session after an event, and the reply to it. Lines of regions count from zero in a reply. -/
def step (session : Session) : Event → Session × Reply
  | .opened uri text =>
    let session := session.put uri text
    (session, session.publish uri)
  | .changed uri texts =>
    let session := texts.foldl (Session.put · uri) session
    (session, session.publish uri)
  | .wantsHighlight uri => (session, .highlight (Highlight.encode (tokenize (session.text uri))))
  | .wantsFolding uri =>
    (session, .folding ((Folding.regions (session.text uri)).map fun region =>
      ⟨region.first - 1, region.last - 1⟩))

/-- The replies to a list of events. -/
def run (session : Session) : List Event → List Reply
  | [] => []
  | event :: rest =>
    let next := session.step event
    next.2 :: run next.1 rest

end Session

end ScadText.Editor

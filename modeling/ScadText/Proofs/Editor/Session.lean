import ScadText.Editor.Session
import ScadText.Proofs.Editor.Highlight
import ScadText.Proofs.Editor.Remark

/-!
# What a session answers

The reply to an event is about the current text of its document, whatever has happened to the other
documents. Requests leave no trace, and the replies about one document are those of a session in which
there is no other.

## Main definitions

* `currentText?`: the text of a document after some events.
* `Answers`: a reply answers an event on a document with a given text.
* `Session.after`: the session after some events.

## Main statements

* `Session.text_step`, `Session.text_after`: what an event, and a list of events, makes of the texts.
* `Session.answers_step`: one reply.
* `Session.run_filter`: the replies about one document.
* `answers_run`: a whole session.
-/

namespace ScadText.Editor

/-- The document which an event is about. -/
def Event.uri : Event → String
  | .opened uri _ | .changed uri _ | .wantsHighlight uri | .wantsFolding uri => uri

/-- The text which an event gives to a document. -/
def Event.textFor? (uri : String) : Event → Option (List Char)
  | .opened name text => if name = uri then some text else none
  | .changed name texts => if name = uri then texts.getLast? else none
  | .wantsHighlight _ | .wantsFolding _ => none

/-- The event is not a request, and its reply publishes remarks. -/
def Event.IsUpdate : Event → Prop
  | .opened _ _ | .changed _ _ => True
  | .wantsHighlight _ | .wantsFolding _ => False

/-- The text that was given to a document last. -/
def currentText? (events : List Event) (uri : String) : Option (List Char) :=
  (events.filterMap (Event.textFor? uri)).getLast?

/-- The reply answers the event, where its document has the text. -/
inductive Answers (text : List Char) : Event → Reply → Prop where
  /-- The remarks of all findings in the text are published. -/
  | published {event : Event} {shown : List Remark} (update : event.IsUpdate)
      (each : List.Forall₂ (fun finding remark => ofFinding (Text.lines text) finding = .ok remark)
        (lint text) shown) :
      Answers text event (.published event.uri (.ok shown))
  /-- A finding lies where the editor cannot count, which takes a text with more than 2147483647
  lines, or a line with more code units than that. The fault of showing it is published. -/
  | refused {event : Event} {fault : OutOfRange} (update : event.IsUpdate) (large : ¬ InRange text)
      (refusal : ∃ finding ∈ lint text, ofFinding (Text.lines text) finding = .error fault) :
      Answers text event (.published event.uri (.error fault))
  | highlight {uri : String} {deltas : List Highlight.Delta}
      (data_eq : Highlight.data? (Text.lines text) (tokenize text) =
        some (deltas.flatMap Highlight.Delta.numbers)) :
      Answers text (.wantsHighlight uri) (.highlight deltas)
  | folding {uri : String} {shown : List Folding.Region}
      (raised_eq : shown.map (fun region => ⟨region.first + 1, region.last + 1⟩) =
        Folding.regions text) :
      Answers text (.wantsFolding uri) (.folding shown)

variable {session other : Session} {event : Event} {events : List Event}
  {uri : String} {text : List Char}

/-! ## Texts -/

theorem Event.textFor?_of_ne (h : event.uri ≠ uri) : event.textFor? uri = none := by
  cases event with
  | opened | changed => exact if_neg h
  | wantsHighlight | wantsFolding => rfl

theorem currentText?_append_singleton (events : List Event) (event : Event) (uri : String) :
    currentText? (events ++ [event]) uri =
      (event.textFor? uri).or (currentText? events uri) := by
  cases htext : event.textFor? uri <;> simp [currentText?, htext]

theorem currentText?_ne_none (h : .opened uri text ∈ events) : currentText? events uri ≠ none := by
  have hgiven : text ∈ events.filterMap (Event.textFor? uri) :=
    List.mem_filterMap.mpr ⟨.opened uri text, h, if_pos rfl⟩
  intro hnone
  rw [currentText?, List.getLast?_eq_none_iff] at hnone
  rw [hnone] at hgiven
  cases hgiven

namespace Session

theorem text_foldl_put (texts : List (List Char)) (session : Session) (uri other : String) :
    (texts.foldl (put · uri) session).text other =
      if uri = other then texts.getLast?.getD (session.text other) else session.text other := by
  induction texts generalizing session with
  | nil => simp
  | cons text texts ih =>
    rw [List.foldl_cons, ih]
    by_cases huri : uri = other
    · subst huri
      cases hlast : texts.getLast? <;> simp [List.getLast?_cons, hlast]
    · simp [huri, text_put_of_ne session text (Ne.symm huri)]

/-- An event gives its document a text or leaves it, and leaves all other documents. -/
theorem text_step (session : Session) (event : Event) (uri : String) :
    (session.step event).1.text uri = (event.textFor? uri).getD (session.text uri) := by
  cases event with
  | opened name text =>
    by_cases huri : name = uri
    · simp [step, Event.textFor?, huri]
    · simp [step, Event.textFor?, huri, text_put_of_ne session text (Ne.symm huri)]
  | changed name texts =>
    by_cases huri : name = uri <;> simp [step, Event.textFor?, huri, text_foldl_put]
  | wantsHighlight | wantsFolding => rfl

theorem text_step_congr (event : Event) (h : session.text uri = other.text uri) :
    (session.step event).1.text uri = (other.step event).1.text uri := by
  rw [text_step, text_step, h]

/-- The session after some events. -/
def after (session : Session) (events : List Event) : Session :=
  events.foldl (fun session event => (session.step event).1) session

theorem after_append_singleton (session : Session) (events : List Event) (event : Event) :
    session.after (events ++ [event]) = ((session.after events).step event).1 :=
  List.foldl_append

/-- A document has the text that was given to it last. -/
theorem text_after (session : Session) (events : List Event) (uri : String) :
    (session.after events).text uri = (currentText? events uri).getD (session.text uri) := by
  induction events using List.reverseRecOn with
  | nil => rfl
  | append_singleton events event ih =>
    rw [after_append_singleton, text_step, ih, currentText?_append_singleton]
    cases event.textFor? uri <;> rfl

/-! ## Replies -/

theorem run_append (session : Session) (before after : List Event) :
    session.run (before ++ after) = session.run before ++ (session.after before).run after := by
  induction before generalizing session with
  | nil => rfl
  | cons event before ih => exact congrArg _ (ih _)

theorem length_run (session : Session) (events : List Event) :
    (session.run events).length = events.length := by
  induction events generalizing session with
  | nil => rfl
  | cons event events ih => rw [run, List.length_cons, ih, List.length_cons]

theorem getElem?_run (session : Session) (before : List Event) (event : Event)
    (after : List Event) :
    (session.run (before ++ event :: after))[before.length]? =
      some ((session.after before).step event).2 := by
  rw [run_append, run, List.getElem?_append_right (length_run _ _).le, length_run, Nat.sub_self]
  rfl

theorem answers_publish (session : Session) (update : event.IsUpdate) :
    Answers (session.text event.uri) event (session.publish event.uri) := by
  rw [publish]
  obtain ⟨shown, hshown, each⟩ | ⟨fault, hfault, refusal⟩ :=
    mapM_cases (ofFinding (Text.lines (session.text event.uri))) (lint (session.text event.uri))
  · rw [remarks, hshown]
    exact .published update each
  · rw [remarks, hfault]
    refine .refused update (fun hrange => ?_) refusal
    obtain ⟨shown, hshown, -⟩ := exists_remarks hrange
    rw [remarks, hfault] at hshown
    cases hshown

/-- A reply is about the text which the document has after the event. -/
theorem answers_step (session : Session) (event : Event) :
    Answers ((session.step event).1.text event.uri) event (session.step event).2 := by
  cases event with
  | opened uri text => exact answers_publish _ trivial
  | changed uri texts => exact answers_publish _ trivial
  | wantsHighlight uri => exact .highlight (Highlight.data?_tokenize _)
  | wantsFolding uri =>
    refine .folding ?_
    rw [List.map_map]
    refine (List.map_congr_left fun region hmem => ?_).trans (List.map_id _)
    obtain ⟨hfirst, hlast⟩ := Folding.one_le_of_mem_regions hmem
    obtain ⟨first, last⟩ := region
    dsimp only [Function.comp_apply, id] at hfirst hlast ⊢
    rw [Nat.sub_add_cancel hfirst, Nat.sub_add_cancel hlast]

/-- A request leaves the session as it is. -/
theorem step_of_not_isUpdate (h : ¬ event.IsUpdate) : (session.step event).1 = session := by
  cases event with
  | opened | changed => exact absurd trivial h
  | wantsHighlight | wantsFolding => rfl

/-- The reply to an event depends on its own document only. -/
theorem step_congr (h : session.text event.uri = other.text event.uri) :
    (session.step event).2 = (other.step event).2 := by
  have htext := text_step_congr event h
  cases event with
  | opened | changed => exact congrArg (fun text => Reply.published _ (remarks text)) htext
  | wantsHighlight | wantsFolding =>
    dsimp only [step, Event.uri] at h ⊢
    rw [h]

/-- The replies about a document are those to the events about it alone. -/
theorem run_filter (events : List Event) (h : session.text uri = other.text uri) :
    other.run (events.filter (·.uri = uri)) =
      ((events.zip (session.run events)).filter (·.1.uri = uri)).map Prod.snd := by
  induction events generalizing session other with
  | nil => rfl
  | cons event events ih =>
    rw [run, List.zip_cons_cons]
    by_cases huri : event.uri = uri
    · subst huri
      have hnext := text_step_congr event h
      simp only [List.filter_cons, decide_true, if_true, List.map_cons, run, ih hnext, step_congr h]
    · have hnext : (session.step event).1.text uri = other.text uri := by
        rw [text_step, Event.textFor?_of_ne huri, Option.getD_none, h]
      simp [huri, ih hnext]

/-- Without a request there are the same replies to all other events. -/
theorem run_eraseIdx (session : Session) (before after : List Event) (h : ¬ event.IsUpdate) :
    (session.run (before ++ event :: after)).eraseIdx before.length =
      session.run (before ++ after) := by
  have hlength := length_run session before
  rw [run_append, run_append, run, step_of_not_isUpdate h,
    List.eraseIdx_append_of_length_le hlength.le, hlength, Nat.sub_self, List.eraseIdx_cons_zero]

end Session

/-- There is one reply to each event. The reply to an event about a document that has been opened is
an answer about the text that was given to the document last: the remarks of its findings, if the
editor can count as far as they lie. Without a request the other replies are
the same, and the replies about one document are the same without all events about others. -/
theorem answers_run (events : List Event) :
    (Session.empty.run events).length = events.length ∧
    (∀ before event after, events = before ++ event :: after →
      (∃ text, .opened event.uri text ∈ before ++ [event]) →
      ∃ text reply, currentText? (before ++ [event]) event.uri = some text ∧
        (Session.empty.run events)[before.length]? = some reply ∧ Answers text event reply) ∧
    (∀ before event after, events = before ++ event :: after → ¬ event.IsUpdate →
      Session.empty.run (before ++ after) =
        (Session.empty.run events).eraseIdx before.length) ∧
    ∀ uri, Session.empty.run (events.filter (·.uri = uri)) =
      ((events.zip (Session.empty.run events)).filter (·.1.uri = uri)).map Prod.snd := by
  refine ⟨Session.length_run _ _, ?_, ?_, fun uri => Session.run_filter events rfl⟩
  · intro before event after hevents hopened
    subst hevents
    obtain ⟨given, hopened⟩ := hopened
    obtain ⟨text, htext⟩ := Option.ne_none_iff_exists'.mp (currentText?_ne_none hopened)
    have hcurrent : ((Session.empty.after before).step event).1.text event.uri = text := by
      rw [← Session.after_append_singleton, Session.text_after, htext, Option.getD_some]
    have hanswers := (Session.empty.after before).answers_step event
    rw [hcurrent] at hanswers
    exact ⟨text, _, htext, Session.getElem?_run .empty before event after, hanswers⟩
  · intro before event after hevents hrequest
    subst hevents
    exact (Session.run_eraseIdx .empty before after hrequest).symm

/-- A list of changes that is empty leaves the text, and so does another document. -/
theorem answers_run_unchanged :
    ∃ reply, (Session.empty.run [.opened "a" "x = 5".toList, .opened "b" "y;".toList,
        .changed "a" [], .wantsFolding "b"])[2]? = some reply ∧
      Answers "x = 5".toList (.changed "a" []) reply := by
  obtain ⟨-, hanswers, -, -⟩ := answers_run [.opened "a" "x = 5".toList, .opened "b" "y;".toList,
    .changed "a" [], .wantsFolding "b"]
  obtain ⟨text, reply, htext, hreply, answers⟩ :=
    hanswers [.opened "a" "x = 5".toList, .opened "b" "y;".toList] (.changed "a" [])
      [.wantsFolding "b"] rfl ⟨"x = 5".toList, List.mem_cons_self⟩
  obtain rfl := Option.some.inj htext
  exact ⟨reply, hreply, answers⟩

end ScadText.Editor

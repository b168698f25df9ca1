import ScadText.Proofs.Lexer.Line
import ScadText.Proofs.Text.Returns

/-!
# The lexer and carriage returns before line feeds

Carriage returns that are put before line feeds change no token but by being in it: the tokens of
the two texts have the same kinds, lines and columns, one by one.

## Main definitions

* `Token.Alike`: two tokens that differ only in carriage returns before line feeds.

## Main statements

* `closesAt_iff_of_returned`, `Returned.lineAhead_eq`: what the lexer looks at is the same.
* `Emits.returned`: the next tokens of the two texts are alike.
* `forall₂_alike_tokenize`: so are all their tokens.
-/

namespace ScadText

open Text

/-- The second token is the first one with a carriage return put before some of its line feeds: they
have the same kind and the same lines and columns, and joining the line ends of the second text
gives the first. -/
structure Token.Alike (x y : Token) : Prop where
  kind_eq : y.kind = x.kind
  start_beside : x.start.Beside y.start
  stop_beside : x.stop.Beside y.stop
  text_eq : joinLineEnds y.text = x.text

namespace Lexer

open Extent

variable {s t σ : State} {token : Token} {tokens : List Token} {cs ds v w rest : List Char}

/-! ## What the lexer looks at -/

theorem lineAhead_eq_of_returned (h : Returned cs ds) : lineAhead cs = lineAhead ds := by
  induction h with
  | nil => rfl
  | @keep c cs ds _ _ ih =>
    by_cases hc : isLineBreak c = true
    · rw [lineAhead_of_lineBreak hc, lineAhead_of_lineBreak hc]
    · rw [Bool.not_eq_true] at hc
      rw [lineAhead_cons hc, lineAhead_cons hc, ih]
  | put => rw [lineAhead_of_lineBreak rfl, lineAhead_of_lineBreak rfl]

theorem isBlank_of_returned (h : Returned cs ds) (hcs : ∀ c ∈ cs, isBlank c = true) :
    ∀ c ∈ ds, isBlank c = true := by
  induction h with
  | nil => exact hcs
  | keep _ _ ih =>
    obtain ⟨hc, hcs⟩ := List.forall_mem_cons.mp hcs
    exact List.forall_mem_cons.mpr ⟨hc, ih hcs⟩
  | put _ ih =>
    obtain ⟨hc, hcs⟩ := List.forall_mem_cons.mp hcs
    exact List.forall_mem_cons.mpr ⟨rfl, List.forall_mem_cons.mpr ⟨hc, ih hcs⟩⟩

theorem head?_of_returned (h : Returned cs ds) (hcs : ∀ c ∈ cs.head?, isBlank c = false) :
    ∀ c ∈ ds.head?, isBlank c = false := by
  cases h with
  | nil => exact hcs
  | keep => exact hcs
  | put => exact absurd (hcs '\n' rfl) (by decide)

theorem closesAt_of_returned {level : Nat} (hw : ClosesAt level v) (h : Returned v w) :
    ClosesAt level w := by
  induction hw generalizing w with
  | done =>
    obtain rfl := h.eq_of_notMem (by decide)
    exact .done
  | @closer level v _ ih =>
    obtain ⟨u, rfl, hu⟩ := h.split_of_notMem (w := ['*', '/']) (by decide)
    exact .closer (ih hu)
  | @opener level v _ ih =>
    obtain ⟨u, rfl, hu⟩ := h.split_of_notMem (w := ['/', '*']) (by decide)
    exact .opener (ih hu)
  | @other level c v opens closes _ ih =>
    cases h with
    | @keep _ _ w _ h =>
      have marker {d : Char} {u : List Char} (hd : d ≠ '\r') (hw : w = d :: u) :
          ∃ u, v = d :: u := by
        obtain ⟨u, hv, -⟩ := (hw ▸ h).exists_cons hd
        exact ⟨u, hv⟩
      refine .other ?_ ?_ (ih h)
      · intro u hu
        rw [List.cons.injEq] at hu
        obtain ⟨u, rfl⟩ := marker (by decide) hu.2
        exact opens u (by rw [hu.1])
      · intro u hu
        rw [List.cons.injEq] at hu
        obtain ⟨u, rfl⟩ := marker (by decide) hu.2
        exact closes u (by rw [hu.1])
    | put h => exact .other (by simp) (by simp) (.other (by simp) (by simp) (ih h))

/-- Where a comment is closed with the carriage returns, it is closed without them. -/
theorem exists_closesAt_of_returned {level : Nat} (hw : ClosesAt level w)
    (h : Returned cs (w ++ rest)) : ∃ v tail, cs = v ++ tail ∧ ClosesAt level v := by
  induction hw generalizing cs with
  | done =>
    obtain ⟨_, rfl, h'⟩ := h.exists_cons (by decide)
    obtain ⟨u, rfl, -⟩ := h'.exists_cons (by decide)
    exact ⟨['*', '/'], u, rfl, .done⟩
  | closer _ ih =>
    obtain ⟨_, rfl, h'⟩ := h.exists_cons (by decide)
    obtain ⟨u, rfl, hu⟩ := h'.exists_cons (by decide)
    obtain ⟨v, tail, rfl, hv⟩ := ih hu
    exact ⟨'*' :: '/' :: v, tail, rfl, .closer hv⟩
  | opener _ ih =>
    obtain ⟨_, rfl, h'⟩ := h.exists_cons (by decide)
    obtain ⟨u, rfl, hu⟩ := h'.exists_cons (by decide)
    obtain ⟨v, tail, rfl, hv⟩ := ih hu
    exact ⟨'/' :: '*' :: v, tail, rfl, .opener hv⟩
  | @other level c w opens closes inner ih =>
    obtain ⟨d, w, rfl⟩ := List.exists_cons_of_ne_nil inner.ne_nil
    by_cases hc : c = '\r'
    · -- The line feed after the carriage return is in the comment as well.
      subst hc
      rw [List.cons_append, List.cons_append] at h
      cases h with
      | keep other => exact absurd rfl other
      | put h => exact ih (.keep (by decide) h)
    · obtain ⟨u, rfl, hu⟩ := h.exists_cons hc
      obtain ⟨v, tail, rfl, hv⟩ := ih hu
      have marker {e : Char} {v' : List Char} (he : '\n' ≠ e) (hv' : v = e :: v') : d = e := by
        have hhead : Returned ([e] ++ (v' ++ tail)) (d :: (w ++ rest)) := by
          rw [hv'] at hu
          exact hu
        obtain ⟨u, hu, -⟩ := hhead.split_of_notMem (by simpa using he)
        exact (List.cons.inj hu).1
      refine ⟨c :: v, tail, rfl, .other ?_ ?_ hv⟩
      · intro v' hv'
        rw [List.cons.injEq] at hv'
        exact opens w (by rw [hv'.1, marker (by decide) hv'.2])
      · intro v' hv'
        rw [List.cons.injEq] at hv'
        exact closes w (by rw [hv'.1, marker (by decide) hv'.2])

/-! ## The next token -/

/-- Two machines between two tokens, at the same line and column, before texts of which the second
has a carriage return put before some of its line feeds. -/
structure State.Alike (s σ : State) : Prop where
  mode_eq : σ.mode = s.mode
  beside : s.position.Beside σ.position
  returned : Returned s.rest σ.rest
  settled : s.Settled
  settled' : σ.Settled

/-- What is read from the two texts. -/
theorem Reads.returned {mode next : Mode} {kind : TokenKind} (h : Reads mode cs w kind next)
    (hmode : mode = .root ∨ mode = .string ∧ ∃ body after, cs = body ++ '"' :: after ∧
      StringBody body)
    (hcut : cs = w ++ rest) (hw : w ≠ []) (hds : Returned cs ds) :
    ∃ w' rest', ds = w' ++ rest' ∧ Returned w w' ∧ Returned rest rest' ∧
      Reads mode ds w' kind next := by
  obtain rfl | ⟨rfl, body, after, rfl, hb⟩ := hmode
  · obtain ⟨w', rest', rfl, hw', hrest'⟩ := (hcut ▸ hds).split
    cases h.rootRead (by simp [hcut, hw]) with
    | blank tail cut kind_eq next_eq ne_nil blank stop =>
      obtain rfl := List.append_cancel_left (hcut.symm.trans cut)
      have hne : w' ≠ [] := by
        rintro rfl
        cases hw'
        exact hw rfl
      rw [kind_eq, next_eq]
      exact ⟨w', rest', rfl, hw', hrest', reads_blank hne (isBlank_of_returned hw' blank)
        (head?_of_returned hrest' stop)⟩
    | comment v tail cut word kind_eq next_eq closes =>
      subst word
      obtain ⟨v', rfl, hv'⟩ := hw'.split_of_notMem (w := ['/', '*']) (by decide)
      rw [kind_eq, next_eq]
      exact ⟨_, rest', rfl, hw', hrest', reads_comment (closesAt_of_returned closes hv') rest'⟩
    | openComment v cut word kind_eq next_eq unclosed =>
      subst word
      obtain ⟨v', rfl, hv'⟩ := hw'.split_of_notMem (w := ['/', '*']) (by decide)
      obtain rfl : rest = [] := by simpa using cut.symm.trans hcut
      cases hrest'
      rw [kind_eq, next_eq, List.append_nil]
      refine ⟨_, [], (List.append_nil _).symm, hw', .nil, reads_openComment ?_⟩
      rintro u tail rfl hu
      obtain ⟨u', tail', rfl, hu'⟩ := exists_closesAt_of_returned hu hv'
      exact unclosed u' tail' rfl hu'
    | onLine starts reads =>
      have hline := reads.isLineBreak_eq_false starts
      obtain rfl := hw'.eq_of_notMem fun h => absurd (hline _ h) (by decide)
      exact ⟨w', rest', rfl, hw', hrest',
        reads.of_lineAhead_eq starts (lineAhead_eq_of_returned hds)⟩
  · have hbody : '\n' ∉ body := fun h => absurd (hb.isLineBreak_eq_false _ h) (by decide)
    have hw' : '\n' ∉ w := fun hmem =>
      absurd (h.isLineBreak_eq_false_of_stringBody hb _ hmem) (by decide)
    obtain ⟨rest', hrest, hrest'⟩ := (hcut ▸ hds).split_of_notMem hw'
    obtain ⟨tail, rfl, htail⟩ := hds.split_of_notMem hbody
    obtain ⟨after', rfl, -⟩ := htail.split_of_notMem (w := ['"']) (by decide)
    have hself : Returned w w := .refl fun hmem =>
      hds.return_notMem (hcut ▸ List.mem_append_left rest hmem)
    exact ⟨w, rest', hrest, hself, hrest', h.of_stringBody hb after'⟩

/-- The next tokens of two such machines are alike, and so are the machines after them. -/
theorem Emits.returned (h : Emits s token t) (hs : s.Alike σ) :
    ∃ other τ, Emits σ other τ ∧ token.Alike other ∧ t.Alike τ := by
  obtain ⟨w, rest, hcut, hw, hrest, hreads⟩ := (h.reads hs.settled).returned hs.settled.mode_eq
    h.consumes.rest_eq h.consumes.text_ne_nil hs.returned
  have hne : w ≠ [] := by
    rintro rfl
    have htext := hw.joinLineEnds_eq
    exact h.consumes.text_ne_nil htext.symm
  rw [← hs.mode_eq] at hreads
  have hemits := hreads.emits hs.settled' hcut hne
  have hstop := hw.after hs.beside
  refine ⟨_, _, hemits, ⟨rfl, ?_, ?_, hw.joinLineEnds_eq⟩, ⟨rfl, ?_, hrest, ?_, ?_⟩⟩
  · rw [h.consumes.start_eq]
    exact hs.beside
  · rw [h.consumes.stop_eq]
    exact hstop
  · rw [h.consumes.position_eq, h.consumes.stop_eq]
    exact hstop
  · exact (Run.single h).settled hs.settled
  · exact (Run.single hemits).settled hs.settled'

theorem Run.returned (h : Run s tokens t) (hs : s.Alike σ) :
    ∃ others τ, Run σ others τ ∧ List.Forall₂ Token.Alike tokens others ∧ t.Alike τ := by
  induction h generalizing σ with
  | nil => exact ⟨[], σ, .nil σ, .nil, hs⟩
  | cons emits _ ih =>
    obtain ⟨other, τ, emits', halike, hτ⟩ := emits.returned hs
    obtain ⟨others, υ, run, halikes, hυ⟩ := ih hτ
    exact ⟨other :: others, υ, .cons emits' run, .cons halike halikes, hυ⟩

theorem forall₂_alike_tokenize (h : Returned cs ds) :
    List.Forall₂ Token.Alike (tokenize cs) (tokenize ds) := by
  obtain ⟨t, run, ht⟩ := exists_run_to_end (State.initial cs)
  have hinitial : (State.initial cs).Alike (State.initial ds) :=
    ⟨rfl, .refl .start, h, State.settled_initial cs, State.settled_initial ds⟩
  obtain ⟨others, τ, run', halike, hτ⟩ := run.returned hinitial
  have hend : τ.rest = [] := (ht ▸ hτ.returned).eq_nil
  have hothers : tokenize ds = others := by
    rw [tokenize, run'.tokens_eq, tokens_eq_nil_iff.mpr hend, List.append_nil]
  rw [hothers]
  exact halike

end Lexer

end ScadText

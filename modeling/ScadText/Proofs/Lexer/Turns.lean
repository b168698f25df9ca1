import Mathlib.Data.Nat.Find
import ScadText.Proofs.Lexer.Strings

/-!
# Turns of the lexer

Each turn of the machine asks its mode once, and a mode may send it to another mode without reading.
What a mode reads rests on what was seen when it was entered: a comment on its opener, and the
pieces of a string on the quote that closes it.

## Main definitions

* `State.after`, `turn`: the machine after some turns, and over a source at each of them.
* `State.OnTrack`: the invariant of the turns over a source.
* `State.Proceeds`: what a turn does.

## Main statements

* `OnTrack.step`: every turn keeps the invariant.
* `OnTrack.proceeds`: every turn enters another mode or reads, and nothing beyond the end.
* `turns_of_source`: the turns over a source, and how many there are.
-/

namespace ScadText.Lexer

open Extent

/-- What stands ahead of the machine in a mode: a blank or a comment, the opener of a block comment,
or the rest of a string with its closing quote on the same line. -/
def Mode.Faces : Mode → List Char → Prop
  | .root, _ => True
  | .blank, cs => (∃ c ∈ cs.head?, isBlank c = true) ∨ ['/', '/'] <+: cs ∨ ['/', '*'] <+: cs
  | .comment, cs => ['/', '*'] <+: cs
  | .string, cs => ∃ body after, cs = body ++ '"' :: after ∧ StringBody body

/-- What holds at every turn over a source: the cursor is in the source, no comment is open, and the
text ahead is one that the mode is for. -/
structure State.OnTrack (source : List Char) (s : State) : Prop where
  offset_le : s.position.offset ≤ source.length
  rest_eq : s.rest = source.drop s.position.offset
  depth_eq : s.depth = 0
  faces : s.mode.Faces s.rest

/-- What a turn does before the end of a source: another mode is entered at the same place, or one
character at least is read, and none beyond the end. -/
inductive State.Proceeds (source : List Char) (s : State) : Prop
  | enters {c : Char} {cs : List Char} {mode : Mode} (ahead : s.rest = c :: cs)
      (action : s.mode.action s.depth c cs = .enter mode) (other : mode ≠ s.mode)
      (stays : s.step.2 = { s with mode })
  | reads {c : Char} {cs : List Char} {kind : TokenKind} {n : Nat} {next : Mode}
      (ahead : s.rest = c :: cs) (action : s.mode.action s.depth c cs = .emit kind n next)
      (pos : 1 ≤ n) (inside : s.position.offset + n ≤ source.length)
      (moves : s.step.2.position.offset = s.position.offset + n)

/-- The machine after some turns. At the end of the text it stays as it is. -/
def State.after (s : State) (n : Nat) : State := (fun s => s.step.2)^[n] s

/-- The machine over a source at a turn, where turns count from zero. -/
def turn (source : List Char) (n : Nat) : State := (State.initial source).after n

variable {source : List Char} {s : State} {c : Char} {cs : List Char} {kind : TokenKind} {n : Nat}
  {mode next : Mode}

/-! ## What the modes do -/

/-- Between lexemes a mode is entered only in front of a blank or a comment. -/
theorem rootAction_enter (h : rootAction c cs = .enter mode) :
    mode = .blank ∧ Mode.blank.Faces (c :: cs) := by
  have hopens : (isBlank c || opensComment c cs) = true ∧ mode = .blank := by
    unfold rootAction at h
    grind
  obtain ⟨hc, rfl⟩ := hopens
  refine ⟨rfl, ?_⟩
  rw [Bool.or_eq_true] at hc
  rcases hc with hblank | hcomment
  · exact .inl ⟨c, rfl, hblank⟩
  · obtain ⟨v, hv | hv⟩ := opensComment_iff.mp hcomment
    · exact .inr (.inr ⟨v, hv.symm⟩)
    · exact .inr (.inl ⟨v, hv.symm⟩)

theorem blankAction_enter (h : blankAction c cs = .enter mode) :
    mode = .comment ∧ Mode.comment.Faces (c :: cs) := by
  have hopens : (c = '/' ∧ cs.head? = some '*') ∧ mode = .comment := by
    unfold blankAction at h
    grind
  obtain ⟨⟨rfl, hstar⟩, rfl⟩ := hopens
  obtain ⟨v, rfl⟩ := List.head?_eq_some_iff.mp hstar
  exact ⟨rfl, v, rfl⟩

/-- What is entered is for the text ahead. -/
theorem faces_of_enter (h : s.mode.action s.depth c cs = .enter mode) : mode.Faces (c :: cs) := by
  cases hm : s.mode with
  | root =>
    rw [hm] at h
    obtain ⟨rfl, hfaces⟩ := rootAction_enter h
    exact hfaces
  | blank =>
    rw [hm] at h
    obtain ⟨rfl, hfaces⟩ := blankAction_enter h
    exact hfaces
  | comment => rw [hm] at h; cases h
  | string => rw [hm] at h; exact absurd h (stringAction_ne_enter c cs mode)

theorem rootAction_le (h : rootAction c cs = .emit kind n next) : n ≤ (c :: cs).length := by
  obtain ⟨r, w, first, decides⟩ := follows_rootRules c cs
  obtain ⟨-, rest, hcut, -⟩ := first.longest.1
  cases decides with
  | now action =>
    obtain ⟨-, rfl, -⟩ := Action.emit.inj (h.symm.trans action)
    rw [hcut, List.length_append]
    exact Nat.le_add_right _ _
  | later action _ => cases h.symm.trans action

theorem blankAction_le (h : blankAction c cs = .emit kind n next) :
    n ≤ (c :: cs).length ∧ next = .root := by
  have hline := run_le_length (!isLineBreak ·) cs
  have hblank := run_le_length isBlank cs
  unfold blankAction at h
  grind

/-! ## One turn -/

theorem State.OnTrack.settled (hs : s.OnTrack source) (hm : s.mode = .root ∨ s.mode = .string) :
    s.Settled := by
  refine ⟨hs.depth_eq, hm.imp_right fun hstring => ⟨hstring, ?_⟩⟩
  have hfaces := hs.faces
  rwa [hstring] at hfaces

theorem State.Settled.faces (hs : s.Settled) : s.mode.Faces s.rest := by
  obtain hm | ⟨hm, hbody⟩ := hs.mode_eq
  · rw [hm]
    exact trivial
  · rw [hm]
    exact hbody

/-- What is read lies in the text ahead. -/
theorem State.OnTrack.action_le (hs : s.OnTrack source) (hr : s.rest = c :: cs)
    (h : s.mode.action s.depth c cs = .emit kind n next) : n ≤ s.rest.length := by
  rw [hr]
  cases hm : s.mode with
  | root =>
    rw [hm] at h
    exact rootAction_le h
  | blank =>
    rw [hm] at h
    exact (blankAction_le h).1
  | comment =>
    rw [hm] at h
    obtain ⟨-, rfl, -⟩ := Action.emit.inj h
    exact commentLength_le s.depth (c :: cs)
  | string =>
    obtain ⟨d, ds, hcut, _, m, _, action, hle⟩ := string_action_le (hs.settled (.inr hm)) hm
    obtain ⟨rfl, rfl⟩ := List.cons.inj (hr.symm.trans hcut)
    obtain ⟨-, rfl, -⟩ := Action.emit.inj (h.symm.trans action)
    exact hr ▸ hle

/-- What is left after a token is for the mode in which it is read. -/
theorem State.OnTrack.faces_of_emit (hs : s.OnTrack source) (hr : s.rest = c :: cs)
    (h : s.mode.action s.depth c cs = .emit kind n next) : next.Faces (s.rest.drop n) := by
  have settled (hm : s.mode = .root ∨ s.mode = .string) : next.Faces (s.rest.drop n) := by
    obtain ⟨_, _, _, _, ht⟩ := (Emits.now (State.step_of_emit hr h)).first (hs.settled hm)
    exact ht.faces
  cases hm : s.mode with
  | root => exact settled (.inl hm)
  | string => exact settled (.inr hm)
  | blank =>
    rw [hm] at h
    obtain ⟨-, rfl⟩ := blankAction_le h
    exact trivial
  | comment =>
    rw [hm] at h
    obtain ⟨-, -, rfl⟩ := Action.emit.inj h
    exact trivial

theorem State.OnTrack.offset_step (hs : s.OnTrack source) (hr : s.rest = c :: cs)
    (h : s.mode.action s.depth c cs = .emit kind n next) :
    s.step.2.position.offset = s.position.offset + n := by
  have hle := hs.action_le hr h
  rw [State.step_of_emit hr h]
  simp [Position.offset_after, Nat.min_eq_left hle]

/-- Every turn keeps the invariant. -/
theorem State.OnTrack.step (hs : s.OnTrack source) : s.step.2.OnTrack source := by
  cases hr : s.rest with
  | nil =>
    rw [State.step_of_end hr]
    exact hs
  | cons c cs =>
    cases ha : s.mode.action s.depth c cs with
    | enter mode =>
      rw [State.step_of_enter hr ha]
      exact ⟨hs.offset_le, hs.rest_eq, hs.depth_eq, hr ▸ faces_of_enter ha⟩
    | emit kind n next =>
      have hle := hs.action_le hr ha
      have hoffset := hs.offset_step hr ha
      have hfaces := hs.faces_of_emit hr ha
      have hlength := congrArg List.length hs.rest_eq
      have hoffset_le := hs.offset_le
      rw [List.length_drop] at hlength
      refine ⟨by omega, ?_, ?_, ?_⟩
      · rw [hoffset, ← List.drop_drop, ← hs.rest_eq, State.step_of_emit hr ha]
      · rw [State.step_of_emit hr ha]
      · rw [State.step_of_emit hr ha]
        exact hfaces

/-- Every turn before the end enters another mode or reads, and nothing beyond the end. -/
theorem State.OnTrack.proceeds (hs : s.OnTrack source) : s.rest = [] ∨ s.Proceeds source := by
  cases hr : s.rest with
  | nil => exact .inl rfl
  | cons c cs =>
    refine .inr ?_
    cases ha : s.mode.action s.depth c cs with
    | enter mode =>
      have hrank := action_enter_rank ha
      refine .enters hr ha ?_ (by rw [State.step_of_enter hr ha])
      rintro rfl
      exact absurd hrank (Nat.lt_irrefl _)
    | emit kind n next =>
      have hle := hs.action_le hr ha
      rw [hs.rest_eq, List.length_drop] at hle
      have hoffset_le := hs.offset_le
      exact .reads hr ha (action_emit_pos ha) (by omega) (hs.offset_step hr ha)

/-! ## Several turns -/

theorem State.after_succ (s : State) (n : Nat) : s.after (n + 1) = s.step.2.after n := rfl

theorem State.after_add (s : State) (m n : Nat) : s.after (m + n) = (s.after m).after n := by
  rw [Nat.add_comm, after, Function.iterate_add_apply]
  rfl

theorem turn_add (source : List Char) (m n : Nat) :
    turn source (m + n) = (turn source m).after n :=
  State.after_add _ m n

theorem State.after_of_end (h : s.rest = []) (n : Nat) : s.after n = s := by
  induction n with
  | zero => rfl
  | succ n ih => rw [after_succ, State.step_of_end h, ih]

theorem State.onTrack_initial (source : List Char) : (State.initial source).OnTrack source :=
  ⟨Nat.zero_le _, rfl, rfl, trivial⟩

theorem State.OnTrack.after (hs : s.OnTrack source) (n : Nat) : (s.after n).OnTrack source := by
  induction n generalizing s with
  | zero => exact hs
  | succ n ih => exact ih hs.step

theorem State.OnTrack.rest_eq_nil_iff (hs : s.OnTrack source) :
    s.rest = [] ↔ source.length ≤ s.position.offset := by
  rw [hs.rest_eq, List.drop_eq_nil_iff]

theorem State.OnTrack.offset_le_after (hs : s.OnTrack source) (n : Nat) :
    s.position.offset ≤ (s.after n).position.offset := by
  induction n generalizing s with
  | zero => exact Nat.le_refl _
  | succ n ih =>
    have hstep : s.position.offset ≤ s.step.2.position.offset := by
      rcases hs.proceeds with hend | proceeds
      · rw [State.step_of_end hend]
      · cases proceeds with
        | enters _ _ _ stays => rw [stays]
        | reads _ _ _ _ moves => omega
    exact Nat.le_trans hstep (ih hs.step)

/-- Before the end, something is read in more turns than modes can be entered. -/
theorem State.OnTrack.offset_lt_after (hs : s.OnTrack source) (ahead : s.rest ≠ [])
    (h : s.mode.rank < n) : s.position.offset < (s.after n).position.offset := by
  induction n generalizing s with
  | zero => exact absurd h (Nat.not_lt_zero _)
  | succ n ih =>
    rcases hs.proceeds with hend | proceeds
    · exact absurd hend ahead
    · cases proceeds with
      | enters hr action other stays =>
        have hrank := action_enter_rank action
        have hnext := ih hs.step
        rw [stays] at hnext
        rw [after_succ, stays]
        exact hnext ahead (by dsimp only; omega)
      | reads hr action pos inside moves =>
        have hmore := hs.step.offset_le_after n
        rw [after_succ]
        omega

/-- Three turns read something. -/
theorem State.OnTrack.three_turns (hs : s.OnTrack source) :
    s.rest = [] ∨ s.position.offset < (s.after 3).position.offset := by
  by_cases hend : s.rest = []
  · exact .inl hend
  · exact .inr (hs.offset_lt_after hend (Nat.lt_succ_of_le s.mode.rank_le_two))

/-- Three times as many turns as there are characters read all of them. -/
theorem le_offset_turn (source : List Char) (n : Nat) :
    min n source.length ≤ (turn source (3 * n)).position.offset := by
  induction n with
  | zero => simp
  | succ n ih =>
    have hs : (turn source (3 * n)).OnTrack source := (State.onTrack_initial source).after (3 * n)
    rw [Nat.mul_succ, turn_add]
    rcases hs.three_turns with hend | hmore
    · have hlength := hs.rest_eq_nil_iff.mp hend
      rw [State.after_of_end hend]
      omega
    · omega

theorem State.tokens_eq_append (s : State) : s.tokens = s.step.1.toList ++ s.step.2.tokens := by
  by_cases hend : s.rest = []
  · rw [State.step_of_end hend]
    rfl
  · rw [State.tokens, if_neg hend]
    cases s.step.1 <;> rfl

/-- The tokens of a text are those of its turns. -/
theorem State.tokens_eq_filterMap (h : (s.after n).rest = []) :
    s.tokens = (List.range n).filterMap fun m => (s.after m).step.1 := by
  induction n generalizing s with
  | zero => exact tokens_eq_nil_iff.mpr h
  | succ n ih =>
    rw [State.tokens_eq_append, ih h, List.range_succ_eq_map, List.filterMap_cons,
      List.filterMap_map]
    have hfirst : (s.after 0).step.1 = s.step.1 := rfl
    rw [hfirst]
    cases s.step.1 <;> rfl

/-- The turns of the machine over a source. At each of them no comment is open, and the text ahead
is one that the mode is for: a blank or a comment, the opener of a block comment, or the rest of a
string with the quote that closes it on the same line. So each turn before the end enters another
mode or reads, and nothing beyond the end. Of any three turns one reads, the source ends after at
most three turns for each of its characters, and its tokens are those of these turns. -/
theorem turns_of_source (source : List Char) :
    (∀ n, (turn source n).OnTrack source) ∧
    (∀ n, (turn source n).rest = [] ∨ (turn source n).Proceeds source) ∧
    (∀ n, (turn source n).rest = [] ∨
      (turn source n).position.offset < (turn source (n + 3)).position.offset) ∧
    ∃ n ≤ 3 * source.length, (∀ m, (turn source m).rest = [] ↔ n ≤ m) ∧
      tokenize source = (List.range n).filterMap fun m => (turn source m).step.1 := by
  have hs (n : Nat) : (turn source n).OnTrack source := (State.onTrack_initial source).after n
  have hlast : (turn source (3 * source.length)).rest = [] := by
    have hoffset := le_offset_turn source source.length
    rw [Nat.min_self] at hoffset
    exact (hs _).rest_eq_nil_iff.mpr hoffset
  have hend : ∃ n, (turn source n).rest = [] := ⟨_, hlast⟩
  refine ⟨hs, fun n => (hs n).proceeds, ?_, Nat.find hend, Nat.find_min' hend hlast, ?_, ?_⟩
  · intro n
    rw [turn_add]
    exact (hs n).three_turns
  · intro m
    refine ⟨fun h => Nat.find_min' hend h, fun h => ?_⟩
    obtain ⟨k, rfl⟩ := Nat.exists_eq_add_of_le h
    rw [turn_add, State.after_of_end (Nat.find_spec hend)]
    exact Nat.find_spec hend
  · exact State.tokens_eq_filterMap (Nat.find_spec hend)

/-- Two turns in a row may read nothing. -/
example : (turn ['/', '*'] 2).mode = .comment ∧ (turn ['/', '*'] 2).position = .start ∧
    (turn ['/', '*'] 3).rest = [] := by
  decide

end ScadText.Lexer

import ScadText.Proofs.Lexer.Choice

/-!
# What holds between two tokens

Between two tokens no comment is open, and a string that has been entered is still closed on its
line: the scan that finds the closing quote and the rules that read the string afterwards stay in
step, though they take escapes in pieces of different lengths.

## Main definitions

* `State.Settled`: the invariant.

## Main statements

* `StringBody.first_cases`: a rule inside a string takes the closing quote or a part of the body.
* `Emits.first`: every token is the one of the first rule, and the invariant is kept.
* `Run.settled`: the invariant holds at every token of a source.
-/

namespace ScadText.Lexer

open Extent Grammar LexRule

/-! ## String bodies -/

section StringBody

variable {body after cs w : List Char} {r : LexRule}

theorem StringBody.isLineBreak_eq_false (h : StringBody body) :
    ∀ c ∈ body, isLineBreak c = false := by
  induction h with
  | nil => simp
  | plain _ _ stays _ ih => exact List.forall_mem_cons.mpr ⟨stays, ih⟩
  | hidden stays _ ih =>
    exact List.forall_mem_cons.mpr ⟨rfl, List.forall_mem_cons.mpr ⟨stays, ih⟩⟩

/-- Plain characters in front of the closing quote are a part of the body. -/
theorem StringBody.split_plain (h : StringBody body) (hcut : body ++ '"' :: after = w ++ cs)
    (hw : ∀ c ∈ w, isLiteral c = true) : ∃ behind, body = w ++ behind ∧ StringBody behind := by
  induction w generalizing body with
  | nil => exact ⟨body, rfl, h⟩
  | cons d w ih =>
    obtain ⟨hd, hplain⟩ := List.forall_mem_cons.mp hw
    cases h with
    | nil =>
      rw [List.nil_append, List.cons_append, List.cons.injEq] at hcut
      simp [← hcut.1, isLiteral] at hd
    | plain _ _ _ body =>
      rw [List.cons_append, List.cons_append, List.cons.injEq] at hcut
      obtain ⟨rfl, hcut⟩ := hcut
      obtain ⟨behind, rfl, hb⟩ := ih body hcut hplain
      exact ⟨behind, rfl, hb⟩
    | hidden _ _ =>
      simp only [List.cons_append, List.cons.injEq] at hcut
      simp [← hcut.1, isLiteral] at hd

/-- A backslash in front of the closing quote and the character after it are a part of the body. -/
theorem StringBody.split_hidden (h : StringBody body) (hcut : body ++ '"' :: after = '\\' :: cs) :
    ∃ c behind, body = '\\' :: c :: behind ∧ StringBody behind := by
  cases h with
  | nil => simp at hcut
  | plain _ backslash _ _ =>
    rw [List.cons_append, List.cons.injEq] at hcut
    exact absurd hcut.1 backslash
  | @hidden c behind _ hb => exact ⟨c, behind, rfl, hb⟩

theorem StringBody.tail_ne_nil {c : Char} (h : StringBody body)
    (hcut : body ++ '"' :: after = c :: cs) (hc : c = '\\') : cs ≠ [] := by
  rintro rfl
  rw [hc] at hcut
  obtain ⟨d, behind, rfl, -⟩ := h.split_hidden hcut
  simp at hcut

/-- An escape is a part of the body: the backslash hides its letter, and its digits are plain. -/
theorem StringBody.split_escape (h : StringBody body) (hcut : body ++ '"' :: after = w ++ cs)
    (hw : w ∈ escape.lexemes) : ∃ behind, body = w ++ behind ∧ StringBody behind := by
  have split (d : Char) (ds : List Char) (hd : ∀ c ∈ ds, isLiteral c = true)
      (hcut : body ++ '"' :: after = '\\' :: d :: (ds ++ cs)) :
      ∃ behind, body = '\\' :: d :: (ds ++ behind) ∧ StringBody behind := by
    obtain ⟨c, inner, rfl, hinner⟩ := h.split_hidden hcut
    simp only [List.cons_append, List.cons.injEq, true_and] at hcut
    obtain ⟨rfl, hcut⟩ := hcut
    obtain ⟨behind, rfl, hbehind⟩ := hinner.split_plain hcut hd
    exact ⟨behind, rfl, hbehind⟩
  obtain ⟨c, -, rfl⟩ | ⟨c, ds, hd, -, rfl⟩ := mem_escape.mp hw
  · exact split c [] (by simp) hcut
  · refine split c ds (fun d hmem => ?_) hcut
    have hhex := hd d hmem
    rw [isLiteral, Bool.and_eq_true, bne_iff_ne, bne_iff_ne]
    constructor <;> rintro rfl <;> exact absurd hhex (by decide)

theorem mem_bodyRules (h : r ∈ bodyRules) : r = escape ∨ r = brokenEscape ∨ r = literal := by
  simpa [bodyRules] using h

theorem next_of_mem_bodyRules (h : r ∈ bodyRules) : r.next = .string := by
  obtain rfl | rfl | rfl := mem_bodyRules h <;> rfl

/-- What a rule for the body of a string matches is a part of the body. -/
theorem StringBody.split (h : StringBody body) (hr : r ∈ bodyRules)
    (hm : r.Matches (body ++ '"' :: after) w) :
    ∃ behind, body = w ++ behind ∧ StringBody behind := by
  obtain ⟨hw, rest, hcut, -⟩ := hm
  obtain rfl | rfl | rfl := mem_bodyRules hr
  · exact h.split_escape hcut hw
  · obtain ⟨_, _, rfl, ⟨d, -, rfl⟩, rfl⟩ := mem_one_mul.mp hw
    obtain ⟨c, behind, rfl, hb⟩ := h.split_hidden hcut
    simp only [List.cons_append, List.nil_append, List.cons.injEq, true_and] at hcut
    obtain ⟨rfl, -⟩ := hcut
    exact ⟨behind, rfl, hb⟩
  · refine h.split_plain hcut fun c hc => isLiteral_iff.mpr ?_
    obtain ⟨d, v, hd, hv, rfl⟩ := mem_one_mul.mp hw
    obtain rfl | hc := List.mem_cons.mp hc
    · exact hd
    · exact mem_star_one.mp hv c hc

/-- A quote stands in front of what is left of a string only where the body has ended. -/
theorem StringBody.eq_nil_of_quote (h : StringBody body)
    (hcut : body ++ '"' :: after = '"' :: cs) : body = [] := by
  cases h with
  | nil => rfl
  | plain quote _ _ _ =>
    rw [List.cons_append, List.cons.injEq] at hcut
    exact absurd hcut.1 quote
  | hidden _ _ => simp at hcut

/-- Inside a string the first rule takes the closing quote where the body has ended, and else a part
of the body. -/
theorem StringBody.first_cases (h : StringBody body)
    (first : First (body ++ '"' :: after) stringRules r w) :
    (body = [] ∧ r = closeQuote ∧ w = ['"']) ∨
    (First (body ++ '"' :: after) bodyRules r w ∧
      ∃ behind, body = w ++ behind ∧ StringBody behind) := by
  cases first with
  | here longest =>
    obtain ⟨⟨_, rfl, rfl⟩, rest, hcut, -⟩ := longest.1
    exact .inl ⟨h.eq_nil_of_quote hcut, rfl, rfl⟩
  | later _ first => exact .inr ⟨first, h.split first.mem first.longest.1⟩

end StringBody

/-! ## The invariant -/

/-- Between two tokens: no comment is open, and the machine stands between lexemes, or in a string
whose closing quote is still ahead on the line. -/
structure State.Settled (s : State) : Prop where
  depth_eq : s.depth = 0
  mode_eq : s.mode = .root ∨
    s.mode = .string ∧ ∃ body after, s.rest = body ++ '"' :: after ∧ StringBody body

theorem State.settled_initial (source : List Char) : (State.initial source).Settled :=
  ⟨rfl, .inl rfl⟩

/-- The rules for a mode between two tokens. -/
def Mode.rules : Mode → List LexRule
  | .string => stringRules
  | _ => rootRules

variable {s t : State} {token : Token} {tokens : List Token}

theorem Follows.emits {rules : List LexRule} {c : Char} {cs : List Char}
    (h : Follows s.mode rules c cs) (hd : s.depth = 0) (hr : s.rest = c :: cs)
    (emits : Emits s token t) :
    ∃ r, First s.rest rules r token.text ∧ token.kind = r.kind token.text ∧ t.mode = r.next := by
  obtain ⟨r, w, first, decides⟩ := h
  obtain ⟨rfl, rfl⟩ := emits.unique (decides.emits rfl hd hr)
  obtain ⟨-, rest, hcut, -⟩ := first.longest.1
  have htake : s.rest.take w.length = w := by rw [hr, hcut, List.take_left]
  exact ⟨r, by rw [hr] at htake ⊢; rwa [htake], by rw [htake], rfl⟩

/-- After a rule of the root the machine is between lexemes, or has just opened a string. -/
theorem next_of_mem_rootRules {r : LexRule} (h : r ∈ rootRules) :
    r.next = .root ∨ r = openQuote := by
  simp only [rootRules, List.mem_cons, List.not_mem_nil, or_false] at h
  rcases h with rfl | rfl | rfl | rfl | rfl | rfl | rfl | rfl | rfl | rfl | rfl | rfl | rfl | rfl |
    rfl | rfl <;> first | exact .inl rfl | exact .inr rfl

/-- Every token is the one of the first rule that matches, and the invariant is kept. -/
theorem Emits.first (hs : s.Settled) (emits : Emits s token t) :
    ∃ r, First s.rest s.mode.rules r token.text ∧ token.kind = r.kind token.text ∧
      t.mode = r.next ∧ t.Settled := by
  obtain ⟨c, cs, hr⟩ := List.exists_cons_of_ne_nil emits.rest_ne_nil
  have hcut := emits.consumes.rest_eq
  obtain hm | ⟨hm, body, after, hbody, hb⟩ := hs.mode_eq
  · obtain ⟨r, first, hkind, hnext⟩ :=
      Follows.emits (hm ▸ follows_rootRules c cs) hs.depth_eq hr emits
    refine ⟨r, by rwa [hm], hkind, hnext, emits.consumes.depth_eq, ?_⟩
    obtain hroot | rfl := next_of_mem_rootRules first.mem
    · exact .inl (hnext.trans hroot)
    · rw [hcut] at first
      exact .inr ⟨hnext, first.longest.1.mem_follow⟩
  · have ahead := hb.tail_ne_nil (hbody.symm.trans hr)
    obtain ⟨r, first, hkind, hnext⟩ :=
      Follows.emits (hm ▸ follows_stringRules ahead) hs.depth_eq hr emits
    refine ⟨r, by rwa [hm], hkind, hnext, emits.consumes.depth_eq, ?_⟩
    rw [hbody] at first hcut
    obtain ⟨-, rfl, -⟩ | ⟨inner, behind, rfl, hbehind⟩ := hb.first_cases first
    · exact .inl hnext
    · rw [List.append_assoc] at hcut
      exact .inr ⟨hnext.trans (next_of_mem_bodyRules inner.mem), behind, after,
        (List.append_cancel_left hcut).symm, hbehind⟩

theorem Run.settled (run : Run s tokens t) (hs : s.Settled) : t.Settled :=
  run.invariant (fun hs emits => (emits.first hs).elim fun _ h => h.2.2.2) hs

end ScadText.Lexer

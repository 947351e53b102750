import TextPattern.Proofs.Exhaustive

namespace TextPattern

/-- What kind of failure it was, whatever it concerned. -/
def MatchError.kind {α : Type} (e : MatchError α) : MatchError Unit :=
  e.map fun _ => ()

section Errors

variable {α δ ε : Type} (f : δ → ε)

theorem mapError_ok (a : α) : (Except.ok a : Except δ α).mapError f = .ok a := rfl

theorem mapError_error (e : δ) :
    (Except.error e : Except δ α).mapError f = .error (f e) := rfl

end Errors

namespace Matcher

variable {γ δ ε : Type}

/-- The same matches with other errors. -/
def mapError (f : δ → ε) (a : Matcher δ) : Matcher ε where
  run p := (a.run p).mapError f
  fits := by
    intro p m h
    cases ha : a.run p with
    | error e => simp only [ha, mapError_error, reduceCtorEq] at h
    | ok n =>
      simp only [ha, mapError_ok, Except.ok.injEq] at h
      exact h ▸ a.fits ha

theorem mapError_sameMatches (f : δ → ε) (a : Matcher δ) : (a.mapError f).SameMatches a := by
  intro p m
  simp only [mapError]
  cases a.run p <;> simp [mapError_ok, mapError_error]

/-! Which matches there are never depends on an error, so other errors can be given to the parts
just as well as to the whole. -/

variable (f : δ → ε)

theorem mapError_block (width : Nat) (accepts : List Char → Bool) (short refused : δ) :
    (block width accepts short refused).mapError f =
      block width accepts (f short) (f refused) := by
  ext p : 2
  simp only [mapError, block]
  split
  next => split <;> rfl
  next => rfl

theorem mapError_char (accepts : Char → Bool) (short refused : δ) :
    (char accepts short refused).mapError f = char accepts (f short) (f refused) := by
  ext p : 2
  simp only [mapError, char]
  cases p.rest with
  | nil => rfl
  | cons c rest =>
    simp only
    split <;> rfl

theorem mapError_andThen (a b : Matcher δ) :
    (a.andThen b).mapError f = (a.mapError f).andThen (b.mapError f) := by
  ext p : 2
  simp only [mapError, andThen]
  cases a.run p with
  | error e => rfl
  | ok m =>
    simp only [mapError_ok]
    cases b.run (p.advance m.length) <;> rfl

theorem mapError_orElse (a b : Matcher δ) :
    (a.orElse b).mapError f = (a.mapError f).orElse (b.mapError f) := by
  rw [(mapError_sameMatches f a).orElse]
  ext p : 2
  simp only [mapError, orElse]
  cases a.run p <;> rfl

theorem mapError_optional (a : Matcher δ) :
    (a.optional : Matcher δ).mapError f = (a.mapError f).optional := by
  rw [(mapError_sameMatches f a).optional]
  ext p : 2
  simp only [mapError, optional]
  cases a.run p <;> rfl

theorem mapError_span (a : Matcher δ) :
    (a.span : Matcher δ).mapError f = (a.mapError f).span := by
  rw [(mapError_sameMatches f a).span]
  rfl

theorem mapError_times (count : Nat) (a : Matcher δ) :
    (times count a).mapError f = times count (a.mapError f) := by
  induction count with
  | zero => rfl
  | succ count ih => rw [times_succ, times_succ, mapError_andThen, ih]

theorem mapError_captured (name : String) (a : Matcher δ) :
    (a.captured name).mapError f = (a.mapError f).captured name := by
  ext p : 2
  simp only [mapError, captured]
  cases a.run p <;> rfl

theorem mapError_anythingBut (a : Matcher δ) (short found : δ) :
    (a.anythingBut short found).mapError f = (a.mapError f).anythingBut (f short) (f found) := by
  rw [(mapError_sameMatches f a).anythingBut]
  ext p : 2
  simp only [mapError, anythingBut]
  cases a.run p with
  | ok m => rfl
  | error e => cases p.rest <;> rfl

section Scans

variable (closer escape opener : Matcher γ) (unclosed : δ)

theorem throughCloser_mapError (acc : Match) (offset : Nat) (rest : List Char) :
    (closer.throughCloser unclosed acc offset rest).mapError f =
      closer.throughCloser (f unclosed) acc offset rest := by
  induction rest generalizing acc offset with
  | nil =>
    simp only [throughCloser]
    cases closer.run ⟨offset, []⟩ <;> rfl
  | cons c rest ih =>
    simp only [throughCloser]
    cases closer.run ⟨offset, c :: rest⟩ with
    | ok m => rfl
    | error e => exact ih acc.skip (offset + 1)

theorem throughUnescaped_mapError (acc : Match) (p : Point) :
    (closer.throughUnescaped escape unclosed acc p).mapError f =
      closer.throughUnescaped escape (f unclosed) acc p := by
  fun_induction throughUnescaped closer escape unclosed acc p with
  | case1 acc p m he atEnd =>
    rw [throughUnescaped, he]
    simp only [atEnd, ↓reduceIte, mapError_error]
  | case2 acc p m he more ih =>
    refine ih.trans (Eq.symm ?_)
    rw [throughUnescaped, he]
    simp only [more, Bool.false_eq_true, ↓reduceIte]
  | case3 acc p e he m hc =>
    rw [throughUnescaped, he, hc]
    rfl
  | case4 acc p e he e' hc atEnd =>
    rw [throughUnescaped, he, hc]
    simp only [atEnd, ↓reduceIte, mapError_error]
  | case5 acc p e he e' hc more ih =>
    refine ih.trans (Eq.symm ?_)
    rw [throughUnescaped, he, hc]
    simp only [more, Bool.false_eq_true, ↓reduceIte]

theorem throughBalance_mapError (outer : Nat) (acc : Match) (p : Point) :
    (closer.throughBalance opener unclosed outer acc p).mapError f =
      closer.throughBalance opener (f unclosed) outer acc p := by
  fun_induction throughBalance closer opener unclosed outer acc p with
  | case1 acc p m hc =>
    rw [throughBalance, hc]
    rfl
  | case2 acc p m hc outer ih =>
    refine ih.trans (Eq.symm ?_)
    rw [throughBalance, hc]
  | case3 outer acc p e hc m ho ih =>
    refine ih.trans (Eq.symm ?_)
    rw [throughBalance, hc, ho]
  | case4 outer acc p e hc e' ho atEnd =>
    rw [throughBalance, hc, ho]
    simp only [atEnd, ↓reduceIte, mapError_error]
  | case5 outer acc p e hc e' ho more ih =>
    refine ih.trans (Eq.symm ?_)
    rw [throughBalance, hc, ho]
    simp only [more, Bool.false_eq_true, ↓reduceIte]

end Scans

theorem mapError_range (opener closer : Matcher δ) (unclosed : δ) :
    (opener.range closer unclosed).mapError f =
      (opener.mapError f).range (closer.mapError f) (f unclosed) := by
  rw [(mapError_sameMatches f closer).range]
  ext p : 2
  simp only [mapError, range]
  cases opener.run p with
  | error e => rfl
  | ok m => exact throughCloser_mapError f closer unclosed m _ _

theorem mapError_escapedRange (opener closer escape : Matcher δ) (unclosed : δ) :
    (opener.escapedRange closer escape unclosed).mapError f =
      (opener.mapError f).escapedRange (closer.mapError f) (escape.mapError f) (f unclosed) := by
  rw [(mapError_sameMatches f closer).escapedRange (mapError_sameMatches f escape)]
  ext p : 2
  simp only [mapError, escapedRange]
  cases opener.run p with
  | error e => rfl
  | ok m => exact throughUnescaped_mapError f closer escape unclosed m _

theorem mapError_nestedRange (opener closer again : Matcher δ) (unclosed : δ) :
    (opener.nestedRange closer again unclosed).mapError f =
      (opener.mapError f).nestedRange (closer.mapError f) (again.mapError f) (f unclosed) := by
  rw [(mapError_sameMatches f closer).nestedRange (mapError_sameMatches f again)]
  ext p : 2
  simp only [mapError, nestedRange]
  cases opener.run p with
  | error e => rfl
  | ok m => exact throughBalance_mapError f closer again unclosed 0 m _

/-- As `inMode`, with errors that concern no pattern. -/
def modal (a : Matcher (MatchError Unit)) : Mode → Matcher (MatchError Unit)
  | .consume => a
  | .neglect => a.anythingBut (.endOfSource ()) (.unwanted ())

theorem mapError_inMode (a : Matcher (MatchError Pattern)) (p : Pattern) (mode : Mode) :
    (a.inMode p mode).mapError MatchError.kind = (a.mapError MatchError.kind).modal mode := by
  cases mode with
  | consume => rfl
  | neglect => exact mapError_anythingBut _ a _ _

end Matcher

namespace Pattern

/-- How a pattern matches, with no more told of a failure than its kind. -/
def outcome (p : Pattern) (mode : Mode) : Matcher (MatchError Unit) :=
  (p.matcher mode).mapError MatchError.kind

theorem outcome_eq (p : Pattern) (mode : Mode) :
    p.outcome mode = (p.exhaustive mode).mapError MatchError.kind := by
  rw [outcome, matcher_eq_exhaustive]

/-! The outcome of a pattern is made from the outcomes of its parts and from nothing else of them:
neither their headers nor whether they are nullable comes in. -/

theorem outcome_literal_consume (l : Literal) : (literal l).outcome .consume =
    .block l.width l.accepts (.endOfSource ()) (.unmatched ()) :=
  Matcher.mapError_block _ _ _ _ _

theorem outcome_literal_neglect (l : Literal) : (literal l).outcome .neglect =
    .block l.width (fun ahead => !l.accepts ahead) (.endOfSource ()) (.unwanted ()) :=
  Matcher.mapError_block _ _ _ _ _

theorem outcome_test_consume (t : CharTest) : (test t).outcome .consume =
    .char t.accepts (.endOfSource ()) (.unmatched ()) :=
  Matcher.mapError_char _ _ _ _

theorem outcome_test_neglect (t : CharTest) : (test t).outcome .neglect =
    .char (fun c => !t.accepts c) (.endOfSource ()) (.unwanted ()) :=
  Matcher.mapError_char _ _ _ _

variable (inner left right opener closer escape : Pattern) (mode : Mode)

theorem outcome_seq : (seq left right).outcome mode =
    ((left.outcome .consume).andThen (right.outcome .consume)).modal mode := by
  simp only [outcome_eq, exhaustive, Matcher.mapError_inMode, Matcher.mapError_andThen]

theorem outcome_alt : (alt left right).outcome mode =
    ((left.outcome .consume).orElse (right.outcome .consume)).modal mode := by
  simp only [outcome_eq, exhaustive, Matcher.mapError_inMode, Matcher.mapError_orElse]

theorem outcome_optional :
    (optional inner).outcome mode = (inner.outcome .consume).optional.modal mode := by
  simp only [outcome_eq, exhaustive, Matcher.mapError_inMode, Matcher.mapError_optional]

theorem outcome_span : (span inner).outcome mode = (inner.outcome .consume).span.modal mode := by
  simp only [outcome_eq, exhaustive, Matcher.mapError_inMode, Matcher.mapError_span]

theorem outcome_repeated (count : UInt64) : (repeated inner count).outcome mode =
    ((inner.outcome .consume).times count.toNat).modal mode := by
  simp only [outcome_eq, exhaustive, Matcher.mapError_inMode, Matcher.mapError_times]

theorem outcome_negation : (negation inner).outcome mode = inner.outcome mode.flip := by
  simp only [outcome_eq, exhaustive]

theorem outcome_range : (range opener closer).outcome mode =
    ((opener.outcome .consume).range (closer.outcome .consume) (.endOfSource ())).modal mode := by
  simp only [outcome_eq, exhaustive, Matcher.mapError_inMode, Matcher.mapError_range]
  rfl

theorem outcome_escapedRange : (escapedRange opener closer escape).outcome mode =
    ((opener.outcome .consume).escapedRange (closer.outcome .consume) (escape.outcome .consume)
      (.endOfSource ())).modal mode := by
  simp only [outcome_eq, exhaustive, Matcher.mapError_inMode, Matcher.mapError_escapedRange]
  rfl

theorem outcome_nestedRange : (nestedRange opener closer).outcome mode =
    ((opener.outcome .consume).nestedRange (closer.outcome .consume) (opener.outcome .consume)
      (.endOfSource ())).modal mode := by
  simp only [outcome_eq, exhaustive, Matcher.mapError_inMode, Matcher.mapError_nestedRange]
  rfl

theorem outcome_capture (name : String) :
    (capture inner name).outcome mode = (inner.outcome mode).captured name := by
  simp only [outcome_eq, exhaustive, Matcher.mapError_captured]

end Pattern

end TextPattern

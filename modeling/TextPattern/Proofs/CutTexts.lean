import TextPattern.Proofs.PatternsRead

namespace TextPattern

/-- The error is about what was read, and not about what is missing after it. -/
def NotationError.isFinal : NotationError → Bool
  | unexpectedChar _ | invalidNumber | unknownClass _ => true
  | _ => false

namespace Notation

variable {xs ys : List Char} {c : Char} {e : NotationError} {p : Pattern}

/-- Why a character can be refused. That a bracket is not closed is found out at the character that
stands where it should be. -/
def Refusal (e : NotationError) : Prop :=
  e.isFinal = true ∨ ∃ b : Bracket, e = b.unclosed

theorem Refusal.not_ended (h : Refusal e) : ¬(e = .unexpectedEnd ∨ e = .unclosedString) := by
  rcases h with final | ⟨b, rfl⟩
  · rintro (rfl | rfl) <;> cases final
  · cases b <;> simp [Bracket.unclosed]

theorem classTest_error (h : classTest xs = .error e) : e.isFinal = true := by
  simp only [classTest] at h
  split at h
  · cases h
  · cases h
    rfl

theorem classTests_error {names : List (List Char)} (h : names.mapM classTest = .error e) :
    e.isFinal = true := by
  induction names with
  | nil => cases h
  | cons name names ih =>
    rw [List.mapM_cons] at h
    rcases bind_error h with first | ⟨t, -, h⟩
    · exact classTest_error first
    rcases bind_error h with others | ⟨ts, -, h⟩
    · exact ih others
    · cases h

theorem classesTest_error (h : classesTest xs = .error e) : e.isFinal = true := by
  rcases bind_error h with first | ⟨t, -, h⟩
  · exact classTest_error first
  rcases bind_error h with others | ⟨ts, -, h⟩
  · exact classTests_error others
  · cases h

namespace Reading

variable {r s : Reading}

theorem bar_error (h : r.bar = .error e) : Refusal e := by
  unfold bar at h
  split at h
  · cases h
    exact .inl rfl
  · cases h

theorem turn_error (h : r.turn c = .error e) : Refusal e := by
  unfold turn at h
  split at h
  · cases h
    exact .inl rfl
  · cases h
    exact .inl rfl
  · split at h
    · cases h
      exact .inr ⟨_, rfl⟩
    · cases h
    · cases h

theorem beginToken_error (h : r.beginToken c = .error e) : Refusal e := by
  delta beginToken at h
  split at h
  case isTrue => cases h
  split at h
  case isTrue => cases h
  split at h
  case isTrue => cases h
  -- Of the signs only the bar, the comma, the closing brackets and unknown ones can be refused.
  split at h
  iterate 9
    · cases h
  · exact bar_error h
  iterate 4
    · exact turn_error h
  · cases h
    exact .inl rfl

theorem awaitColon_error {name : String} (h : r.awaitColon name c = .error e) : Refusal e := by
  unfold awaitColon at h
  split at h
  · cases h
  split at h
  · cases h
  · cases h
    exact .inl rfl

theorem feed_error (h : r.feed c = .error e) : Refusal e := by
  obtain ⟨lexeme, current, frames⟩ := r
  cases lexeme with
  | blank => exact beginToken_error h
  | text k read =>
    simp only [feed] at h
    split at h
    · cases h
    split at h <;> cases h
  | escape k read => cases h
  | classes read =>
    simp only [feed] at h
    split at h
    · cases tested : classesTest read.reverse with
      | error e' =>
        rw [tested] at h
        cases h
        exact .inl (classesTest_error tested)
      | ok t =>
        rw [tested] at h
        cases h
    · cases h
  | count value =>
    simp only [feed] at h
    split at h
    · split at h
      · cases h
      · cases h
        exact .inl rfl
    · exact beginToken_error h
  | name read =>
    simp only [feed] at h
    split at h
    · cases h
    · exact awaitColon_error h
  | label name => exact awaitColon_error h

theorem foldlM_feed_error (h : xs.foldlM feed r = .error e) : Refusal e := by
  induction xs generalizing r with
  | nil => cases h
  | cons c xs ih =>
    rw [List.foldlM_cons] at h
    rcases bind_error h with refused | ⟨s, -, later⟩
    · exact feed_error refused
    · exact ih later

/-- At the end of the text something is missing, whatever was read. -/
theorem finish_error (h : r.finish = .error e) : e.isFinal = false := by
  obtain ⟨lexeme, current, frames⟩ := r
  cases lexeme with
  | blank =>
    unfold finish at h
    cases complete : current.complete? with
    | none =>
      simp only [complete] at h
      cases h
      rfl
    | some p =>
      simp only [complete] at h
      cases frames with
      | nil => cases h
      | cons frame _ =>
        cases h
        cases frame.1 <;> rfl
  | _ =>
    cases h
    rfl

/-- Some text after what was read makes the whole of it a pattern. -/
def Completable (r : Reading) : Prop :=
  ∃ more s p, Reads more r s ∧ s.finish = .ok p

theorem Completable.of_reads (h : Reads xs r s) (hs : s.Completable) : r.Completable := by
  obtain ⟨more, t, p, read, finished⟩ := hs
  exact ⟨xs ++ more, t, p, h.append read, finished⟩

end Reading

theorem Alternation.complete_operand (a : Alternation) (p : Pattern) :
    ∃ q, (a.operand p).complete? = some q :=
  ⟨_, rfl⟩

/-- The empty text, as an operand that can always follow. -/
theorem Reads.emptyText {r : Reading} (hr : r.lexeme = .blank) :
    Reads ['"', '"'] r (r.operand (.literal ⟨[], .matchCase⟩)) :=
  Reads.literal (k := .matchCase) .nil hr

/-- What is missing of a bracket after one of its parts: its closing character, or one more part
before that. -/
theorem Reads.bracketClosed {a : Alternation} (complete : a.complete? = some p) (b : Bracket)
    (outer : Alternation) (frames : List (Bracket × Alternation)) : ∃ more q,
      Reads more ⟨.blank, a, (b, outer) :: frames⟩ ⟨.blank, outer.operand q, frames⟩ := by
  have last {a : Alternation} {b : Bracket} {p q : Pattern} {c : Char}
      (complete : a.complete? = some p) (hc : c ∈ [',', ')', ']', '\x7d'])
      (ht : b.turn? p c = some (.closed q)) :
      Reads [c] ⟨.blank, a, (b, outer) :: frames⟩ ⟨.blank, outer.operand q, frames⟩ :=
    .single (Reading.feed_closed complete hc ht)
  have part {b b' : Bracket} (ht : b.turn? p ',' = some (.next b')) :
      Reads [',', '"', '"'] ⟨.blank, a, (b, outer) :: frames⟩
        ⟨.blank, Alternation.start.operand (.literal ⟨[], .matchCase⟩), (b', outer) :: frames⟩ :=
    .cons (Reading.feed_next complete ht) (.emptyText rfl)
  cases b with
  | group => exact ⟨_, _, last (c := ')') complete (by simp) rfl⟩
  | rangeOpener => exact ⟨_, _, (part rfl).append (last (c := ']') rfl (by simp) rfl)⟩
  | rangeCloser => exact ⟨_, _, last (c := ']') complete (by simp) rfl⟩
  | rangeEscape => exact ⟨_, _, last (c := ']') complete (by simp) rfl⟩
  | nestedOpener => exact ⟨_, _, (part rfl).append (last (c := '\x7d') rfl (by simp) rfl)⟩
  | nestedCloser => exact ⟨_, _, last (c := '\x7d') complete (by simp) rfl⟩

namespace Reading

variable {r : Reading}

/-- The open brackets are closed from the innermost one outwards. -/
theorem completable_of_complete {a : Alternation} (complete : a.complete? = some p)
    (frames : List (Bracket × Alternation)) : Completable ⟨.blank, a, frames⟩ := by
  induction frames generalizing a p with
  | nil =>
    have finished : finish ⟨.blank, a, []⟩ = .ok p := by
      simp only [finish, complete]
    exact ⟨[], _, p, .nil _, finished⟩
  | cons frame frames ih =>
    obtain ⟨b, outer⟩ := frame
    obtain ⟨more, q, closed⟩ := Reads.bracketClosed complete b outer frames
    obtain ⟨whole, outside⟩ := outer.complete_operand q
    exact (ih outside).of_reads closed

theorem completable_of_blank (hr : r.lexeme = .blank) : r.Completable := by
  obtain ⟨q, complete⟩ := r.current.complete_operand (.literal ⟨[], .matchCase⟩)
  exact (completable_of_complete complete r.frames).of_reads (.emptyText hr)

/-- Every token but the names of classes can be ended, wherever its text is cut. -/
theorem completable (hr : ∀ read, r.lexeme ≠ .classes read) : r.Completable := by
  obtain ⟨lexeme, current, frames⟩ := r
  have ended {l : Lexeme} {c : Char} {s : Reading} (step : feed ⟨l, current, frames⟩ c = .ok s)
      (hs : s.lexeme = .blank) : Completable ⟨l, current, frames⟩ :=
    (completable_of_blank hs).of_reads (.single step)
  have text (k : Comparison) (read : List Char) : Completable ⟨.text k read, current, frames⟩ := by
    have closed : feed ⟨.text k read, current, frames⟩ k.quote =
        .ok ⟨.blank, current.operand (.literal ⟨read.reverse, k⟩), frames⟩ := by
      simp only [feed, beq_self_eq_true, if_true]
      rfl
    exact ended closed rfl
  cases lexeme with
  | blank => exact completable_of_blank rfl
  | text k read => exact text k read
  | escape k read => exact (text k (k.quote :: read)).of_reads (.single rfl)
  | classes read => exact absurd rfl (hr read)
  | count value => exact ended (c := ' ') rfl rfl
  | name read => exact ended (c := ':') rfl rfl
  | label name => exact ended (c := ':') rfl rfl

end Reading

end Notation

namespace Pattern

open Notation

/-- Either a character is refused, or every one is read and something is missing at the end. -/
theorem parse_error {text : List Char} {e : NotationError} (h : parse text = .error e) :
    text.foldlM Reading.feed .start = .error e ∨
      ∃ r, Reads text .start r ∧ r.finish = .error e :=
  bind_error h

theorem parse_append_of_final {text : List Char} {e : NotationError} (h : parse text = .error e)
    (final : e.isFinal = true) (more : List Char) : parse (text ++ more) = .error e := by
  rcases parse_error h with refused | ⟨r, -, ended⟩
  · rw [parse, List.foldlM_append, refused]
    rfl
  · rw [Reading.finish_error ended] at final
    cases final

theorem exists_parse_append_of_ended {text : List Char} {e : NotationError}
    (h : parse text = .error e) (ended : e = .unexpectedEnd ∨ e = .unclosedString) :
    ∃ more p, parse (text ++ more) = .ok p := by
  rcases parse_error h with refused | ⟨r, read, cut⟩
  · exact absurd ended (Reading.foldlM_feed_error refused).not_ended
  · have token (names : List Char) : r.lexeme ≠ .classes names := by
      intro hl
      simp only [Reading.finish, hl] at cut
      cases cut
      rcases ended with ended | ended <;> cases ended
    obtain ⟨more, s, p, rest, finished⟩ := Reading.completable token
    have all : Reads (text ++ more) .start s := read.append rest
    refine ⟨more, p, ?_⟩
    rw [parse, all]
    exact finished

/-- An error about what was read stays whatever is written after it. A text that only ends too early,
inside a literal or elsewhere, is the beginning of a pattern. -/
theorem parse_errors_final_or_completable (text : List Char) (e : NotationError)
    (failed : parse text = .error e) :
    (e.isFinal = true → ∀ more, parse (text ++ more) = .error e) ∧
      (e = .unexpectedEnd ∨ e = .unclosedString → ∃ more p, parse (text ++ more) = .ok p) :=
  ⟨parse_append_of_final failed, exists_parse_append_of_ended failed⟩

/-- A count past the largest one, a text cut after a backslash inside a group, and a name without its
colon. -/
theorem parse_errors_final_or_completable_of_cut_texts :
    let count := "18446744073709551616".toList
    let escape := ['(', '"', 'a', '\\']
    let name := ['x', ' ']
    parse count = .error .invalidNumber ∧ (∀ more, parse (count ++ more) = .error .invalidNumber) ∧
      parse escape = .error .unclosedString ∧ (∃ more p, parse (escape ++ more) = .ok p) ∧
      parse name = .error .unexpectedEnd ∧ ∃ more p, parse (name ++ more) = .ok p := by
  intro count escape name
  have tooLarge : parse count = .error .invalidNumber := rfl
  have cutOff : parse escape = .error .unclosedString := rfl
  have unnamed : parse name = .error .unexpectedEnd := rfl
  exact ⟨tooLarge, (parse_errors_final_or_completable count _ tooLarge).1 rfl,
    cutOff, (parse_errors_final_or_completable escape _ cutOff).2 (.inr rfl),
    unnamed, (parse_errors_final_or_completable name _ unnamed).2 (.inl rfl)⟩

end Pattern

end TextPattern

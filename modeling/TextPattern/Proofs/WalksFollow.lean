import TextPattern.Proofs.Transaction
import TextPattern.Proofs.WordWalk

namespace TextPattern

/-- So little text that the sum of any two stretches of it fits a word. -/
def Cursor.Small (c : Cursor) : Prop :=
  c.text.length ≤ 2 ^ 61

theorem Cursor.Small.position {c : Cursor} (small : c.Small) : c.position ≤ 2 ^ 61 :=
  Nat.le_trans c.position_le small

theorem Cursor.Small.of_text {c d : Cursor} (small : c.Small) (text : d.text = c.text) :
    d.Small := by
  rw [Small, text]
  exact small

/-- Where a cursor has moved to, it is again in little text, and not far from its start. -/
theorem Cursor.Small.moved {c d : Cursor} {n : Nat} (small : c.Small)
    (moved : d.text = c.text ∧ d.position = c.position + n) :
    d.Small ∧ d.position = c.position + n ∧ d.position ≤ 2 ^ 61 :=
  have small' := small.of_text moved.1
  ⟨small', moved.2, small'.position⟩

theorem Cursor.position_skip {c : Cursor} (more : c.atEnd = false) :
    (c.advance 1).position = c.position + 1 := by
  apply Cursor.position_advance
  rw [← Cursor.remaining_eq]
  exact Cursor.remaining_pos more

theorem fits_word {n : Nat} (h : n ≤ 2 ^ 62) : n < UInt64.size := by
  rw [UInt64.size]
  omega

/-- There is room for a character more. -/
theorem Cursor.Small.room {c : Cursor} (small : c.Small) : c.position + 1 < UInt64.size := by
  have := small.position
  exact fits_word (by omega)

/-- Whether it succeeds or not, a move goes as far as it reports. -/
theorem Move.Follows.moved {a : Move} {x : Matcher (MatchError Pattern)} {c d : Cursor}
    {v : Verdict} (fa : a.Follows x) (h : a c v d) :
    d.text = c.text ∧ d.position = c.position + v.length := by
  cases hv : v.failed with
  | true =>
    obtain ⟨e, -, rfl, rfl⟩ := fa.failed h hv
    exact ⟨rfl, rfl⟩
  | false =>
    obtain ⟨m, hm, rfl, rfl⟩ := fa.passed h hv
    exact ⟨rfl, Cursor.position_advance (x.fits hm)⟩

theorem Trial.Follows.moved {a : Trial} {x : Matcher Unit} {c d : Cursor} {v : Verdict}
    (fa : a.Follows x) (h : a c (some v) d) :
    d.text = c.text ∧ d.position = c.position + v.length := by
  obtain ⟨m, hm, rfl, rfl⟩ := fa.present h
  exact ⟨rfl, Cursor.position_advance (x.fits hm)⟩

theorem Trial.Nonempty.pos {a : Trial} {c d : Cursor} {v : Verdict}
    (h : a.Nonempty c (some v) d) : 0 < v.length := by
  cases h with
  | kept _ pos => exact pos

namespace Walk

variable {α β : Type} {c : Cursor} {n : Nat} {v w : Verdict}

theorem bind_eq {σ : Type} {w : StateT σ (ExceptT Fault Part) α} {start after : σ} {a : α}
    (h : w start = Part.some (.ok (a, after))) (f : α → StateT σ (ExceptT Fault Part) β) :
    (w >>= f) start = f a after := by
  change (StateT.bind w f start : ExceptT Fault Part (β × σ)) = _
  rw [StateT.bind, h]
  exact Part.bind_some _ _

theorem bind_fault {σ : Type} {w : StateT σ (ExceptT Fault Part) α} {start : σ} {f : Fault}
    (h : w start = Part.some (.error f)) (next : α → StateT σ (ExceptT Fault Part) β) :
    (w >>= next) start = Part.some (.error f) := by
  change (StateT.bind w next start : ExceptT Fault Part (β × σ)) = _
  rw [StateT.bind, h]
  exact Part.bind_some _ _

theorem get_eq (c : WordCursor) : (get : Walk WordCursor) c = Part.some (.ok (c, c)) :=
  rfl

theorem throw_eq (f : Fault) (c : WordCursor) :
    (throw f : Walk α) c = Part.some (.error f) := by
  change ((throw f : ExceptT Fault Part α) >>= _ : ExceptT Fault Part (α × WordCursor)) = _
  exact Part.bind_some _ _

theorem position_eq (c : Cursor) : position c.word = Part.some (.ok (c.position, c.word)) :=
  bind_eq (get_eq _) _

theorem seek_eq (c : Cursor) (n : Nat) : seek n c.word = Part.some (.ok ((), (c.seek n).word)) :=
  rfl

theorem atEnd_eq (c : Cursor) : atEnd c.word = Part.some (.ok (c.atEnd, c.word)) :=
  bind_eq (get_eq _) _

theorem add_overflow {a b : Nat} (full : UInt64.size ≤ a + b) (c : WordCursor) :
    add a b c = Part.some (.error .overflow) := by
  rw [add, if_neg (by omega)]
  exact throw_eq .overflow c

theorem add_eq {a b : Nat} (room : a + b < UInt64.size) (c : WordCursor) :
    add a b c = Part.some (.ok (a + b, c)) := by
  rw [add, if_pos room]
  rfl

theorem sub_eq {a b : Nat} (order : b ≤ a) (c : WordCursor) :
    sub a b c = Part.some (.ok (a - b, c)) := by
  rw [sub, if_pos order]
  rfl

theorem advance_eq (room : c.position + n < UInt64.size) :
    advance n c.word = Part.some (.ok ((), (c.advance n).word)) := by
  rw [advance, bind_eq (position_eq c), bind_eq (add_eq room _)]
  rfl

theorem remaining_eq (c : Cursor) : remaining c.word = Part.some (.ok (c.remaining, c.word)) :=
  (bind_eq (get_eq _) _).trans (sub_eq c.position_le c.word)

theorem peek_eq (c : Cursor) : peek c.word = Part.some (.ok (c.peek, c.word)) := by
  have next : c.text[c.position]? = c.peek := List.head?_drop.symm
  rw [peek, bind_eq (get_eq _), ← next]
  rfl

theorem peekMany_eq (room : c.position + n < UInt64.size) : peekMany n c.word =
    Part.some (.ok (if n ≤ c.remaining then some (c.point.rest.take n) else none, c.word)) := by
  have enough : c.position + n ≤ c.text.length ↔ n ≤ c.remaining := by
    have := c.position_le
    rw [Cursor.remaining]
    omega
  rw [peekMany, bind_eq (get_eq _)]
  change (add c.position n >>= _) c.word = _
  rw [bind_eq (add_eq room _)]
  simp only [← enough]
  rfl

theorem slice_eq {start : Nat} (room : start + n < UInt64.size)
    (inside : start + n ≤ c.text.length) :
    slice start n c.word = Part.some (.ok ((c.text.drop start).take n, c.word)) := by
  rw [slice, bind_eq (get_eq _), bind_eq (add_eq room _)]
  exact congrFun (if_pos inside) _

theorem peekMany_overflow (full : UInt64.size ≤ c.position + n) :
    peekMany n c.word = Part.some (.error .overflow) := by
  rw [peekMany, bind_eq (get_eq _)]
  exact bind_fault (add_overflow full _) _

theorem slice_overflow {start : Nat} (full : UInt64.size ≤ start + n) :
    slice start n c.word = Part.some (.error .overflow) := by
  rw [slice, bind_eq (get_eq _)]
  exact bind_fault (add_overflow full _) _

theorem slice_outside {start : Nat} (room : start + n < UInt64.size)
    (past : c.text.length < start + n) : slice start n c.word = Part.some (.error .outside) := by
  rw [slice, bind_eq (get_eq _), bind_eq (add_eq room _)]
  exact (congrFun (if_neg (Nat.not_le.mpr past)) _).trans (throw_eq .outside _)

theorem extend_eq (room : v.length + w.length < UInt64.size) (c : WordCursor) :
    extend v w c = Part.some (.ok (v.extend w, c)) := by
  rw [extend, bind_eq (add_eq room _)]
  rfl

theorem measured_eq {start : Nat} (order : start ≤ c.position) :
    measured start v c.word = Part.some (.ok (v.withLength (c.position - start), c.word)) := by
  rw [measured, bind_eq (position_eq c), bind_eq (sub_eq order _)]
  rfl

theorem unterminated_eq (unclosed : MatchError Pattern) (start : Nat) (c : Cursor) :
    unterminated unclosed start c.word =
      Part.some (.ok (.failure unclosed, (c.seek start).word)) := by
  rw [unterminated, bind_eq (seek_eq c start)]
  rfl

theorem finish_eq {σ : Type} {w : Walk α} {a : α} {c d : WordCursor}
    (h : w c = Part.some (.ok (a, d))) :
    (finish w : Walk (α ⊕ σ)) c = Part.some (.ok (.inl a, d)) :=
  bind_eq h _

/-- In a small text a walk ends without a fault, and as a move does. -/
def Makes (w : Walk α) (a : Cursor → α → Cursor → Prop) : Prop :=
  ∀ ⦃c v d⦄, c.Small → a c v d → w c.word = Part.some (.ok (v, d.word))

/-- The same of a scan. Its way from `start` is no shorter than what it has reported so far. -/
def MakesScan (w : Nat → Verdict → Walk Verdict) (scan : Nat → Verdict → Move) : Prop :=
  ∀ ⦃start total c v d⦄, c.Small → start + total.length ≤ c.position → scan start total c v d →
    w start total c.word = Part.some (.ok (v, d.word))

section Steps

variable {a b : Move} {x y : Matcher (MatchError Pattern)} {p q : Walk Verdict}
  {short refused found unclosed : MatchError Pattern}

theorem block_makes {width : Nat} {accepts : List Char → Bool} (narrow : width ≤ 2 ^ 61) :
    (block width accepts short refused).Makes (Move.Block width accepts short refused) := by
  intro c v d small h
  have room : c.position + width < UInt64.size := by
    have := small.position
    exact fits_word (by omega)
  rw [block, bind_eq (peekMany_eq room)]
  cases h with
  | short few =>
    rw [if_neg (by omega)]
    rfl
  | taken enough ok =>
    rw [if_pos enough]
    dsimp only
    rw [if_pos ok, bind_eq (advance_eq room)]
    rfl
  | refused enough no =>
    rw [if_pos enough]
    dsimp only
    rw [if_neg (Bool.eq_false_iff.mp no)]
    rfl

theorem single_makes {accepts : Char → Bool} :
    (single accepts short refused).Makes (Move.Single accepts short refused) := by
  intro c v d small h
  rw [single, bind_eq (peek_eq c)]
  cases h with
  | short none =>
    rw [none]
    rfl
  | taken next ok =>
    rw [next]
    dsimp only
    rw [if_pos ok, bind_eq (advance_eq small.room)]
    rfl
  | refused next no =>
    rw [next]
    dsimp only
    rw [if_neg (Bool.eq_false_iff.mp no)]
    rfl

theorem sequence_makes (fa : a.Follows x) (fb : b.Follows y) (ha : p.Makes a) (hb : q.Makes b) :
    (sequence p q).Makes (Move.Sequence a b) := by
  intro c v d small h
  rw [sequence, bind_eq (position_eq c)]
  cases h with
  | first h hf =>
    rw [bind_eq (ha small h), if_pos hf, bind_eq (seek_eq _ _)]
    rfl
  | second h hp h' hf =>
    have small' := small.of_text (fa.moved h).1
    rw [bind_eq (ha small h), if_neg (Bool.eq_false_iff.mp hp), bind_eq (hb small' h'), if_pos hf,
      bind_eq (seek_eq _ _)]
    rfl
  | both h hp h' hp' =>
    obtain ⟨small', step, -⟩ := small.moved (fa.moved h)
    obtain ⟨-, step', ends⟩ := small'.moved (fb.moved h')
    rw [bind_eq (ha small h), if_neg (Bool.eq_false_iff.mp hp), bind_eq (hb small' h'),
      if_neg (Bool.eq_false_iff.mp hp')]
    exact extend_eq (fits_word (by omega)) _

theorem attempt_makes {header : Cursor → Bool} {test : Walk Bool}
    (agree : ∀ c : Cursor, test c.word = Part.some (.ok (header c, c.word))) (ha : p.Makes a) :
    (attempt test p).Makes (Trial.Attempt header a) := by
  intro c v d small h
  rw [attempt, bind_eq (agree c)]
  cases h with
  | ruledOut off =>
    rw [if_neg (Bool.eq_false_iff.mp off)]
    rfl
  | matched on h hp =>
    rw [if_pos on, bind_eq (position_eq c), bind_eq (ha small h),
      if_neg (Bool.eq_false_iff.mp hp)]
    rfl
  | undone on h hf =>
    rw [if_pos on, bind_eq (position_eq c), bind_eq (ha small h), if_pos hf,
      bind_eq (seek_eq _ _)]
    rfl

theorem choice_makes {t : Trial} {z : Matcher Unit} {r : Walk (Option Verdict)}
    (ft : t.Follows z) (ht : r.Makes t) (hb : q.Makes b) :
    (choice r q).Makes (Move.Choice t b) := by
  intro c v d small h
  rw [choice, bind_eq (position_eq c)]
  cases h with
  | first h =>
    rw [bind_eq (ht small h)]
    rfl
  | second h h' hp =>
    obtain ⟨-, -, rfl⟩ := ft.absent h
    rw [bind_eq (ht small h)]
    dsimp only
    rw [bind_eq (hb small h'), if_neg (Bool.eq_false_iff.mp hp)]
    rfl
  | neither h h' hf =>
    obtain ⟨-, -, rfl⟩ := ft.absent h
    rw [bind_eq (ht small h)]
    dsimp only
    rw [bind_eq (hb small h'), if_pos hf, bind_eq (seek_eq _ _)]
    rfl

theorem optional_makes (ha : p.Makes a) : p.optional.Makes (Move.Optional a) := by
  intro c v d small h
  rw [optional, bind_eq (position_eq c)]
  cases h with
  | present h hp =>
    rw [bind_eq (ha small h), if_neg (Bool.eq_false_iff.mp hp)]
    rfl
  | absent h hf =>
    rw [bind_eq (ha small h), if_pos hf, bind_eq (seek_eq _ _)]
    rfl

theorem captured_makes (name : String) (fa : a.Follows x) (ha : p.Makes a) :
    (p.captured name).Makes (Move.Captured name a) := by
  intro c v d small h
  rw [captured, bind_eq (position_eq c)]
  cases h with
  | @recorded _ v _ h hp =>
    have inside : c.position + v.length ≤ d.text.length := by
      rw [← (fa.moved h).2]
      exact d.position_le
    have room : d.text.length ≤ 2 ^ 61 := small.of_text (fa.moved h).1
    rw [bind_eq (ha small h), if_neg (Bool.eq_false_iff.mp hp),
      bind_eq (slice_eq (fits_word (by omega)) inside)]
    rfl
  | failed h hf =>
    rw [bind_eq (ha small h), if_pos hf]
    rfl

theorem anythingBut_makes (fa : a.Follows x) (ha : p.Makes a) :
    (p.anythingBut short found).Makes (Move.AnythingBut a short found) := by
  intro c v d small h
  rw [anythingBut, bind_eq (position_eq c)]
  cases h with
  | found h hp =>
    rw [bind_eq (ha small h), bind_eq (seek_eq _ _), if_neg (Bool.eq_false_iff.mp hp)]
    rfl
  | short h hf ended =>
    rw [bind_eq (ha small h), bind_eq (seek_eq _ _), if_pos hf, bind_eq (atEnd_eq _), if_pos ended]
    rfl
  | taken h hf more =>
    rw [bind_eq (ha small h), bind_eq (seek_eq _ _), if_pos hf, bind_eq (atEnd_eq _),
      if_neg (Bool.eq_false_iff.mp more)]
    rw [Cursor.seek_position (fa.moved h).1]
    rw [bind_eq (advance_eq small.room)]
    rfl

theorem spanFrom_makes (fa : a.Follows x) (ha : p.Makes a) {total : Verdict} {c d : Cursor}
    {v : Verdict} (h : Move.SpanFrom a total c v d) (small : c.Small)
    (behind : total.length ≤ c.position) :
    p.spanFrom total c.word = Part.some (.ok (v, d.word)) := by
  -- What is reported so far lies behind the cursor.
  induction h with
  | fails h hf =>
    refine loop_done ?_
    rw [spanRound, bind_eq (position_eq _), bind_eq (ha small h), if_pos hf, bind_eq (seek_eq _ _)]
    rfl
  | stays h hp zero =>
    obtain ⟨-, step, ends⟩ := small.moved (fa.moved h)
    refine loop_done ?_
    rw [spanRound, bind_eq (position_eq _), bind_eq (ha small h), if_neg (Bool.eq_false_iff.mp hp),
      bind_eq (extend_eq (fits_word (by omega)) _), if_pos zero]
    rfl
  | onward h hp pos _ ih =>
    obtain ⟨small', step, ends⟩ := small.moved (fa.moved h)
    refine (loop_again ?_).trans (ih small' ?_)
    · rw [spanRound, bind_eq (position_eq _), bind_eq (ha small h),
        if_neg (Bool.eq_false_iff.mp hp), bind_eq (extend_eq (fits_word (by omega)) _),
        if_neg (by omega)]
      rfl
    · simp only [Verdict.extend]
      omega

theorem span_makes (fa : a.Follows x) (ha : p.Makes a) :
    (p.spanFrom (.success 0)).Makes (Move.SpanFrom a (.success 0)) :=
  fun _ _ _ small h => spanFrom_makes fa ha h small (Nat.zero_le _)

theorem timesFrom_makes (fa : a.Follows x) (ha : p.Makes a) {start count : Nat} {total : Verdict}
    {c d : Cursor} {v : Verdict} (h : Move.TimesFrom a start count total c v d) (small : c.Small)
    (behind : total.length ≤ c.position) :
    p.timesFrom start count total c.word = Part.some (.ok (v, d.word)) := by
  induction h with
  | done => rfl
  | fails h hf =>
    rw [timesFrom, bind_eq (ha small h), if_pos hf, bind_eq (seek_eq _ _)]
    rfl
  | onward h hp _ ih =>
    obtain ⟨small', step, ends⟩ := small.moved (fa.moved h)
    rw [timesFrom, bind_eq (ha small h), if_neg (Bool.eq_false_iff.mp hp),
      bind_eq (extend_eq (fits_word (by omega)) _)]
    refine ih small' ?_
    simp only [Verdict.extend]
    omega

theorem times_makes (fa : a.Follows x) (ha : p.Makes a) (count : Nat) :
    (p.times count).Makes fun c => Move.TimesFrom a c.position count (.success 0) c := by
  intro c v d small h
  rw [times, bind_eq (position_eq c)]
  exact timesFrom_makes fa ha h small (Nat.zero_le _)

theorem opened_makes {scan : Nat → Verdict → Move} {through : Nat → Verdict → Walk Verdict}
    (fa : a.Follows x) (ha : p.Makes a) (hs : MakesScan through scan) :
    (p.opened through).Makes (Move.Opened a scan) := by
  intro c v d small h
  rw [opened, bind_eq (position_eq c)]
  cases h with
  | failed h hf =>
    rw [bind_eq (ha small h), if_pos hf, bind_eq (seek_eq _ _)]
    rfl
  | scanned h hp h' =>
    rw [bind_eq (ha small h), if_neg (Bool.eq_false_iff.mp hp)]
    exact hs (small.of_text (fa.moved h).1) (Nat.le_of_eq (fa.moved h).2.symm) h'

theorem inMode_makes (fa : a.Follows x) (ha : p.Makes a) (subject : Pattern) (mode : Mode) :
    (p.inMode subject mode).Makes (a.inMode subject mode) := by
  cases mode with
  | consume => exact ha
  | neglect => exact anythingBut_makes fa ha

end Steps

section Scans

variable {closer escape opener : Trial} {x y : Matcher Unit} {p q : Walk (Option Verdict)}
  {unclosed : MatchError Pattern} {start : Nat} {total : Verdict} {d : Cursor}

/-- A closer ends a scan: what is reported is added up, and the length is measured anew. -/
theorem close_eq (fc : closer.Follows x) (small : c.Small)
    (behind : start + total.length ≤ c.position) (h : closer c (some v) d) :
    (extend total v >>= measured start) d.word =
      Part.some (.ok ((total.extend v).withLength (d.position - start), d.word)) := by
  obtain ⟨-, step, ends⟩ := small.moved (fc.moved h)
  rw [bind_eq (extend_eq (fits_word (by omega)) _)]
  exact measured_eq (by omega)

theorem skip_ended {σ : Type} (s : σ) (ended : c.atEnd = true) : skip unclosed start s c.word =
    Part.some (.ok (.inl (.failure unclosed), (c.seek start).word)) := by
  rw [skip, bind_eq (atEnd_eq _), if_pos ended]
  exact finish_eq (unterminated_eq _ _ _)

theorem skip_onward {σ : Type} (s : σ) (small : c.Small) (more : c.atEnd = false) :
    skip unclosed start s c.word = Part.some (.ok (.inr s, (c.advance 1).word)) := by
  rw [skip, bind_eq (atEnd_eq _), if_neg (Bool.eq_false_iff.mp more),
    bind_eq (advance_eq small.room)]
  rfl

theorem closerRound_closed (fc : closer.Follows x) (hc : p.Makes closer) (small : c.Small)
    (behind : start + total.length ≤ c.position) (h : closer c (some v) d) :
    closerRound p unclosed start total c.word =
      Part.some (.ok (.inl ((total.extend v).withLength (d.position - start)), d.word)) := by
  rw [closerRound, bind_eq (hc small h)]
  exact finish_eq (close_eq fc small behind h)

theorem closerRound_missed (hc : p.Makes closer) (small : c.Small) (h : closer c none d) :
    closerRound p unclosed start total c.word = skip unclosed start total d.word := by
  rw [closerRound, bind_eq (hc small h)]

theorem toCloser_makes (fc : closer.Follows x) (hc : p.Makes closer) :
    MakesScan (toCloser p unclosed) (Move.ToCloser closer unclosed) := by
  intro start total c v d small behind h
  induction h with
  | closed h => exact loop_done (closerRound_closed fc hc small behind h)
  | unclosed h ended =>
    exact loop_done ((closerRound_missed hc small h).trans (skip_ended _ ended))
  | onward h more _ ih =>
    obtain ⟨-, -, rfl⟩ := fc.absent h
    refine (loop_again ?_).trans (ih small ?_)
    · exact (closerRound_missed hc small h).trans (skip_onward _ small more)
    · rw [Cursor.position_skip more]
      omega

theorem toUnescaped_makes (fc : closer.Follows x) (fe : escape.Follows y) (hc : p.Makes closer)
    (he : q.Makes escape) :
    MakesScan (toUnescaped p q unclosed) (Move.ToUnescaped closer escape unclosed) := by
  intro start total c v d small behind h
  induction h with
  | cutOff h ended =>
    obtain ⟨-, step, ends⟩ := small.moved (fe.moved h)
    refine loop_done ?_
    rw [unescapedRound, bind_eq (he small h)]
    dsimp only
    rw [bind_eq (extend_eq (fits_word (by omega)) _)]
    exact skip_ended _ ended
  | escaped h more _ ih =>
    obtain ⟨small', step, ends⟩ := small.moved (fe.moved h)
    refine (loop_again ?_).trans (ih small' ?_)
    · rw [unescapedRound, bind_eq (he small h)]
      dsimp only
      rw [bind_eq (extend_eq (fits_word (by omega)) _)]
      exact skip_onward _ small' more
    · simp only [Verdict.extend, Cursor.position_skip more]
      omega
  | closed h h' =>
    obtain ⟨-, -, rfl⟩ := fe.absent h
    refine loop_done ?_
    rw [unescapedRound, bind_eq (he small h)]
    exact closerRound_closed fc hc small behind h'
  | unclosed h h' ended =>
    obtain ⟨-, -, rfl⟩ := fe.absent h
    refine loop_done ?_
    rw [unescapedRound, bind_eq (he small h)]
    exact (closerRound_missed hc small h').trans (skip_ended _ ended)
  | onward h h' more _ ih =>
    obtain ⟨-, -, rfl⟩ := fe.absent h
    obtain ⟨-, -, rfl⟩ := fc.absent h'
    refine (loop_again ?_).trans (ih small ?_)
    · rw [unescapedRound, bind_eq (he small h)]
      exact (closerRound_missed hc small h').trans (skip_onward _ small more)
    · rw [Cursor.position_skip more]
      omega

theorem nonempty_eq {o : Option Verdict} (h : p c.word = Part.some (.ok (o, d.word))) :
    p.nonempty c.word = Part.some (.ok (o.filter (0 < ·.length), d.word)) :=
  bind_eq h _

theorem nonempty_makes (ha : p.Makes opener) : p.nonempty.Makes opener.Nonempty := by
  intro c v d small h
  cases h with
  | kept h pos => rw [nonempty_eq (ha small h), Option.filter_some, decide_eq_true pos, if_pos rfl]
  | empty h zero =>
    rw [nonempty_eq (ha small h), Option.filter_some, zero]
    rfl
  | absent h => exact nonempty_eq (ha small h)

section Rounds

variable {b : Cursor} {depth : Nat}

theorem balanceRound_balanced (closed : p c.word = Part.some (.ok (some v, d.word)))
    (room : total.length + v.length < UInt64.size) (order : start ≤ d.position) :
    balanceRound p q unclosed start (1, total) c.word =
      Part.some (.ok (.inl ((total.extend v).withLength (d.position - start)), d.word)) := by
  rw [balanceRound, bind_eq closed]
  dsimp only
  rw [bind_eq (extend_eq room _), bind_eq (sub_eq (Nat.le_refl 1) _)]
  exact finish_eq (measured_eq order)

theorem balanceRound_closed (closed : p c.word = Part.some (.ok (some v, d.word)))
    (room : total.length + v.length < UInt64.size) :
    balanceRound p q unclosed start (depth + 2, total) c.word =
      Part.some (.ok (.inr (depth + 1, total.extend v), d.word)) := by
  rw [balanceRound, bind_eq closed]
  dsimp only
  rw [bind_eq (extend_eq room _), bind_eq (sub_eq (by omega) _), if_neg (by omega)]
  rfl

theorem balanceRound_opened (missed : p c.word = Part.some (.ok (none, b.word)))
    (opened : q.nonempty b.word = Part.some (.ok (some v, d.word)))
    (room : total.length + v.length < UInt64.size) (levels : depth + 1 < UInt64.size) :
    balanceRound p q unclosed start (depth, total) c.word =
      Part.some (.ok (.inr (depth + 1, total.extend v), d.word)) := by
  rw [balanceRound, bind_eq missed]
  dsimp only
  rw [bind_eq opened]
  dsimp only
  rw [bind_eq (extend_eq room _), bind_eq (add_eq levels _)]
  rfl

theorem balanceRound_missed (missed : p c.word = Part.some (.ok (none, b.word)))
    (unopened : q.nonempty b.word = Part.some (.ok (none, d.word))) :
    balanceRound p q unclosed start (depth, total) c.word =
      skip unclosed start (depth, total) d.word := by
  rw [balanceRound, bind_eq missed]
  dsimp only
  rw [bind_eq unopened]

end Rounds

/-- Every open level has an opener of its own behind the cursor, and each of these took a character,
so that the levels are no more than the characters. -/
theorem toBalance_makes (fc : closer.Follows x) (fo : opener.Follows y) (hc : p.Makes closer)
    (ho : q.Makes opener) {depth : Nat} {c : Cursor} {v : Verdict} (small : c.Small)
    (behind : start + total.length ≤ c.position) (levels : depth ≤ c.position + 1)
    (h : Move.ToBalance closer opener unclosed start depth total c v d) :
    toBalance p q unclosed start depth total c.word = Part.some (.ok (v, d.word)) := by
  induction h with
  | balanced h =>
    obtain ⟨-, step, ends⟩ := small.moved (fc.moved h)
    exact loop_done (balanceRound_balanced (hc small h) (fits_word (by omega)) (by omega))
  | closed h _ ih =>
    obtain ⟨small', step, ends⟩ := small.moved (fc.moved h)
    refine (loop_again ?_).trans (ih small' ?_ (by omega))
    · exact balanceRound_closed (hc small h) (fits_word (by omega))
    · simp only [Verdict.extend]
      omega
  | opened h h' _ ih =>
    obtain ⟨-, -, rfl⟩ := fc.absent h
    obtain ⟨small', step, ends⟩ := small.moved ((Trial.nonempty_follows fo).moved h')
    have pos := h'.pos
    refine (loop_again ?_).trans (ih small' ?_ (by omega))
    · exact balanceRound_opened (hc small h) (nonempty_makes ho small h') (fits_word (by omega))
        (fits_word (by omega))
    · simp only [Verdict.extend]
      omega
  | unclosed h h' ended =>
    obtain ⟨-, -, rfl⟩ := fc.absent h
    refine loop_done ?_
    rw [balanceRound_missed (hc small h) (nonempty_makes ho small h')]
    exact skip_ended _ ended
  | onward h h' more _ ih =>
    obtain ⟨-, -, rfl⟩ := fc.absent h
    obtain ⟨-, -, rfl⟩ := (Trial.nonempty_follows fo).absent h'
    have step := Cursor.position_skip more
    refine (loop_again ?_).trans (ih small (by omega) (by omega))
    rw [balanceRound_missed (hc small h) (nonempty_makes ho small h')]
    exact skip_onward _ small more

theorem balance_makes (fc : closer.Follows x) (fo : opener.Follows y) (hc : p.Makes closer)
    (ho : q.Makes opener) :
    MakesScan (toBalance p q unclosed · 1) (Move.ToBalance closer opener unclosed · 1) :=
  fun _ _ _ _ _ small behind h => toBalance_makes fc fo hc ho small behind (Nat.le_add_left 1 _) h

end Scans

section Headers

theorem either_eq {a b : Walk Bool} {x y : Bool} (ha : a c.word = Part.some (.ok (x, c.word)))
    (hb : b c.word = Part.some (.ok (y, c.word))) :
    a.either b c.word = Part.some (.ok (x || y, c.word)) := by
  rw [either, bind_eq ha]
  cases x with
  | true => rfl
  | false => exact hb

theorem sees_eq (accepts : Char → Bool) (c : Cursor) :
    sees accepts c.word = Part.some (.ok (c.point.rest.head?.any accepts, c.word)) := by
  rw [sees, bind_eq (peek_eq c)]
  rfl

theorem more_eq (c : Cursor) : more c.word = Part.some (.ok (!c.point.rest.isEmpty, c.word)) := by
  rw [more, bind_eq (atEnd_eq c), Cursor.atEnd_eq]
  rfl

theorem enough_eq (n : Nat) (c : Cursor) :
    (do let left ← remaining; return n ≤ left : Walk Bool) c.word =
      Part.some (.ok (hasLength n c.point.rest, c.word)) := by
  have same : decide (n ≤ c.remaining) = hasLength n c.point.rest := by
    rw [Bool.eq_iff_iff, hasLength_iff, decide_eq_true_iff, Cursor.remaining_eq]
  rw [bind_eq (remaining_eq c), ← same]
  rfl

theorem decided_eq {a : Walk Bool} {x : Bool} (known : Bool)
    (ha : a c.word = Part.some (.ok (x, c.word))) :
    (if known then return true else a : Walk Bool) c.word =
      Part.some (.ok (known || x, c.word)) := by
  cases known with
  | true => rfl
  | false => exact ha

theorem required_eq {a : Walk Bool} {x : Bool} (known : Bool)
    (ha : a c.word = Part.some (.ok (x, c.word))) :
    (if known then a else return false : Walk Bool) c.word =
      Part.some (.ok (known && x, c.word)) := by
  cases known with
  | true => exact ha
  | false => rfl

end Headers

end Walk

namespace Pattern

/-- No literal of a pattern is longer than so many characters. -/
def LiteralsWithin (bound : Nat) : Pattern → Prop
  | literal l => l.width ≤ bound
  | test _ => True
  | seq left right | alt left right => left.LiteralsWithin bound ∧ right.LiteralsWithin bound
  | optional inner | span inner | repeated inner _ | negation inner | capture inner _ =>
    inner.LiteralsWithin bound
  | range opener closer | nestedRange opener closer =>
    opener.LiteralsWithin bound ∧ closer.LiteralsWithin bound
  | escapedRange opener closer escape =>
    opener.LiteralsWithin bound ∧ closer.LiteralsWithin bound ∧ escape.LiteralsWithin bound

theorem headerWalk_eq (p : Pattern) (mode : Mode) (c : Cursor) :
    p.headerWalk mode c.word = Part.some (.ok (p.header mode c.point.rest, c.word)) := by
  induction p generalizing mode with
  | literal l =>
    obtain ⟨text, k⟩ := l
    cases mode with
    | consume =>
      rcases text with _ | ⟨first, _⟩
      · rfl
      · have seen := Walk.sees_eq (k.sameChar first) c
        generalize c.point.rest = ahead at seen ⊢
        cases ahead <;> exact seen
    | neglect =>
      rcases text with _ | ⟨only, _ | ⟨next, more⟩⟩
      · rfl
      · have seen := Walk.sees_eq (fun c => !k.sameChar only c) c
        generalize c.point.rest = ahead at seen ⊢
        cases ahead <;> exact seen
      · exact Walk.enough_eq _ c
  | test t => cases mode <;> exact Walk.sees_eq _ c
  | seq left right ihl ihr =>
    cases mode with
    | neglect => exact Walk.more_eq c
    | consume => exact Walk.either_eq (ihl .consume) (Walk.required_eq _ (ihr .consume))
  | alt left right ihl ihr =>
    cases mode with
    | neglect => exact Walk.more_eq c
    | consume => exact Walk.either_eq (ihl .consume) (ihr .consume)
  | optional inner _ =>
    cases mode with
    | neglect => exact Walk.more_eq c
    | consume => rfl
  | span inner _ =>
    cases mode with
    | neglect => exact Walk.more_eq c
    | consume => rfl
  | repeated inner count ih =>
    cases mode with
    | neglect => exact Walk.more_eq c
    | consume => exact Walk.decided_eq _ (ih .consume)
  | negation inner ih => exact ih mode.flip
  | capture inner _ ih => exact ih mode
  | range opener _ ih _ =>
    cases mode with
    | neglect => exact Walk.more_eq c
    | consume => exact Walk.decided_eq _ (ih .consume)
  | escapedRange opener _ _ ih _ _ =>
    cases mode with
    | neglect => exact Walk.more_eq c
    | consume => exact Walk.decided_eq _ (ih .consume)
  | nestedRange opener _ ih _ =>
    cases mode with
    | neglect => exact Walk.more_eq c
    | consume => exact Walk.decided_eq _ (ih .consume)

/-- The checked program of a pattern with short literals makes just the moves of the pattern. -/
theorem walk_makes {p : Pattern} (short : p.LiteralsWithin (2 ^ 61)) (mode : Mode) :
    (p.walk mode).Makes (p.moves mode) := by
  have tries {q : Pattern} (hq : (q.walk .consume).Makes (q.moves .consume)) :
      (Walk.attempt (q.headerWalk .consume) (q.walk .consume)).Makes
        (Trial.Attempt (·.header q .consume) (q.moves .consume)) :=
    Walk.attempt_makes (q.headerWalk_eq .consume) hq
  have trial (q : Pattern) : (Trial.Attempt (·.header q .consume) (q.moves .consume)).Follows _ :=
    Move.attempt_follows (fun _ => rfl) (q.moves_follow .consume)
  have whole {q : Pattern} {w : Walk Verdict} (hw : w.Makes (q.moves .consume)) (mode : Mode) :
      (w.inMode q mode).Makes ((q.moves .consume).inMode q mode) :=
    Walk.inMode_makes (q.moves_follow .consume) hw q mode
  induction p generalizing mode with
  | literal l => cases mode <;> exact Walk.block_makes short
  | test t => cases mode <;> exact Walk.single_makes
  | seq left right ihl ihr =>
    exact whole (q := seq left right) (Walk.sequence_makes (left.moves_follow .consume)
      (right.moves_follow .consume) (ihl short.1 .consume) (ihr short.2 .consume)) mode
  | alt left right ihl ihr =>
    exact whole (q := alt left right) (Walk.choice_makes (trial left) (tries (ihl short.1 .consume))
      (ihr short.2 .consume)) mode
  | optional inner ih =>
    exact whole (q := optional inner) (Walk.optional_makes (ih short .consume)) mode
  | span inner ih =>
    exact whole (q := span inner)
      (Walk.span_makes (inner.moves_follow .consume) (ih short .consume)) mode
  | repeated inner count ih =>
    exact whole (q := repeated inner count)
      (Walk.times_makes (inner.moves_follow .consume) (ih short .consume) count.toNat) mode
  | negation inner ih => exact ih short mode.flip
  | range opener closer iho ihc =>
    exact whole (q := range opener closer) (Walk.opened_makes (opener.moves_follow .consume)
      (iho short.1 .consume)
      (Walk.toCloser_makes (trial closer) (tries (ihc short.2 .consume)))) mode
  | escapedRange opener closer escape iho ihc ihe =>
    exact whole (q := escapedRange opener closer escape)
      (Walk.opened_makes (opener.moves_follow .consume) (iho short.1 .consume)
        (Walk.toUnescaped_makes (trial closer) (trial escape) (tries (ihc short.2.1 .consume))
          (tries (ihe short.2.2 .consume)))) mode
  | nestedRange opener closer iho ihc =>
    exact whole (q := nestedRange opener closer)
      (Walk.opened_makes (opener.moves_follow .consume) (iho short.1 .consume)
        (Walk.balance_makes (trial closer) (trial opener) (tries (ihc short.2 .consume))
          (tries (iho short.1 .consume)))) mode
  | capture inner name ih =>
    exact Walk.captured_makes name (inner.moves_follow mode) (ih short mode)

/-- The checked program of a pattern comes to no fault, and it ends as `Cursor.run` does. -/
theorem walk_eq {p : Pattern} (short : p.LiteralsWithin (2 ^ 61)) (mode : Mode) {c : Cursor}
    (small : c.Small) : p.walk mode c.word =
      Part.some (.ok (.ofResult (c.run p mode).1, (c.run p mode).2.word)) := by
  refine walk_makes short mode small ?_
  rw [(p.moves_follow mode).iff_ends, Matcher.ends_iff, Cursor.run_eq_follow]
  exact ⟨rfl, rfl⟩

end Pattern

end TextPattern

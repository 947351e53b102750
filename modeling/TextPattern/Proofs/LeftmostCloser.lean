import TextPattern.Proofs.ExtremeHits
import TextPattern.Proofs.ScansFollow

namespace TextPattern

namespace Matcher

variable {δ ε : Type} {closer escape again : Matcher δ} {unclosed : ε} {text : List Char}
  {start o : Nat}

/-- What a range comes to that has taken `k` up to `start`, when `found` is what a search for its
closer answers. -/
def closedBy (unclosed : ε) (k : Match) (start : Nat) (found : Option Hit) : Except ε Match :=
  match found with
  | some hit => .ok ⟨k.length + (hit.stop - start), k.captures ++ hit.captures⟩
  | none => .error unclosed

theorem closedBy_exists_iff {k : Match} {found : Option Hit} :
    (∃ m, closedBy unclosed k start found = .ok m) ↔ ∃ hit, found = some hit := by
  cases found <;> simp [closedBy]

/-- One round of a scan in which neither an escape nor an opener counts: a closer ends it, and any
other character is passed over. -/
def closingRound (closer : Matcher δ) (unclosed : ε) (scan : Match → Point → Except ε Match)
    (acc : Match) (p : Point) : Except ε Match :=
  match closer.run p with
  | .ok m => .ok (acc ++ m)
  | .error _ => if p.atEnd then .error unclosed else scan acc.skip (p.advance 1)

theorem closedBy_skip {k : Match} {found : Option Hit}
    (later : ∀ hit, found = some hit → start + 1 ≤ hit.stop) :
    closedBy unclosed k.skip (start + 1) found = closedBy unclosed k start found := by
  cases found with
  | none => rfl
  | some hit =>
    have := later hit rfl
    have length : k.length + 1 + (hit.stop - (start + 1)) = k.length + (hit.stop - start) := by
      omega
    simp only [closedBy, Match.length_skip, Match.captures_skip, length]

theorem hitAtOffset_of_ok {m : Match} (inside : start ≤ text.length)
    (h : closer.run (.within text start) = .ok m) :
    closer.hitAtOffset text start = some (.ofMatch (.within text start) m) :=
  hitAtOffset_eq_some_iff.mpr ⟨inside, m, h, rfl⟩

theorem hitAtOffset_of_error {e : δ} (h : closer.run (.within text start) = .error e) :
    closer.hitAtOffset text start = none := by
  simp only [hitAtOffset, hitAt, h, ite_self]

theorem atEnd_within : (Point.within text start).atEnd ↔ text.length ≤ start := by
  rw [Point.atEnd_iff, Point.rest_within, List.length_drop, Nat.sub_eq_zero_iff_le]

/-- A scan that goes round by round is a search for the closer. -/
theorem scan_eq_closedBy {scan : Match → Point → Except ε Match} {start : Nat}
    (round : ∀ acc o, start ≤ o → o ≤ text.length →
      scan acc (.within text o) = closer.closingRound unclosed scan acc (.within text o))
    (acc : Match) (inside : start ≤ text.length) :
    scan acc (.within text start) = closedBy unclosed acc start (closer.firstHit text start) := by
  rw [round acc start (Nat.le_refl _) inside, closingRound, Point.advance_within,
    firstHit_of_le inside]
  cases here : closer.run (.within text start) with
  | ok m =>
    rw [hitAtOffset_of_ok inside here, Option.some_or]
    simp only [closedBy, Hit.ofMatch, Point.offset_within, Nat.add_sub_cancel_left]
    rfl
  | error e =>
    rw [hitAtOffset_of_error here, Option.none_or]
    by_cases more : start < text.length
    · have going : ¬(Point.within text start).atEnd := mt atEnd_within.mp (Nat.not_le_of_lt more)
      simp only [going, Bool.false_eq_true, ↓reduceIte]
      rw [scan_eq_closedBy (fun acc o low => round acc o (Nat.le_of_succ_le low)) acc.skip more]
      refine closedBy_skip fun hit found => ?_
      obtain ⟨low, ordered, -⟩ := firstHit_bounds found
      exact Nat.le_trans low ordered
    · have ended : (Point.within text start).atEnd := atEnd_within.mpr (Nat.le_of_not_lt more)
      simp only [ended, ↓reduceIte, firstHit_of_lt (Nat.lt_succ_of_le (Nat.le_of_not_lt more)),
        closedBy]
termination_by text.length - start

theorem throughCloser_round (closer : Matcher δ) (unclosed : ε) (acc : Match) (p : Point) :
    closer.throughCloser unclosed acc p.offset p.rest = closer.closingRound unclosed
      (fun acc p => closer.throughCloser unclosed acc p.offset p.rest) acc p :=
  closer.throughCloser_eq unclosed acc p

theorem throughUnescaped_round {e : δ} {p : Point} (inert : escape.run p = .error e) (acc : Match) :
    closer.throughUnescaped escape unclosed acc p =
      closer.closingRound unclosed (closer.throughUnescaped escape unclosed) acc p := by
  rw [throughUnescaped, inert]
  cases here : closer.run p <;> simp only [closingRound, here]

theorem throughBalance_round {p : Point}
    (inert : ∀ m, again.run p = .ok m → 0 < m.length → ∃ n, closer.run p = .ok n) (acc : Match) :
    closer.throughBalance again unclosed 0 acc p =
      closer.closingRound unclosed (closer.throughBalance again unclosed 0) acc p := by
  rw [throughBalance, closingRound]
  cases here : closer.run p with
  | ok n => rfl
  | error e =>
    cases opened : again.nonempty.run p with
    | error e' => rfl
    | ok m =>
      obtain ⟨matched, pos⟩ := run_nonempty_ok_iff.mp opened
      obtain ⟨n, closes⟩ := inert m matched pos
      rw [here] at closes
      cases closes

section Ranges

variable {opener : Matcher ε} {k : Match} (opened : opener.run (.within text start) = .ok k)
  (inside : start ≤ text.length)

include opened inside

theorem opener_inside : start + k.length ≤ text.length := by
  have fits := opener.fits opened
  rw [Point.rest_within, List.length_drop] at fits
  omega

theorem range_closedBy : (opener.range closer unclosed).run (.within text start) =
    closedBy unclosed k (start + k.length) (closer.firstHit text (start + k.length)) := by
  simp only [range, opened, Point.offset_within, Point.rest_within, List.drop_drop]
  let scan acc (p : Point) := closer.throughCloser unclosed acc p.offset p.rest
  have round acc o (_ : start + k.length ≤ o) (_ : o ≤ text.length) :
      scan acc (.within text o) = closer.closingRound unclosed scan acc (.within text o) :=
    closer.throughCloser_round unclosed acc _
  exact scan_eq_closedBy round k (opener_inside opened inside)

theorem escapedRange_closedBy (inert : ∀ o ∈ escape.places text, o < start + k.length) :
    (opener.escapedRange closer escape unclosed).run (.within text start) =
      closedBy unclosed k (start + k.length) (closer.firstHit text (start + k.length)) := by
  simp only [escapedRange, opened, Point.advance_within]
  refine scan_eq_closedBy (fun acc o low high => ?_) k (opener_inside opened inside)
  cases here : escape.run (.within text o) with
  | error e => exact throughUnescaped_round here acc
  | ok m => exact absurd (inert o ⟨high, m, here⟩) (Nat.not_lt_of_le low)

theorem nestedRange_closedBy
    (inert : ∀ o m, start + k.length ≤ o → o ≤ text.length →
      again.run (.within text o) = .ok m → 0 < m.length → o ∈ closer.places text) :
    (opener.nestedRange closer again unclosed).run (.within text start) =
      closedBy unclosed k (start + k.length) (closer.firstHit text (start + k.length)) := by
  simp only [nestedRange, opened, Point.advance_within]
  refine scan_eq_closedBy (fun acc o low high => throughBalance_round (fun m matched pos => ?_) acc)
    k (opener_inside opened inside)
  exact (inert o m low high matched pos).2

end Ranges

end Matcher

theorem Cursor.run_congr {c : Cursor} {p q : Pattern} {mode : Mode}
    (h : p.run mode c.point = q.run mode c.point) : c.run p mode = c.run q mode := by
  rw [run_eq_follow, run_eq_follow, follow, follow]
  rw [Pattern.run, Pattern.run] at h
  rw [h]

namespace Pattern

variable {opener closer escape : Pattern} {c : Cursor} {k : Match}

theorem attempt_firstHit (p : Pattern) (text : List Char) (start : Nat) :
    p.attempt.firstHit text start = p.findForward text start :=
  (p.attempt.findSome?_forward text start).symm

/-- A range ends with what a search finds that begins where the opener ends. -/
theorem run_range (opened : opener.run .consume c.point = .ok k) :
    (range opener closer).run .consume c.point = Matcher.closedBy (.endOfSource closer) k
      (c.position + k.length) (closer.findForward c.text (c.position + k.length)) := by
  rw [← attempt_firstHit]
  exact Matcher.range_closedBy opened c.position_le

theorem run_range_ok_iff (opened : opener.run .consume c.point = .ok k) {m : Match} :
    (range opener closer).run .consume c.point = .ok m ↔
      ∃ o n, IsLeast {o ∈ closer.places c.text | c.position + k.length ≤ o} o ∧
        ((Cursor.place c.text o).run closer .consume).1 = .ok n ∧
        m = ⟨o - c.position + n.length, k.captures ++ n.captures⟩ := by
  rw [run_range opened]
  have length (hit : Hit) (low : c.position + k.length ≤ hit.start)
      (ordered : hit.start ≤ hit.stop) :
      k.length + (hit.stop - (c.position + k.length)) = hit.start - c.position + hit.length := by
    rw [Hit.length]
    omega
  constructor
  · intro h
    cases found : closer.findForward c.text (c.position + k.length) with
    | none =>
      rw [found] at h
      cases h
    | some hit =>
      obtain ⟨least, taken⟩ := findForward_isLeast.mp found
      rw [found, Matcher.closedBy, length hit least.1.2 taken.ordered] at h
      cases h
      exact ⟨hit.start, _, least, taken.consumed, rfl⟩
  · rintro ⟨o, n, least, consumed, rfl⟩
    obtain ⟨hit, found⟩ := findForward_exists_iff.mpr ⟨o, least.1⟩
    obtain ⟨least', taken⟩ := findForward_isLeast.mp found
    cases least'.unique least
    cases consumed.symm.trans taken.consumed
    rw [found, Matcher.closedBy, length hit least.1.2 taken.ordered]

theorem run_range_exists_iff (opened : opener.run .consume c.point = .ok k) :
    (∃ m, (range opener closer).run .consume c.point = .ok m) ↔
      ∃ o ∈ closer.places c.text, c.position + k.length ≤ o := by
  rw [run_range opened, Matcher.closedBy_exists_iff, findForward_exists_iff]

theorem run_range_error (opened : opener.run .consume c.point = .ok k)
    (unclosed : ¬∃ o ∈ closer.places c.text, c.position + k.length ≤ o) :
    (range opener closer).run .consume c.point = .error (.endOfSource closer) := by
  have absent : closer.findForward c.text (c.position + k.length) = none := by
    rw [Option.eq_none_iff_forall_ne_some]
    exact fun hit found => unclosed (findForward_exists_iff.mp ⟨hit, found⟩)
  rw [run_range opened, absent, Matcher.closedBy]

theorem run_escapedRange (opened : opener.run .consume c.point = .ok k)
    (inert : ∀ o ∈ escape.places c.text, o < c.position + k.length) :
    (escapedRange opener closer escape).run .consume c.point =
      (range opener closer).run .consume c.point := by
  rw [run_range opened, ← attempt_firstHit]
  rw [← attempt_places] at inert
  exact Matcher.escapedRange_closedBy opened c.position_le inert

theorem run_nestedRange (opened : opener.run .consume c.point = .ok k)
    (inert : ∀ o m, c.position + k.length ≤ o → o ≤ c.text.length →
      ((Cursor.place c.text o).run opener .consume).1 = .ok m → 0 < m.length →
      o ∈ closer.places c.text) :
    (nestedRange opener closer).run .consume c.point =
      (range opener closer).run .consume c.point := by
  rw [run_range opened, ← attempt_firstHit]
  refine Matcher.nestedRange_closedBy opened c.position_le fun o m low high again pos => ?_
  have matched := (Matcher.run_probe_ok_iff.mp again).2
  rw [← run_place high] at matched
  have closes := inert o m low high matched pos
  rwa [← attempt_places] at closes

theorem run_nestedRange_self (opener : Pattern) (c : Cursor) :
    (nestedRange opener opener).run .consume c.point =
      (range opener opener).run .consume c.point := by
  cases opened : opener.run .consume c.point with
  | error e =>
    rw [run] at opened
    simp only [run, matcher, Matcher.inMode, Matcher.nestedRange, Matcher.range, opened]
  | ok k => exact run_nestedRange opened fun o m _ high again _ => ⟨high, m, again⟩

/-- A range is closed at the leftmost place from the end of its opener on where its closer can be
consumed. Without such a place it lacks its closer. An escape that can be consumed nowhere in
there makes no difference, and neither do openers where there is a closer as well. -/
theorem ranges_close_leftmost (opener closer escape : Pattern) (c : Cursor) :
    (∀ k, (c.run opener .consume).1 = .ok k →
      let inner := c.position + k.length
      let closing := {o ∈ closer.places c.text | inner ≤ o}
      (∀ m, (c.run (range opener closer) .consume).1 = .ok m ↔
        ∃ o n, IsLeast closing o ∧ ((Cursor.place c.text o).run closer .consume).1 = .ok n ∧
          m = ⟨o - c.position + n.length, k.captures ++ n.captures⟩) ∧
      ((∃ m, (c.run (range opener closer) .consume).1 = .ok m) ↔ closing.Nonempty) ∧
      (¬closing.Nonempty →
        c.run (range opener closer) .consume = (.error (.endOfSource closer), c)) ∧
      ((∀ o, inner ≤ o → o ∉ escape.places c.text) →
        c.run (escapedRange opener closer escape) .consume =
          c.run (range opener closer) .consume) ∧
      ((∀ o m, inner ≤ o → o ≤ c.text.length → o ∉ closer.places c.text →
          ((Cursor.place c.text o).run opener .consume).1 = .ok m → m.length = 0) →
        c.run (nestedRange opener closer) .consume = c.run (range opener closer) .consume)) ∧
    c.run (nestedRange opener opener) .consume = c.run (range opener opener) .consume := by
  constructor
  · intro k opened inner closing
    rw [Cursor.run_fst] at opened
    refine ⟨?_, ?_, fun none => ?_, fun inert => ?_, fun inert => ?_⟩
    · rw [Cursor.run_fst]
      exact fun m => run_range_ok_iff opened
    · rw [Cursor.run_fst]
      exact run_range_exists_iff opened
    · exact Cursor.run_error (run_range_error opened none)
    · refine Cursor.run_congr (run_escapedRange opened fun o matched => ?_)
      by_contra late
      exact inert o (Nat.le_of_not_lt late) matched
    · refine Cursor.run_congr (run_nestedRange opened fun o m low high again pos => ?_)
      by_contra unclosed
      exact absurd (inert o m low high unclosed again) (Nat.ne_of_gt pos)
  · exact Cursor.run_congr (run_nestedRange_self opener c)

/-- An opener that closes as well opens nothing inside its range. -/
theorem ranges_close_leftmost_of_bar :
    let opener := literal ⟨['('], .matchCase⟩
    let closer := (opener.alt (literal ⟨['|'], .matchCase⟩)).capture "end"
    let escape := literal ⟨['|', '|'], .matchCase⟩
    let c := Cursor.place ['x', '(', 'a', '|', '(', 'b'] 1
    let m : Match := ⟨3, [⟨"end", 3, ['|']⟩]⟩
    (c.run (range opener closer) .consume).1 = .ok m ∧
      (c.run (escapedRange opener closer escape) .consume).1 = .ok m ∧
      (c.run (nestedRange opener closer) .consume).1 = .ok m := by
  intro opener closer escape c m
  obtain ⟨laws, -⟩ := ranges_close_leftmost opener closer escape c
  obtain ⟨-, -, -, escaped, nested⟩ := laws ⟨1, []⟩ rfl
  have closed : (c.run (range opener closer) .consume).1 = .ok m := by
    rfl
  have unescaped : ∀ o ≤ 6, o ∉ escape.places c.text := by decide
  have closing : ∀ o ≤ 6, o ∈ opener.places c.text → o ∈ closer.places c.text := by decide
  refine ⟨closed, ?_, ?_⟩
  · rw [escaped fun o _ matched => unescaped o matched.1 matched, closed]
  · rw [nested fun o k _ high fails again => absurd (closing o high ⟨high, k, again⟩) fails, closed]

end Pattern

end TextPattern

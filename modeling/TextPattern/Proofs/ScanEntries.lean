import TextPattern.Pattern.Build
import TextPattern.Proofs.ScanRounds
import TextPattern.Proofs.WalksFollow

namespace TextPattern

theorem Cursor.Small.consumed {c d : Cursor} {p : Pattern} {mode : Mode} {m : Match} (small : c.Small)
    (h : c.run p mode = (.ok m, d)) :
    d.Small ∧ d.position = c.position + m.length ∧ d.position ≤ 2 ^ 61 := by
  obtain ⟨hm, rfl⟩ := Cursor.run_eq_ok_iff.mp h
  exact small.moved ⟨rfl, Cursor.position_advance ((p.matcher mode).fits hm)⟩

namespace Walk

section Loops

variable {α σ : Type} {round : σ → Walk (α ⊕ σ)} {s : σ × WordCursor}
  {entries : List (σ × WordCursor)} {o : α × WordCursor}

/-- The rounds of a loop that comes to no fault. -/
def rounds (round : σ → Walk (α ⊕ σ)) : Rounds (σ × WordCursor) (α × WordCursor) where
  again s t := round s.1 s.2 = Part.some (.ok (.inr t.1, t.2))
  last s o := round s.1 s.2 = Part.some (.ok (.inl o.1, o.2))

theorem loop_of_entered (h : (rounds round).Entered s entries o) :
    loop round s.1 s.2 = Part.some (.ok o) := by
  induction h with
  | last ended => exact loop_done ended
  | again first _ ih => exact (loop_again first).trans ih

end Loops

variable {p : Pattern} {c d : Cursor} {m : Match}

theorem attempt_consumed (short : p.LiteralsWithin (2 ^ 61)) (small : c.Small)
    (consumed : c.run p .consume = (.ok m, d)) :
    attempt (p.headerWalk .consume) (p.walk .consume) c.word =
      Part.some (.ok (some (.ofMatch m), d.word)) := by
  have matched := (p.attempt_sameMatches _ _).mpr (Cursor.run_eq_ok_iff.mp consumed).1
  have header : p.header .consume c.point.rest = true := (Matcher.run_probe_ok_iff.mp matched).1
  have walked := p.walk_eq short .consume small
  rw [consumed] at walked
  rw [attempt, bind_eq (p.headerWalk_eq .consume c), if_pos header, bind_eq (position_eq c),
    bind_eq walked]
  rfl

theorem attempt_refused (short : p.LiteralsWithin (2 ^ 61)) (small : c.Small)
    (refused : c.Refuses p) :
    attempt (p.headerWalk .consume) (p.walk .consume) c.word = Part.some (.ok (none, c.word)) := by
  obtain ⟨e, refused⟩ := refused
  have walked := p.walk_eq short .consume small
  rw [refused] at walked
  rw [attempt, bind_eq (p.headerWalk_eq .consume c)]
  cases p.header .consume c.point.rest with
  | false => rfl
  | true =>
    rw [if_pos rfl, bind_eq (position_eq c), bind_eq walked]
    change (seek c.position >>= _) c.word = _
    rw [bind_eq (seek_eq c c.position), Cursor.seek_self]
    rfl

end Walk

namespace Pattern

/-- One round of the checked program of a nested range: from how many closers are to come, and from
what has been matched so far. -/
def balanceRound (f t : Pattern) (start : Nat) : Nat × Verdict → Walk (Verdict ⊕ Nat × Verdict) :=
  Walk.balanceRound (.attempt (t.headerWalk .consume) (t.walk .consume))
    (.attempt (f.headerWalk .consume) (f.walk .consume)) (.endOfSource t) start

end Pattern

/-- What the checked program of a nested range holds when it begins a round of the scan. -/
inductive Scan.InWords (start bound : Nat) : Scan → (Nat × Verdict) × WordCursor → Prop
  | intro {depth total c} : Scan.Within bound ⟨depth, c⟩ → c.Small →
      start + total.length ≤ c.position → InWords start bound ⟨depth, c⟩ ((depth, total), c.word)

namespace Pattern

variable {f t : Pattern} {c d : Cursor} {m : Match} {start bound depth : Nat} {total : Verdict}
  {s u : Scan} {w : (Nat × Verdict) × WordCursor}

section Short

variable (short : f.LiteralsWithin (2 ^ 61)) (short' : t.LiteralsWithin (2 ^ 61))

include short short'

/-- Where nothing counts the program passes a character over, if there is one. -/
theorem balanceRound_idle (start depth : Nat) (total : Verdict) (small : c.Small)
    (idle : RangePattern.Idle ⟨f, t, .nested⟩ c) :
    f.balanceRound t start (depth, total) c.word =
      Walk.skip (.endOfSource t) start (depth, total) c.word := by
  obtain ⟨unclosed, still⟩ := idle
  have missed := Walk.attempt_refused short' small unclosed
  rcases c.refuses_or_consumes f with unopened | ⟨m, d, consumed⟩
  · have absent := Walk.nonempty_eq (Walk.attempt_refused short small unopened)
    exact Walk.balanceRound_missed missed absent
  · have zero := still m d consumed
    have empty := Walk.nonempty_eq (Walk.attempt_consumed short small consumed)
    obtain ⟨-, rfl⟩ := Cursor.run_eq_ok_iff.mp consumed
    rw [zero, Cursor.advance_zero, Option.filter_some, Verdict.ofMatch, zero] at empty
    exact Walk.balanceRound_missed missed empty

/-- A round of the scan is a round of the program. Neither the count of the closers nor that of the
characters leaves the range of a word. -/
theorem balanceRound_again (narrow : bound ≤ 2 ^ 61 + 1) (here : s.InWords start bound w)
    (round : RangePattern.Round ⟨f, t, .nested⟩ s u) :
    ∃ x, (Walk.rounds (f.balanceRound t start)).again w x ∧ u.InWords start bound x := by
  obtain @⟨depth, total, c, within, small, behind⟩ := here
  have next := (RangePattern.rounds_variant _ bound).keeps within round
  cases round with
  | onward idle more =>
    have step := Cursor.position_skip more
    have idled := balanceRound_idle short short' start depth total small idle
    exact ⟨(_, _), idled.trans (Walk.skip_onward _ small more), .intro next small (by omega)⟩
  | escaped kind _ _ => cases kind
  | @closed _ _ m d _ consumed inner =>
    obtain ⟨small', step, ends⟩ := small.consumed consumed
    have outermost := within.depth_pos
    obtain ⟨outer, rfl⟩ : ∃ outer, depth = outer + 2 :=
      ⟨depth - 2, by simp only at outermost; omega⟩
    have walked := Walk.attempt_consumed short' small consumed
    refine ⟨(_, _), Walk.balanceRound_closed walked ?_, .intro next small' ?_⟩
    · exact fits_word (by simp only [Verdict.ofMatch]; omega)
    · simp only [Verdict.extend, Verdict.ofMatch]
      omega
  | @opened _ _ m d _ unclosed consumed moved =>
    obtain ⟨small', step, ends⟩ := small.consumed consumed
    have deepest := next.paid
    have missed := Walk.attempt_refused short' small unclosed
    have opened := Walk.nonempty_eq (Walk.attempt_consumed short small consumed)
    rw [Option.filter_some, Verdict.ofMatch, decide_eq_true moved] at opened
    refine ⟨(_, _), Walk.balanceRound_opened missed opened ?_ ?_, .intro next small' ?_⟩
    · exact fits_word (by simp only; omega)
    · exact fits_word (by simp only at deepest; omega)
    · simp only [Verdict.extend]
      omega

theorem balanceRound_last (here : s.InWords start bound w) {o : Option Cursor}
    (ended : (RangePattern.rounds ⟨f, t, .nested⟩).last s o) :
    ∃ v, (Walk.rounds (f.balanceRound t start)).last w v := by
  obtain @⟨depth, total, c, -, small, behind⟩ := here
  cases o with
  | some d =>
    cases ended with
    | closed _ consumed outermost =>
      obtain ⟨-, step, ends⟩ := small.consumed consumed
      cases outermost rfl
      have walked := Walk.attempt_consumed short' small consumed
      refine ⟨(_, _), Walk.balanceRound_balanced walked ?_ ?_⟩
      · exact fits_word (by simp only [Verdict.ofMatch]; omega)
      · omega
  | none =>
    cases ended with
    | ended idle ended =>
      have idled := balanceRound_idle short short' start depth total small idle
      exact ⟨(_, _), idled.trans (Walk.skip_ended _ ended)⟩
    | cutOff kind _ _ => cases kind

end Short

/-- After its opener the program of a nested range is the loop of its scan. -/
theorem walk_nestedRange (short : f.LiteralsWithin (2 ^ 61)) (small : c.Small)
    (consumed : c.run f .consume = (.ok m, d)) : (nestedRange f t).walk .consume c.word =
      Walk.loop (f.balanceRound t c.position) (1, .ofMatch m) d.word := by
  have walked := f.walk_eq short .consume small
  rw [consumed] at walked
  change (Walk.opened _ _) c.word = _
  rw [Walk.opened, Walk.bind_eq (Walk.position_eq c), Walk.bind_eq walked]
  rfl

/-- After an opener that leaves `r` characters the scan of a nested range is entered `2 * r + 1` times
or fewer, and each time from one to `r + 1` closers are to come. In words it is entered in the same
places with the same counts, and it comes to no fault. -/
theorem nestedRange_scan_bounded (f t : Pattern) {c d : Cursor} {m : Match}
    (consumed : c.run f .consume = (.ok m, d)) :
    let scan := RangePattern.rounds ⟨f, t, .nested⟩
    (∃ entries o, scan.Entered ⟨1, d⟩ entries o) ∧
      ∀ entries o, scan.Entered ⟨1, d⟩ entries o →
        (∀ e, o = some e → ∃ n, c.run (nestedRange f t) .consume = (.ok n, e)) ∧
        (o = none → c.run (nestedRange f t) .consume = (.error (.endOfSource t), c)) ∧
        entries.length ≤ 2 * d.remaining + 1 ∧
        (∀ s ∈ entries, 1 ≤ s.depth ∧ s.depth ≤ d.remaining + 1) ∧
        (c.Small → f.LiteralsWithin (2 ^ 61) → t.LiteralsWithin (2 ^ 61) →
          ∃ words v, (Walk.rounds (f.balanceRound t c.position)).Entered
              ((1, .ofMatch m), d.word) words v ∧
            List.Forall₂ (fun s w => w.1.1 = s.depth ∧ w.2 = s.place.word) entries words ∧
            (nestedRange f t).walk .consume c.word = Part.some (.ok v)) := by
  intro scan
  have variant := RangePattern.rounds_variant ⟨f, t, .nested⟩ (d.remaining + 1)
  have start : Scan.Within (d.remaining + 1) ⟨1, d⟩ := ⟨Nat.one_pos, Nat.le_refl _⟩
  refine ⟨variant.exists_entered _ start, fun entries o entered => ?_⟩
  have result := RangePattern.run_pattern_of_entered (r := ⟨f, t, .nested⟩) consumed entered
  refine ⟨result.1, result.2, variant.length_le entered start, fun s hs => ?_,
    fun small short short' => ?_⟩
  · have within := variant.forall_mem entered start s hs
    have paid := within.paid
    exact ⟨within.depth_pos, by omega⟩
  · obtain ⟨small', step, ends⟩ := small.consumed consumed
    have narrow : d.remaining + 1 ≤ 2 ^ 61 + 1 := by
      have : d.text.length ≤ 2 ^ 61 := small'
      rw [Cursor.remaining]
      omega
    have behind : c.position + (Verdict.ofMatch m).length ≤ d.position := Nat.le_of_eq step.symm
    obtain ⟨words, v, walked, alike⟩ := entered.alongside
      (balanceRound_again short short' narrow)
      (fun here ended => balanceRound_last short short' here ended)
      (.intro start small' behind)
    refine ⟨words, v, walked, alike.imp ?_, ?_⟩
    · rintro _ _ ⟨-, -, -⟩
      exact ⟨rfl, rfl⟩
    · rw [walk_nestedRange short small consumed]
      exact Walk.loop_of_entered walked

/-- The closer takes nothing, and it matches only where no bracket comes. Behind the first bracket
there is one character, and the scan is entered three times, which is as often as it can be. -/
theorem nestedRange_scan_bounded_of_empty_closers :
    let f := ofChar '('
    let t := escapedRange (ofText "") (ofText "") f
    let c := Cursor.start "((".toList
    let d := c.advance 1
    let e := c.advance 2
    let entries : List Scan := [⟨1, d⟩, ⟨2, e⟩, ⟨1, e⟩]
    (RangePattern.rounds ⟨f, t, .nested⟩).Entered ⟨1, d⟩ entries (some e) ∧
      entries.length = 2 * d.remaining + 1 ∧
      (∀ s ∈ entries, 1 ≤ s.depth ∧ s.depth ≤ d.remaining + 1) ∧
      (∃ n, c.run (nestedRange f t) .consume = (.ok n, e)) ∧
      ∃ v, (nestedRange f t).walk .consume c.word = Part.some (.ok v) := by
  intro f t c d e entries
  have first : c.run f .consume = (.ok ⟨1, []⟩, d) := Cursor.run_eq_ok_iff.mpr ⟨by cbv, rfl⟩
  have second : d.run f .consume = (.ok ⟨1, []⟩, e) := Cursor.run_eq_ok_iff.mpr ⟨by cbv, rfl⟩
  have unclosed : d.Refuses t := Cursor.refuses_iff.mpr ⟨.endOfSource (ofText ""), by cbv⟩
  have closed : e.run t .consume = (.ok ⟨0, []⟩, e) := Cursor.run_eq_ok_iff.mpr ⟨by cbv, rfl⟩
  let r : RangePattern := ⟨f, t, .nested⟩
  have opening : r.Round ⟨1, d⟩ ⟨2, e⟩ := .opened rfl unclosed second Nat.one_pos
  have closing : r.Round ⟨2, e⟩ ⟨1, e⟩ := .closed rfl closed (by decide)
  have ending : r.Closes ⟨1, e⟩ e := .closed (fun _ kind => by cases kind) closed fun _ => rfl
  have entered : r.rounds.Entered ⟨1, d⟩ entries (some e) :=
    .again opening (.again closing (.last ending))
  obtain ⟨result, -, -, depths, inWords⟩ :=
    (nestedRange_scan_bounded f t first).2 entries (some e) entered
  have small : c.Small := by
    change 2 ≤ 2 ^ 61
    decide
  have short : f.LiteralsWithin (2 ^ 61) := by
    change 1 ≤ 2 ^ 61
    decide
  have short' : t.LiteralsWithin (2 ^ 61) := ⟨Nat.zero_le _, Nat.zero_le _, short⟩
  obtain ⟨words, v, -, -, walked⟩ := inWords small short short'
  exact ⟨entered, rfl, depths, result e rfl, v, walked⟩

end Pattern

end TextPattern

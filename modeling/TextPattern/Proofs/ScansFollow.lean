import TextPattern.Proofs.MovesFollow

namespace TextPattern

/-- What a scan owes to the part of its text that begins at the cursor: a length measured from
`start`, and captures after those in `total`. -/
inductive ScanEnds (through : Point → Except (MatchError Pattern) Match) (start : Nat)
    (total : Verdict) (c : Cursor) : Verdict → Cursor → Prop
  | ok {m} : through c.point = .ok m → m.length ≤ c.point.rest.length →
      ScanEnds through start total c
        ⟨c.position + m.length - start, total.error, total.captures ++ m.captures⟩
        (c.advance m.length)
  | error {e} : through c.point = .error e →
      ScanEnds through start total c (.failure e) (c.seek start)

structure Move.Scans (scan : Nat → Verdict → Move)
    (through : Point → Except (MatchError Pattern) Match) : Prop where
  sound : ∀ {start total c v d}, scan start total c v d → ScanEnds through start total c v d
  total : ∀ start total c, ∃ v d, scan start total c v d

/-- A scan that has passed over a piece of text owes the rest to the remaining text. -/
theorem ScanEnds.past {through later : Point → Except (MatchError Pattern) Match} {start : Nat}
    {total sofar v : Verdict} {c d : Cursor} (m : Match)
    (h : ScanEnds later start sofar (c.advance m.length) v d)
    (fits : m.length ≤ c.point.rest.length)
    (step : through c.point = (later (c.point.advance m.length)).map (m ++ ·))
    (error : sofar.error = total.error) (captures : sofar.captures = total.captures ++ m.captures) :
    ScanEnds through start total c v d := by
  cases h with
  | @ok n hn room =>
    rw [Cursor.point_advance fits] at hn room
    simp only [Point.rest_advance, List.length_drop] at room
    have run : through c.point = .ok (m ++ n) := by rw [step, hn]; rfl
    have ends : ScanEnds through start total c _ _ := .ok run (by
      rw [Match.length_append]
      omega)
    rw [Cursor.position_advance fits, Cursor.advance_advance, error, captures, Nat.add_assoc,
      List.append_assoc]
    exact ends
  | error he =>
    rw [Cursor.point_advance fits] at he
    exact .error (by rw [step, he]; rfl)

namespace Matcher

variable {δ ε : Type}

theorem throughCloser_eq (closer : Matcher δ) (unclosed : ε) (acc : Match) (p : Point) :
    closer.throughCloser unclosed acc p.offset p.rest =
      match closer.run p with
      | .ok m => .ok (acc ++ m)
      | .error _ =>
        if p.atEnd then .error unclosed
        else closer.throughCloser unclosed acc.skip (p.advance 1).offset (p.advance 1).rest := by
  obtain ⟨offset, rest⟩ := p
  cases rest with
  | nil =>
    rw [throughCloser]
    cases closer.run ⟨offset, []⟩ <;> rfl
  | cons c rest =>
    rw [throughCloser]
    cases closer.run ⟨offset, c :: rest⟩ <;> rfl

/-- A match of an opener, and then what a scan finds after it. -/
def opened (opener : Matcher ε) (through : Point → Except ε Match) (p : Point) : Except ε Match :=
  match opener.run p with
  | .error e => .error e
  | .ok m => (through (p.advance m.length)).map (m ++ ·)

theorem range_run (opener : Matcher ε) (closer : Matcher δ) (unclosed : ε) :
    (opener.range closer unclosed).run =
      opener.opened fun p => closer.throughCloser unclosed .empty p.offset p.rest := by
  funext p
  simp only [range, opened]
  cases opener.run p with
  | error e => rfl
  | ok m =>
    have split := closer.throughCloser_append unclosed m .empty (p.advance m.length).offset
      (p.advance m.length).rest
    rwa [Match.append_empty] at split

theorem escapedRange_run (opener : Matcher ε) (closer escape : Matcher δ) (unclosed : ε) :
    (opener.escapedRange closer escape unclosed).run =
      opener.opened (closer.throughUnescaped escape unclosed .empty) := by
  funext p
  simp only [escapedRange, opened]
  cases opener.run p with
  | error e => rfl
  | ok m =>
    have split := closer.throughUnescaped_append escape unclosed m .empty (p.advance m.length)
    rwa [Match.append_empty] at split

theorem nestedRange_run (opener : Matcher ε) (closer again : Matcher δ) (unclosed : ε) :
    (opener.nestedRange closer again unclosed).run =
      opener.opened (closer.throughBalance again unclosed 0 .empty) := by
  funext p
  simp only [nestedRange, opened]
  cases opener.run p with
  | error e => rfl
  | ok m =>
    have split := closer.throughBalance_append again unclosed 0 m .empty (p.advance m.length)
    rwa [Match.append_empty] at split

end Matcher

namespace Trial

theorem nonempty_follows {a : Trial} {z : Matcher Unit} (h : a.Follows z) :
    a.Nonempty.Follows z.nonempty where
  sound {c v d} ha := by
    cases ha with
    | kept ha pos =>
      obtain ⟨m, hz, rfl, rfl⟩ := h.present ha
      exact .ok (Matcher.run_nonempty_ok_iff.mpr ⟨hz, pos⟩)
    | empty ha zero =>
      obtain ⟨m, hz, rfl, rfl⟩ := h.present ha
      have zero : m.length = 0 := zero
      rw [zero, Cursor.advance_zero]
      exact .error (e := ()) (by simp only [Matcher.nonempty, hz, zero, ↓reduceIte])
    | absent ha =>
      obtain ⟨e, hz, rfl⟩ := h.absent ha
      exact .error (e := ()) (by simp only [Matcher.nonempty, hz])
  total c := by
    obtain ⟨v, d, ha⟩ := h.total c
    cases v with
    | none => exact ⟨_, _, .absent ha⟩
    | some v =>
      rcases Nat.eq_zero_or_pos v.length with zero | pos
      · exact ⟨_, _, .empty ha zero⟩
      · exact ⟨_, _, .kept ha pos⟩

end Trial

namespace Move

variable {closer escape opener : Trial} {x y : Matcher Unit} {unclosed : MatchError Pattern}

/-- Where the closer matches, the length is that of the way from `start`. -/
theorem closed_ends {through : Point → Except (MatchError Pattern) Match} {start : Nat}
    {total : Verdict} {c : Cursor} {m : Match} (hx : x.run c.point = .ok m)
    (run : through c.point = .ok m) :
    ScanEnds through start total c
      ((total.extend (.ofMatch m)).withLength ((c.advance m.length).position - start))
      (c.advance m.length) := by
  rw [Cursor.position_advance (x.fits hx)]
  exact .ok run (x.fits hx)

theorem room_of_more {c : Cursor} (more : c.atEnd = false) : 1 ≤ c.point.rest.length := by
  rw [← Cursor.remaining_eq]
  exact Cursor.remaining_pos more

theorem toCloser_ends (hc : closer.Follows x) {start : Nat} {total v : Verdict} {c d : Cursor}
    (h : ToCloser closer unclosed start total c v d) :
    ScanEnds (fun p => x.throughCloser unclosed .empty p.offset p.rest) start total c v d := by
  induction h with
  | closed h =>
    obtain ⟨m, hx, rfl, rfl⟩ := hc.present h
    exact closed_ends hx (by simp only [Matcher.throughCloser_eq, hx, Match.empty_append])
  | unclosed h ended =>
    obtain ⟨e, hx, rfl⟩ := hc.absent h
    rw [Cursor.atEnd_eq] at ended
    exact .error (by simp only [Matcher.throughCloser_eq, hx, ended, ↓reduceIte])
  | onward h more _ ih =>
    obtain ⟨e, hx, rfl⟩ := hc.absent h
    refine ih.past Match.empty.skip (room_of_more more) ?_ rfl (List.append_nil _).symm
    rw [Cursor.atEnd_eq] at more
    rw [Matcher.throughCloser_eq, hx]
    simp only [more, Bool.false_eq_true, ↓reduceIte]
    rw [← Matcher.throughCloser_append, Match.append_empty]
    rfl

theorem toCloser_total (hc : closer.Follows x) (start : Nat) (total : Verdict) (c : Cursor) :
    ∃ v d, ToCloser closer unclosed start total c v d := by
  obtain ⟨o, d, h⟩ := hc.total c
  cases o with
  | some v => exact ⟨_, _, .closed h⟩
  | none =>
    obtain ⟨_, _, same⟩ := hc.absent h
    cases more : d.atEnd with
    | true => exact ⟨_, _, .unclosed h more⟩
    | false =>
      have shorter : (d.advance 1).remaining < c.remaining := by
        have := Cursor.remaining_skip more
        rwa [same] at this ⊢
      obtain ⟨w, e, h'⟩ := toCloser_total hc start total (d.advance 1)
      exact ⟨_, _, .onward h more h'⟩
termination_by c.remaining

theorem toCloser_scans (hc : closer.Follows x) : Scans (ToCloser closer unclosed)
    fun p => x.throughCloser unclosed .empty p.offset p.rest where
  sound := toCloser_ends hc
  total := toCloser_total hc

theorem toUnescaped_ends (hc : closer.Follows x) (he : escape.Follows y) {start : Nat}
    {total v : Verdict} {c d : Cursor}
    (h : ToUnescaped closer escape unclosed start total c v d) :
    ScanEnds (x.throughUnescaped y unclosed .empty) start total c v d := by
  induction h with
  | cutOff h ended =>
    obtain ⟨m, hy, rfl, rfl⟩ := he.present h
    rw [Cursor.atEnd_eq, Cursor.point_advance (y.fits hy)] at ended
    refine .error (e := unclosed) ?_
    rw [Matcher.throughUnescaped, hy]
    simp only [ended, ↓reduceIte]
  | escaped h more _ ih =>
    obtain ⟨m, hy, rfl, rfl⟩ := he.present h
    have fits := y.fits hy
    have room := room_of_more more
    rw [Cursor.point_advance fits, Point.rest_advance, List.length_drop] at room
    rw [Cursor.advance_advance, ← Match.length_skip] at ih
    refine ih.past m.skip ?_ ?_ rfl rfl
    · rw [Match.length_skip]
      omega
    · rw [Cursor.atEnd_eq, Cursor.point_advance fits] at more
      rw [Matcher.throughUnescaped, hy]
      simp only [more, Bool.false_eq_true, ↓reduceIte, Match.empty_append]
      rw [← Matcher.throughUnescaped_append, Match.append_empty]
      rfl
  | closed h h' =>
    obtain ⟨e, hy, rfl⟩ := he.absent h
    obtain ⟨m, hx, rfl, rfl⟩ := hc.present h'
    refine closed_ends hx ?_
    rw [Matcher.throughUnescaped, hy, hx]
    simp only [Match.empty_append]
  | unclosed h h' ended =>
    obtain ⟨e, hy, rfl⟩ := he.absent h
    obtain ⟨e', hx, rfl⟩ := hc.absent h'
    rw [Cursor.atEnd_eq] at ended
    refine .error (e := unclosed) ?_
    rw [Matcher.throughUnescaped, hy, hx]
    simp only [ended, ↓reduceIte]
  | onward h h' more _ ih =>
    obtain ⟨e, hy, rfl⟩ := he.absent h
    obtain ⟨e', hx, rfl⟩ := hc.absent h'
    refine ih.past Match.empty.skip (room_of_more more) ?_ rfl (List.append_nil _).symm
    rw [Cursor.atEnd_eq] at more
    rw [Matcher.throughUnescaped, hy, hx]
    simp only [more, Bool.false_eq_true, ↓reduceIte]
    rw [← Matcher.throughUnescaped_append, Match.append_empty]
    rfl

theorem toUnescaped_total (hc : closer.Follows x) (he : escape.Follows y) (start : Nat)
    (total : Verdict) (c : Cursor) :
    ∃ v d, ToUnescaped closer escape unclosed start total c v d := by
  obtain ⟨o, d, h⟩ := he.total c
  cases o with
  | some v =>
    obtain ⟨m, _, _, same⟩ := he.present h
    cases more : d.atEnd with
    | true => exact ⟨_, _, .cutOff h more⟩
    | false =>
      have shorter : (d.advance 1).remaining < c.remaining := by
        have := Cursor.remaining_skip more
        have left := c.remaining_advance m.length
        rw [same] at this ⊢
        omega
      obtain ⟨w, e, h'⟩ := toUnescaped_total hc he start (total.extend v) (d.advance 1)
      exact ⟨_, _, .escaped h more h'⟩
  | none =>
    obtain ⟨_, _, same⟩ := he.absent h
    obtain ⟨o, e, h'⟩ := hc.total d
    cases o with
    | some v => exact ⟨_, _, .closed h h'⟩
    | none =>
      obtain ⟨_, _, same'⟩ := hc.absent h'
      cases more : e.atEnd with
      | true => exact ⟨_, _, .unclosed h h' more⟩
      | false =>
        have shorter : (e.advance 1).remaining < c.remaining := by
          have := Cursor.remaining_skip more
          rwa [same', same] at this ⊢
        obtain ⟨w, f, h''⟩ := toUnescaped_total hc he start total (e.advance 1)
        exact ⟨_, _, .onward h h' more h''⟩
termination_by c.remaining

theorem toUnescaped_scans (hc : closer.Follows x) (he : escape.Follows y) :
    Scans (ToUnescaped closer escape unclosed) (x.throughUnescaped y unclosed .empty) where
  sound := toUnescaped_ends hc he
  total := toUnescaped_total hc he

theorem toBalance_ends (hc : closer.Follows x) (ho : opener.Follows y) {start depth outer : Nat}
    {total v : Verdict} {c d : Cursor} (h : ToBalance closer opener unclosed start depth total c v d)
    (level : depth = outer + 1) :
    ScanEnds (x.throughBalance y unclosed outer .empty) start total c v d := by
  induction h generalizing outer with
  | balanced h =>
    obtain ⟨m, hx, rfl, rfl⟩ := hc.present h
    cases Nat.succ.inj level
    refine closed_ends hx ?_
    rw [Matcher.throughBalance, hx]
    simp only [Match.empty_append]
  | @closed depth _ _ _ _ _ _ h _ ih =>
    obtain ⟨m, hx, rfl, rfl⟩ := hc.present h
    cases Nat.succ.inj level
    refine (ih rfl).past m (x.fits hx) ?_ rfl rfl
    rw [Matcher.throughBalance, hx]
    simp only [Match.empty_append]
    rw [← Matcher.throughBalance_append, Match.append_empty]
  | opened h h' _ ih =>
    obtain ⟨e, hx, rfl⟩ := hc.absent h
    obtain ⟨m, hy, rfl, rfl⟩ := (Trial.nonempty_follows ho).present h'
    cases Nat.succ.inj level
    refine (ih rfl).past m (y.nonempty.fits hy) ?_ rfl rfl
    rw [Matcher.throughBalance, hx, hy]
    simp only [Match.empty_append]
    rw [← Matcher.throughBalance_append, Match.append_empty]
  | unclosed h h' ended =>
    obtain ⟨e, hx, rfl⟩ := hc.absent h
    obtain ⟨e', hy, rfl⟩ := (Trial.nonempty_follows ho).absent h'
    rw [Cursor.atEnd_eq] at ended
    refine .error (e := unclosed) ?_
    rw [Matcher.throughBalance, hx, hy]
    simp only [ended, ↓reduceIte]
  | onward h h' more _ ih =>
    obtain ⟨e, hx, rfl⟩ := hc.absent h
    obtain ⟨e', hy, rfl⟩ := (Trial.nonempty_follows ho).absent h'
    refine (ih level).past Match.empty.skip (room_of_more more) ?_ rfl (List.append_nil _).symm
    rw [Cursor.atEnd_eq] at more
    rw [Matcher.throughBalance, hx, hy]
    simp only [more, Bool.false_eq_true, ↓reduceIte]
    rw [← Matcher.throughBalance_append, Match.append_empty]
    rfl

/-- A closer may leave the cursor where it is, but then fewer closers are to come; an opener adds a
closer, but moves the cursor. -/
theorem toBalance_total (hc : closer.Follows x) (ho : opener.Follows y) (start outer : Nat)
    (total : Verdict) (c : Cursor) :
    ∃ v d, ToBalance closer opener unclosed start (outer + 1) total c v d := by
  obtain ⟨o, d, h⟩ := hc.total c
  cases o with
  | some v =>
    obtain ⟨m, _, _, same⟩ := hc.present h
    cases outer with
    | zero => exact ⟨_, _, .balanced h⟩
    | succ outer =>
      have shorter : 2 * d.remaining + outer < 2 * c.remaining + (outer + 1) := by
        rw [same, Cursor.remaining_advance]
        omega
      obtain ⟨w, e, h'⟩ := toBalance_total hc ho start outer (total.extend v) d
      exact ⟨_, _, .closed h h'⟩
  | none =>
    obtain ⟨_, _, same⟩ := hc.absent h
    obtain ⟨o, e, h'⟩ := (Trial.nonempty_follows ho).total d
    cases o with
    | some v =>
      obtain ⟨m, hy, _, same'⟩ := (Trial.nonempty_follows ho).present h'
      have shorter : 2 * e.remaining + (outer + 1) < 2 * c.remaining + outer := by
        have fits := y.nonempty.fits hy
        have pos := Matcher.nonempty_pos hy
        rw [← Cursor.remaining_eq, same] at fits
        rw [same', same, Cursor.remaining_advance]
        omega
      obtain ⟨w, f, h''⟩ := toBalance_total hc ho start (outer + 1) (total.extend v) e
      exact ⟨_, _, .opened h h' h''⟩
    | none =>
      obtain ⟨_, _, same'⟩ := (Trial.nonempty_follows ho).absent h'
      cases more : e.atEnd with
      | true => exact ⟨_, _, .unclosed h h' more⟩
      | false =>
        have shorter : 2 * (e.advance 1).remaining + outer < 2 * c.remaining + outer := by
          have := Cursor.remaining_skip more
          rw [same', same] at this ⊢
          omega
        obtain ⟨w, f, h''⟩ := toBalance_total hc ho start outer total (e.advance 1)
        exact ⟨_, _, .onward h h' more h''⟩
termination_by 2 * c.remaining + outer

theorem toBalance_scans (hc : closer.Follows x) (ho : opener.Follows y) :
    Scans (ToBalance closer opener unclosed · 1) (x.throughBalance y unclosed 0 .empty) where
  sound h := toBalance_ends hc ho h rfl
  total start total c := toBalance_total hc ho start 0 total c

/-- The length is measured from the opener, and that is the sum of the opener and the rest. -/
theorem opened_follows {a : Move} {scan : Nat → Verdict → Move}
    {z whole : Matcher (MatchError Pattern)}
    {through : Point → Except (MatchError Pattern) Match} (ha : a.Follows z)
    (hs : Scans scan through)
    (run : whole.run = z.opened through) : (Opened a scan).Follows whole where
  sound {c v d} h := by
    have here := congrFun run c.point
    rw [Matcher.opened] at here
    cases h with
    | failed h hf =>
      obtain ⟨e, hz, rfl, rfl⟩ := ha.failed h hf
      rw [hz] at here
      rw [Cursor.seek_self]
      exact .error here
    | scanned h hp h' =>
      obtain ⟨m, hz, rfl, rfl⟩ := ha.passed h hp
      have fits := z.fits hz
      rw [hz] at here
      cases hs.sound h' with
      | @ok n hn room =>
        rw [Cursor.point_advance fits] at hn
        simp only [hn, Except.map] at here
        have length : (c.advance m.length).position + n.length - c.position = (m ++ n).length := by
          rw [Cursor.position_advance fits, Match.length_append]
          omega
        rw [length, Cursor.advance_advance]
        exact .ok here
      | error he =>
        rw [Cursor.point_advance fits] at he
        simp only [he, Except.map] at here
        rw [Cursor.advance_seek]
        exact .error here
  total c := by
    obtain ⟨v, d, h⟩ := ha.total c
    cases hv : v.failed with
    | true => exact ⟨_, _, .failed h hv⟩
    | false =>
      obtain ⟨w, e, h'⟩ := hs.total c.position v d
      exact ⟨_, _, .scanned h hv h'⟩

end Move

end TextPattern

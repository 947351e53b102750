import TextPattern.Matcher

namespace TextPattern.Matcher

variable {δ ε : Type}

/-- `acc`, and then the text through the first closer. -/
def throughCloser (closer : Matcher δ) (unclosed : ε) (acc : Match) (offset : Nat) :
    List Char → Except ε Match
  | [] =>
    match closer.run ⟨offset, []⟩ with
    | .ok m => .ok (acc ++ m)
    | .error _ => .error unclosed
  | c :: rest =>
    match closer.run ⟨offset, c :: rest⟩ with
    | .ok m => .ok (acc ++ m)
    | .error _ => closer.throughCloser unclosed acc.skip (offset + 1) rest

/-- As `throughCloser`; where an escape matches, it and the character after it are passed over. -/
def throughUnescaped (closer : Matcher δ) (escape : Matcher δ) (unclosed : ε) (acc : Match)
    (p : Point) : Except ε Match :=
  match escape.run p with
  | .ok m =>
    if (p.advance m.length).atEnd then .error unclosed
    else closer.throughUnescaped escape unclosed (acc ++ m).skip (p.advance (m.length + 1))
  | .error _ =>
    match closer.run p with
    | .ok m => .ok (acc ++ m)
    | .error _ =>
      if p.atEnd then .error unclosed
      else closer.throughUnescaped escape unclosed acc.skip (p.advance 1)
termination_by p.rest.length
decreasing_by
  all_goals
    simp only [Point.atEnd_iff, Point.rest_advance, List.length_drop] at *
    omega

/-- As `throughCloser`, with `outer` more closers to come after the next one and one more for every
opener on the way. Only openers of one character or more count. -/
def throughBalance (closer : Matcher δ) (opener : Matcher δ) (unclosed : ε) (outer : Nat)
    (acc : Match) (p : Point) : Except ε Match :=
  match closer.run p with
  | .ok m =>
    match outer with
    | 0 => .ok (acc ++ m)
    | outer + 1 =>
      closer.throughBalance opener unclosed outer (acc ++ m) (p.advance m.length)
  | .error _ =>
    match _h : opener.nonempty.run p with
    | .ok m =>
      closer.throughBalance opener unclosed (outer + 1) (acc ++ m) (p.advance m.length)
    | .error _ =>
      if p.atEnd then .error unclosed
      else closer.throughBalance opener unclosed outer acc.skip (p.advance 1)
termination_by 2 * p.rest.length + outer
decreasing_by
  · simp only [Point.rest_advance, List.length_drop]
    omega
  · have := advance_length_lt _h (nonempty_pos _h)
    omega
  · simp only [Point.atEnd_iff, Point.rest_advance, List.length_drop] at *
    omega

theorem throughCloser_append (closer : Matcher δ) (unclosed : ε) (pre acc : Match) (offset : Nat)
    (rest : List Char) : closer.throughCloser unclosed (pre ++ acc) offset rest =
      (closer.throughCloser unclosed acc offset rest).map (pre ++ ·) := by
  induction rest generalizing acc offset with
  | nil =>
    simp only [throughCloser]
    cases closer.run ⟨offset, []⟩ with
    | ok m => simp only [Except.map, Match.append_assoc]
    | error e => rfl
  | cons c rest ih =>
    simp only [throughCloser]
    cases closer.run ⟨offset, c :: rest⟩ with
    | ok m => simp only [Except.map, Match.append_assoc]
    | error e => simp only [← Match.append_skip, ih]

theorem throughUnescaped_append (closer escape : Matcher δ) (unclosed : ε) (pre acc : Match)
    (p : Point) : closer.throughUnescaped escape unclosed (pre ++ acc) p =
      (closer.throughUnescaped escape unclosed acc p).map (pre ++ ·) := by
  fun_induction throughUnescaped closer escape unclosed acc p with
  | case1 acc p m he atEnd =>
    rw [throughUnescaped, he]
    simp only [atEnd, ↓reduceIte, Except.map]
  | case2 acc p m he more ih =>
    rw [throughUnescaped, he]
    simp only [more, Bool.false_eq_true, ↓reduceIte]
    rw [Match.append_assoc, ← Match.append_skip]
    exact ih
  | case3 acc p e he m hc =>
    rw [throughUnescaped, he, hc]
    simp only [Except.map, Match.append_assoc]
  | case4 acc p e he e' hc atEnd =>
    rw [throughUnescaped, he, hc]
    simp only [atEnd, ↓reduceIte, Except.map]
  | case5 acc p e he e' hc more ih =>
    rw [throughUnescaped, he, hc]
    simp only [more, Bool.false_eq_true, ↓reduceIte, ← Match.append_skip, ih]

theorem throughBalance_append (closer opener : Matcher δ) (unclosed : ε) (outer : Nat)
    (pre acc : Match) (p : Point) : closer.throughBalance opener unclosed outer (pre ++ acc) p =
      (closer.throughBalance opener unclosed outer acc p).map (pre ++ ·) := by
  fun_induction throughBalance closer opener unclosed outer acc p with
  | case1 acc p m hc =>
    rw [throughBalance, hc]
    simp only [Except.map, Match.append_assoc]
  | case2 acc p m hc outer ih =>
    rw [throughBalance, hc]
    simp only [Match.append_assoc, ih]
  | case3 outer acc p e hc m ho ih =>
    rw [throughBalance, hc, ho]
    simp only [Match.append_assoc, ih]
  | case4 outer acc p e hc e' ho atEnd =>
    rw [throughBalance, hc, ho]
    simp only [atEnd, ↓reduceIte, Except.map]
  | case5 outer acc p e hc e' ho more ih =>
    rw [throughBalance, hc, ho]
    simp only [more, Bool.false_eq_true, ↓reduceIte, ← Match.append_skip, ih]

theorem throughCloser_length {closer : Matcher δ} {unclosed : ε} {acc m : Match} {offset : Nat}
    {rest : List Char} (h : closer.throughCloser unclosed acc offset rest = .ok m) :
    m.length ≤ acc.length + rest.length := by
  induction rest generalizing acc offset with
  | nil =>
    simp only [throughCloser] at h
    split at h
    next n hc =>
      cases h
      have : n.length ≤ ([] : List Char).length := closer.fits hc
      simp only [Match.length_append]
      omega
    next => cases h
  | cons c rest ih =>
    simp only [throughCloser] at h
    split at h
    next n hc =>
      cases h
      have : n.length ≤ (c :: rest).length := closer.fits hc
      simp only [Match.length_append]
      omega
    next =>
      have := ih h
      simp only [Match.length_skip] at this
      simp only [List.length_cons]
      omega

theorem throughUnescaped_length {closer escape : Matcher δ} {unclosed : ε} {acc m : Match}
    {p : Point} (h : closer.throughUnescaped escape unclosed acc p = .ok m) :
    m.length ≤ acc.length + p.rest.length := by
  fun_induction throughUnescaped closer escape unclosed acc p with
  | case1 => cases h
  | case2 acc p n he more ih =>
    have := escape.fits he
    have := ih h
    simp only [Point.atEnd_iff, Match.length_skip, Match.length_append, Point.rest_advance,
      List.length_drop] at *
    omega
  | case3 acc p e he n hc =>
    cases h
    have := closer.fits hc
    simp only [Match.length_append]
    omega
  | case4 => cases h
  | case5 acc p e he e' hc more ih =>
    have := ih h
    simp only [Point.atEnd_iff, Match.length_skip, Point.rest_advance, List.length_drop] at *
    omega

theorem throughBalance_length {closer opener : Matcher δ} {unclosed : ε} {outer : Nat}
    {acc m : Match} {p : Point} (h : closer.throughBalance opener unclosed outer acc p = .ok m) :
    m.length ≤ acc.length + p.rest.length := by
  fun_induction throughBalance closer opener unclosed outer acc p with
  | case1 acc p n hc =>
    cases h
    have := closer.fits hc
    simp only [Match.length_append]
    omega
  | case2 acc p n hc outer ih =>
    have := closer.fits hc
    have := ih h
    simp only [Match.length_append, Point.rest_advance, List.length_drop] at *
    omega
  | case3 outer acc p e hc n ho ih =>
    have := opener.nonempty.fits ho
    have := ih h
    simp only [Match.length_append, Point.rest_advance, List.length_drop] at *
    omega
  | case4 => cases h
  | case5 outer acc p e hc e' ho more ih =>
    have := ih h
    simp only [Point.atEnd_iff, Match.length_skip, Point.rest_advance, List.length_drop] at *
    omega

/-- The opener, and then everything through the first closer. -/
def range (opener : Matcher ε) (closer : Matcher δ) (unclosed : ε) : Matcher ε where
  run p :=
    match opener.run p with
    | .error e => .error e
    | .ok m => closer.throughCloser unclosed m (p.offset + m.length) (p.rest.drop m.length)
  fits := by
    intro p m h
    split at h
    next => cases h
    next n ho =>
      have opened := opener.fits ho
      have total := throughCloser_length h
      rwa [List.length_drop, Nat.add_sub_of_le opened] at total

/-- The opener, and then everything through the first closer that no escape protects. -/
def escapedRange (opener : Matcher ε) (closer escape : Matcher δ) (unclosed : ε) : Matcher ε where
  run p :=
    match opener.run p with
    | .error e => .error e
    | .ok m => closer.throughUnescaped escape unclosed m (p.advance m.length)
  fits := by
    intro p m h
    split at h
    next => cases h
    next n ho =>
      have := opener.fits ho
      have := throughUnescaped_length h
      simp only [Point.rest_advance, List.length_drop] at this
      omega

/-- The opener, and then everything through the closer that balances it; `again` finds the openers
inside. -/
def nestedRange (opener : Matcher ε) (closer again : Matcher δ) (unclosed : ε) : Matcher ε where
  run p :=
    match opener.run p with
    | .error e => .error e
    | .ok m => closer.throughBalance again unclosed 0 m (p.advance m.length)
  fits := by
    intro p m h
    split at h
    next => cases h
    next n ho =>
      have := opener.fits ho
      have := throughBalance_length h
      simp only [Point.rest_advance, List.length_drop] at this
      omega

end TextPattern.Matcher

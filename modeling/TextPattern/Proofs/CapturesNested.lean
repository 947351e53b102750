import TextPattern.Cursor
import TextPattern.Proofs.Assembled

namespace TextPattern

/-- Two captures that share a part of the text, where neither lies within the other. -/
def Capture.Crosses (a b : Capture) : Prop :=
  (a.offset < b.offset ∧ b.offset < a.stop ∧ a.stop < b.stop) ∨
    (b.offset < a.offset ∧ a.offset < b.stop ∧ b.stop < a.stop)

/-- The second begins where the first has ended, or encloses it. -/
def Capture.Precedes (a b : Capture) : Prop :=
  a.stop ≤ b.offset ∨ b.offset ≤ a.offset ∧ a.stop ≤ b.stop

theorem Capture.Precedes.stop_le {a b : Capture} (h : a.Precedes b) : a.stop ≤ b.stop := by
  have bound : b.offset ≤ b.stop := Nat.le_add_right _ _
  rcases h with apart | ⟨_, inside⟩
  · omega
  · exact inside

theorem Capture.Precedes.not_crosses {a b : Capture} (h : a.Precedes b) : ¬a.Crosses b := by
  unfold Precedes at h
  unfold Crosses
  have := Nat.le_add_right a.offset a.length
  omega

namespace Match.Assembled

variable {p : Point} {m : Match}

theorem captures_inside (h : Assembled p m) {k : Capture} (hk : k ∈ m.captures) :
    p.offset ≤ k.offset ∧ k.stop ≤ p.offset + m.length := by
  induction h with
  | plain _ => cases hk
  | @append p m n _ _ first second =>
    simp only [Match.length_append]
    rcases List.mem_append.mp hk with hk | hk
    · have := first hk
      omega
    · have := second hk
      simp only [Point.offset_advance] at this
      omega
  | @record p m name hm ih =>
    rcases List.mem_append.mp hk with hk | hk
    · exact ih hk
    · cases List.mem_singleton.mp hk
      have fits := hm.fits
      simp only [Capture.stop, Capture.length, List.length_take, Match.length_record]
      omega

theorem captures_text {text : List Char} {offset : Nat} (h : Assembled (.within text offset) m)
    {k : Capture} (hk : k ∈ m.captures) : k.text = (text.drop k.offset).take k.length := by
  generalize hp : Point.within text offset = p at h
  induction h generalizing offset with
  | plain _ => cases hk
  | @append p m n _ _ first second =>
    rcases List.mem_append.mp hk with hk | hk
    · exact first hk hp
    · exact second hk (by rw [← hp, Point.advance_within])
  | @record p m name hm ih =>
    subst hp
    rcases List.mem_append.mp hk with hk | hk
    · exact ih hk rfl
    · cases List.mem_singleton.mp hk
      have fits : m.length ≤ (text.drop offset).length := hm.fits
      simp only [Capture.length, Point.offset_within, Point.rest_within, List.length_take]
      rw [Nat.min_eq_left fits]

theorem captures_precede (h : Assembled p m) : m.captures.Pairwise Capture.Precedes := by
  induction h with
  | plain _ => exact .nil
  | @append p m n hm hn first second =>
    refine List.pairwise_append.mpr ⟨first, second, fun a ha b hb => ?_⟩
    have before := (hm.captures_inside ha).2
    have after := (hn.captures_inside hb).1
    exact .inl (Nat.le_trans before after)
  | @record p m name hm ih =>
    refine List.pairwise_append.mpr ⟨ih, List.pairwise_singleton _ _, fun a ha b hb => ?_⟩
    cases List.mem_singleton.mp hb
    have inside := hm.captures_inside ha
    have whole := hm.fits
    refine .inr ⟨inside.1, ?_⟩
    simp only [Capture.stop, Capture.length, List.length_take] at *
    omega

end Match.Assembled

namespace Pattern

/-- Every capture says what the text has where it lies, inside the match; of any two the later one
comes after the earlier one or encloses it. -/
theorem captures_nested (p : Pattern) (mode : Mode) (c d : Cursor) (m : Match)
    (h : c.run p mode = (.ok m, d)) :
    (∀ k ∈ m.captures, c.position ≤ k.offset ∧ k.stop ≤ d.position ∧
      k.text = (c.text.drop k.offset).take k.length) ∧
    m.captures.Pairwise (fun a b =>
      a.stop ≤ b.offset ∨ b.offset ≤ a.offset ∧ a.stop ≤ b.stop) ∧
    m.captures.Pairwise (fun a b => a.stop ≤ b.stop) ∧
    m.captures.Pairwise fun a b => ¬a.Crosses b := by
  cases hr : p.run mode c.point with
  | error e =>
    rw [Cursor.run_error hr] at h
    cases h
  | ok n =>
    obtain ⟨matched, -, position⟩ := Cursor.run_ok hr
    rw [h] at matched position
    cases matched
    have assembled := p.matcher_assembles mode c.point m hr
    have precede := assembled.captures_precede
    refine ⟨fun k hk => ?_, precede, precede.imp Capture.Precedes.stop_le,
      precede.imp Capture.Precedes.not_crosses⟩
    have inside := assembled.captures_inside hk
    have text := assembled.captures_text hk
    simp only [Cursor.point, Point.offset_within] at inside
    simp only at position
    exact ⟨inside.1, by omega, text⟩

theorem captures_nested_of_sequence :
    let a := capture (literal ⟨['a'], .matchCase⟩) "a"
    let b := capture (literal ⟨['b'], .matchCase⟩) "b"
    let p := ((b.seq b).alt (b.seq a)).capture "all"
    let m : Match := ⟨2, [⟨"b", 1, ['b']⟩, ⟨"a", 2, ['a']⟩, ⟨"all", 1, ['b', 'a']⟩]⟩
    (Cursor.place ['a', 'b', 'a'] 1).run p .consume = (.ok m, .place ['a', 'b', 'a'] 3) ∧
      m.captures.Pairwise fun a b => ¬a.Crosses b := by
  intro a b p m
  have run : (Cursor.place ['a', 'b', 'a'] 1).run p .consume =
      (.ok m, .place ['a', 'b', 'a'] 3) := by
    rfl
  exact ⟨run, (captures_nested p .consume _ _ m run).2.2.2⟩

end Pattern

end TextPattern

import TextPattern.Proofs.TokensRead

namespace TextPattern.Notation

namespace Reading

variable {r : Reading}

theorem feed_turn (hr : r.lexeme = .blank) {c : Char} (hc : c ∈ [',', ')', ']', '\x7d']) :
    r.feed c = r.turn c := by
  rw [feed_blank hr]
  simp only [List.mem_cons, List.not_mem_nil, or_false] at hc
  rcases hc with rfl | rfl | rfl | rfl <;> rfl

section Turn

variable {a outer : Alternation} {frames : List (Bracket × Alternation)} {b b' : Bracket}
  {c : Char} {p result : Pattern}

theorem feed_next (complete : a.complete? = some p) (ht : b.turn? p ',' = some (.next b')) :
    feed ⟨.blank, a, (b, outer) :: frames⟩ ',' = .ok ⟨.blank, .start, (b', outer) :: frames⟩ := by
  rw [feed_turn rfl (by simp), turn, complete]
  simp only [ht]

theorem feed_closed (complete : a.complete? = some p) (hc : c ∈ [',', ')', ']', '\x7d'])
    (ht : b.turn? p c = some (.closed result)) :
    feed ⟨.blank, a, (b, outer) :: frames⟩ c = .ok ⟨.blank, outer.operand result, frames⟩ := by
  rw [feed_turn rfl hc, turn, complete]
  simp only [ht]

end Turn

/-- The nearest waiting operator is applied first. -/
theorem operand_operator (r : Reading) (o : Operator) (q : Pattern) :
    (r.operator o).operand q = r.operand (o.apply q) :=
  rfl

/-- Two terms in a row are the sequence of them. -/
theorem operand_operand (hs : r.current.sequence = none) (ho : r.current.operators = [])
    (p q : Pattern) : (r.operand p).operand q = r.operand (p.seq q) := by
  obtain ⟨_, ⟨_, _, _⟩, _⟩ := r
  cases hs
  cases ho
  rfl

end Reading

variable {xs ys ws : List Char}

/-- How the text that a symbol derives is read. -/
def Symbol.Reads : Symbol → List Char → Pattern → Prop
  | whole, xs, p => Pattern.parse xs = .ok p
  | alternation, xs, p => ∀ frames, ∃ a,
      Notation.Reads xs ⟨.blank, .start, frames⟩ ⟨.blank, a, frames⟩ ∧ a.complete? = some p
  | sequence, xs, p => ∀ r : Reading, r.lexeme = .blank → r.current.sequence = none →
      r.current.operators = [] → Notation.Reads xs r (r.operand p)
  | unary, xs, p | primary, xs, p => ∀ r : Reading, r.lexeme = .blank →
      Notation.Reads xs r (r.operand p)
  | classes, xs, p => '>' ∉ xs ∧ ∃ t, p = .test t ∧ classesTest xs = .ok t

namespace Symbol.Reads

variable {p q : Pattern} {r : Reading} {b b' : Bracket}

/-- A comma ends a part of a bracket where another part has to follow. -/
theorem partNext (h : alternation.Reads xs p) (hw : Blank ws) (outer : Alternation)
    (frames : List (Bracket × Alternation)) (ht : b.turn? p ',' = some (.next b')) :
    Notation.Reads (xs ++ ws ++ [',']) ⟨.blank, .start, (b, outer) :: frames⟩
      ⟨.blank, .start, (b', outer) :: frames⟩ := by
  obtain ⟨a, part, complete⟩ := h ((b, outer) :: frames)
  exact (part.append (.blank hw rfl)).append (.single (Reading.feed_next complete ht))

theorem partClosed (h : alternation.Reads xs p) (hw : Blank ws) {c : Char} {result : Pattern}
    (hc : c ∈ [',', ')', ']', '\x7d']) (ht : b.turn? p c = some (.closed result)) :
    Notation.Reads (xs ++ ws ++ [c]) ⟨.blank, .start, (b, r.current) :: r.frames⟩
      (r.operand result) := by
  obtain ⟨a, part, complete⟩ := h ((b, r.current) :: r.frames)
  exact (part.append (.blank hw rfl)).append (.single (Reading.feed_closed complete hc ht))

theorem choice (hp : alternation.Reads xs p) (hw : Blank ws) (hq : sequence.Reads ys q) :
    alternation.Reads (xs ++ ws ++ '|' :: ys) (p.alternate 0 q) := by
  intro frames
  obtain ⟨a, first, complete⟩ := hp frames
  have bar : Reading.feed ⟨.blank, a, frames⟩ '|' = .ok ⟨.blank, .after p, frames⟩ := by
    change Reading.bar _ = _
    rw [Reading.bar, complete]
  have second := hq ⟨.blank, .after p, frames⟩ rfl rfl rfl
  exact ⟨_, (first.append (.blank hw rfl)).append (.cons bar second), rfl⟩

end Symbol.Reads

theorem Derives.reads {s : Symbol} {p : Pattern} (h : Derives s xs p) : s.Reads xs p := by
  induction h with
  | whole hp hw ih =>
    obtain ⟨a, read, complete⟩ := ih []
    have all := read.append (.blank hw rfl)
    change List.foldlM Reading.feed .start _ = _ at all
    change Pattern.parse _ = _
    rw [Pattern.parse, all]
    change Reading.finish ⟨.blank, a, []⟩ = _
    simp only [Reading.finish, complete]
  | single _ ih => exact fun frames => ⟨_, ih ⟨.blank, .start, frames⟩ rfl rfl rfl, rfl⟩
  | choice id hp hw hq ihp ihq =>
    have read := ihp.choice hw ihq
    rw [← hp.written.representable.alternate_number hq.written.representable id] at read
    exact read
  | term _ ih => exact fun r hr _ _ => ih r hr
  | @terms xs ys p q _ _ ihp ihq =>
    intro r hr hs ho
    have second := ihq (r.operand p) rfl
    rw [Reading.operand_operand hs ho] at second
    exact (ihp r hr hs ho).append second
  | @operator ws xs ys o p hw ho ends hp ih =>
    intro r hr
    have rest := ih (r.operator o) rfl
    rw [Reading.operand_operator] at rest
    rw [List.append_assoc]
    exact (Reads.blank hw hr).append (Reads.operator ho hr ends rest)
  | operand hw _ ih => exact fun r hr => (Reads.blank hw hr).append (ih r hr)
  | @text raw text h =>
    intro r hr
    rw [Pattern.ofText, String.toList_ofList]
    exact Reads.literal (k := .matchCase) h hr
  | @textIgnoringCase raw text h =>
    intro r hr
    rw [Pattern.ofTextIgnoringCase, String.toList_ofList]
    exact Reads.literal (k := .ignoreCase) h hr
  | @classes xs p h ih =>
    intro r hr
    obtain ⟨closer, t, rfl, read⟩ := ih
    have opened : r.feed '<' = .ok { r with lexeme := .classes [] } := Reading.feed_blank hr '<'
    have closed : Reading.feed { r with lexeme := .classes (xs.reverse ++ []) } '>' =
        .ok (r.operand (.test t)) := by
      simp [Reading.feed, read, Reading.operand, Except.map]
    exact Reads.append (.cons opened (Reads.classes closer [])) (.single closed)
  | group _ hw ih =>
    intro r hr
    have inside := ih.partClosed (b := .group) (c := ')') (r := r) hw (by simp) rfl
    exact .cons (Reading.feed_blank hr '(') inside
  | @range xs ws ys vs p q _ hw _ hv ihp ihq =>
    intro r hr
    have opened : r.feed '[' = .ok (r.enter .rangeOpener) := Reading.feed_blank hr '['
    have first := ihp.partNext (b := .rangeOpener) hw r.current r.frames rfl
    have last := ihq.partClosed (b := .rangeCloser p) (c := ']') (r := r) hv (by simp) rfl
    simpa using (Reads.cons opened first).append last
  | @escapedRange xs ws ys vs zs us p q e _ hw _ hv _ hu ihp ihq ihe =>
    intro r hr
    have opened : r.feed '[' = .ok (r.enter .rangeOpener) := Reading.feed_blank hr '['
    have first := ihp.partNext (b := .rangeOpener) hw r.current r.frames rfl
    have second := ihq.partNext (b := .rangeCloser p) hv r.current r.frames rfl
    have last := ihe.partClosed (b := .rangeEscape p q) (c := ']') (r := r) hu (by simp) rfl
    simpa using ((Reads.cons opened first).append second).append last
  | @nestedRange xs ws ys vs p q _ hw _ hv ihp ihq =>
    intro r hr
    have opened : r.feed '\x7b' = .ok (r.enter .nestedOpener) := Reading.feed_blank hr '\x7b'
    have first := ihp.partNext (b := .nestedOpener) hw r.current r.frames rfl
    have last := ihq.partClosed (b := .nestedCloser p) (c := '\x7d') (r := r) hv (by simp) rfl
    simpa using (Reads.cons opened first).append last
  | named hk => exact (Derives.named hk).classesTest_ok
  | union id hp hk _ => exact (Derives.union id hp hk).classesTest_ok

end TextPattern.Notation

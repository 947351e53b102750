import TextPattern.Proofs.ScanRounds
import TextPattern.Report

namespace TextPattern

/-- A place of the same text, here or further on. -/
structure Cursor.Reaches (c d : Cursor) : Prop where
  text : d.text = c.text
  position : c.position ≤ d.position

namespace Cursor.Reaches

variable {b c d : Cursor}

theorem refl (c : Cursor) : c.Reaches c :=
  ⟨rfl, Nat.le_refl _⟩

theorem trans (h : b.Reaches c) (h' : c.Reaches d) : b.Reaches d :=
  ⟨h'.text.trans h.text, Nat.le_trans h.position h'.position⟩

theorem advance (c : Cursor) (n : Nat) : c.Reaches (c.advance n) := by
  have := c.position_le
  refine ⟨rfl, ?_⟩
  simp only [Cursor.advance, Cursor.seek, Cursor.place]
  omega

end Cursor.Reaches

namespace Pattern

def children : Pattern → List Pattern
  | literal _ | test _ => []
  | optional inner | span inner | repeated inner _ | negation inner | capture inner _ => [inner]
  | seq left right | alt left right => [left, right]
  | range opener closer | nestedRange opener closer => [opener, closer]
  | escapedRange opener closer escape => [opener, closer, escape]

/-- A pattern that stands somewhere in another one, or is that pattern. -/
inductive PartOf (q : Pattern) : Pattern → Prop
  | self : PartOf q q
  | inside {child p} : child ∈ children p → PartOf q child → PartOf q p

theorem PartOf.trans {q p whole : Pattern} (h : q.PartOf p) (h' : p.PartOf whole) :
    q.PartOf whole := by
  induction h' with
  | self => exact h
  | inside child _ ih => exact .inside child ih

/-- How many characters a literal or a character test takes. Other patterns have no width. -/
def width? : Pattern → Option Nat
  | literal l => some l.width
  | test _ => some 1
  | _ => none

/-- Whether a pattern is made from others and is neglected as a whole; a negation and a capture hand
that on to what is inside. -/
def isCompound : Pattern → Bool
  | literal _ | test _ | negation _ | capture _ _ => false
  | seq _ _ | alt _ _ | optional _ | span _ | repeated _ _ | range _ _ | escapedRange _ _ _
  | nestedRange _ _ => true

/-- What has happened to a part of a pattern, at a cursor or further on, when the pattern fails with an
error that holds this part. -/
inductive Explained (p : Pattern) (c : Cursor) : MatchError Pattern → Prop
  /-- There was enough text for the part, but it was another text. -/
  | refused {q n d} : q.PartOf p → c.Reaches d → q.width? = some n → n ≤ d.remaining →
      d.Refuses q → Explained p c (.unmatched q)
  | found {q d m} : q.PartOf p → c.Reaches d → (d.run q .consume).1 = .ok m →
      Explained p c (.unwanted q)
  | short {q n d} : q.PartOf p → c.Reaches d → q.width? = some n → d.remaining < n →
      Explained p c (.endOfSource q)
  /-- No character was left that could be taken in place of the part. -/
  | exhausted {q d} : q.PartOf p → c.Reaches d → q.isCompound = true → d.atEnd = true →
      d.run q .neglect = (.error (.endOfSource q), d) → Explained p c (.endOfSource q)
  | unclosed {r : RangePattern} {d} : r.pattern.PartOf p → c.Reaches d → r.Unclosed d →
      Explained p c (.endOfSource r.closer)

theorem opener_mem_children (r : RangePattern) : r.opener ∈ r.pattern.children := by
  obtain ⟨opener, closer, kind⟩ := r
  cases kind <;> simp [RangePattern.pattern, children]

theorem closer_mem_children (r : RangePattern) : r.closer ∈ r.pattern.children := by
  obtain ⟨opener, closer, kind⟩ := r
  cases kind <;> simp [RangePattern.pattern, children]

namespace Explained

variable {p q : Pattern} {c d : Cursor} {e : MatchError Pattern} {mode : Mode}

theorem subject_partOf (h : p.Explained c e) : e.subject.PartOf p := by
  cases h with
  | refused part _ _ _ _ => exact part
  | found part _ _ => exact part
  | short part _ _ _ => exact part
  | exhausted part _ _ _ _ => exact part
  | unclosed part _ _ => exact (PartOf.inside (closer_mem_children _) .self).trans part

/-- What explains an error of a child, here or further on, explains it as an error of the whole. -/
theorem of_child (h : q.Explained d e) (child : q ∈ p.children) (reach : c.Reaches d) :
    p.Explained c e := by
  have part : q.PartOf p := .inside child .self
  cases h with
  | refused part' reach' width enough refused =>
    exact .refused (part'.trans part) (reach.trans reach') width enough refused
  | found part' reach' consumed => exact .found (part'.trans part) (reach.trans reach') consumed
  | short part' reach' width few => exact .short (part'.trans part) (reach.trans reach') width few
  | exhausted part' reach' compound ended neglected =>
    exact .exhausted (part'.trans part) (reach.trans reach') compound ended neglected
  | unclosed part' reach' unclosed =>
    exact .unclosed (part'.trans part) (reach.trans reach') unclosed

theorem literal {l : Literal} (h : ((literal l).matcher mode).run c.point = .error e) :
    (literal l).Explained c e := by
  cases mode with
  | consume =>
    rcases Matcher.run_block_error_iff.mp h with ⟨few, rfl⟩ | ⟨enough, -, rfl⟩
    · rw [← Cursor.remaining_eq] at few
      exact .short .self (.refl c) rfl few
    · rw [← Cursor.remaining_eq] at enough
      exact .refused .self (.refl c) rfl enough (Cursor.refuses_iff.mpr ⟨_, h⟩)
  | neglect =>
    rcases Matcher.run_block_error_iff.mp h with ⟨few, rfl⟩ | ⟨enough, accepted, rfl⟩
    · rw [← Cursor.remaining_eq] at few
      exact .short .self (.refl c) rfl few
    · have consumed : (Pattern.literal l).run .consume c.point = .ok ⟨l.width, []⟩ :=
        Matcher.run_block_ok_iff.mpr ⟨enough, by simpa using accepted, rfl⟩
      exact .found .self (.refl c) ((c.run_fst _ _).trans consumed)

theorem test {t : CharTest} (h : ((test t).matcher mode).run c.point = .error e) :
    (test t).Explained c e := by
  have short (none : c.point.rest = []) : c.remaining < 1 := by
    rw [Cursor.remaining_eq, none]
    exact Nat.one_pos
  cases mode with
  | consume =>
    rcases Matcher.run_char_error_iff.mp h with ⟨none, rfl⟩ | ⟨x, rest, ahead, -, rfl⟩
    · exact .short .self (.refl c) rfl (short none)
    · have enough : 1 ≤ c.remaining := by
        rw [Cursor.remaining_eq, ahead, List.length_cons]
        exact Nat.succ_pos _
      exact .refused .self (.refl c) rfl enough (Cursor.refuses_iff.mpr ⟨_, h⟩)
  | neglect =>
    rcases Matcher.run_char_error_iff.mp h with ⟨none, rfl⟩ | ⟨x, rest, ahead, accepted, rfl⟩
    · exact .short .self (.refl c) rfl (short none)
    · have consumed : (Pattern.test t).run .consume c.point = .ok ⟨1, []⟩ :=
        Matcher.run_char_ok_iff.mpr ⟨x, rest, ahead, by simpa using accepted, rfl⟩
      exact .found .self (.refl c) ((c.run_fst _ _).trans consumed)

/-- What is neglected where consuming it fails lacks a character, or could be consumed. -/
theorem inMode (compound : p.isCompound = true)
    (modes : ∀ mode, p.matcher mode = (p.matcher .consume).inMode p mode)
    (consuming : ∀ {e}, (p.matcher .consume).run c.point = .error e → p.Explained c e)
    (h : (p.matcher mode).run c.point = .error e) : p.Explained c e := by
  cases mode with
  | consume => exact consuming h
  | neglect =>
    have neglected := h
    rw [modes .neglect] at h
    rcases Matcher.run_anythingBut_error_iff.mp h with ⟨⟨m, consumed⟩, rfl⟩ | ⟨-, none, rfl⟩
    · exact .found .self (.refl c) ((c.run_fst p .consume).trans consumed)
    · have ended : c.atEnd = true := by rw [Cursor.atEnd_eq, Point.atEnd, none, List.isEmpty_nil]
      exact .exhausted .self (.refl c) compound ended (Cursor.run_error neglected)

/-- A range fails where its opener does, or because it is not closed. -/
theorem range {r : RangePattern}
    (opening : ∀ {e}, (r.opener.matcher .consume).run c.point = .error e → r.opener.Explained c e)
    (h : (r.pattern.matcher .consume).run c.point = .error e) : r.pattern.Explained c e := by
  rcases RangePattern.run_pattern_error_iff.mp h with failed | ⟨rfl, unclosed⟩
  · exact (opening failed).of_child (opener_mem_children r) (.refl c)
  · exact .unclosed .self (.refl c) unclosed

end Explained

theorem explained_of_error (p : Pattern) {mode : Mode} {c : Cursor} {e : MatchError Pattern}
    (h : (p.matcher mode).run c.point = .error e) : p.Explained c e := by
  induction p generalizing mode c e with
  | literal l => exact .literal h
  | test t => exact .test h
  | negation inner ih =>
    have h : (inner.matcher mode.flip).run c.point = .error e := h
    exact (ih h).of_child (by simp [children]) (.refl c)
  | capture inner name ih =>
    have failed := Matcher.run_captured_error_iff.mp h
    exact (ih failed).of_child (by simp [children]) (.refl c)
  | seq left right ihl ihr =>
    refine .inMode rfl (fun _ => rfl) (fun h => ?_) h
    rcases Matcher.run_andThen_error_iff.mp h with failed | ⟨m, consumed, failed⟩
    · exact (ihl failed).of_child (by simp [children]) (.refl c)
    · rw [← Cursor.point_advance ((left.matcher .consume).fits consumed)] at failed
      exact (ihr failed).of_child (by simp [children]) (.advance c _)
  | alt left right _ ihr =>
    refine .inMode rfl (fun _ => rfl) (fun h => ?_) h
    exact (ihr (Matcher.run_orElse_error h)).of_child (by simp [children]) (.refl c)
  | optional inner _ =>
    refine .inMode rfl (fun _ => rfl) (fun h => ?_) h
    obtain ⟨m, found⟩ := Matcher.run_optional_ok (inner.matcher .consume) c.point
    cases found.symm.trans h
  | span inner _ =>
    refine .inMode rfl (fun _ => rfl) (fun h => ?_) h
    cases h
  | repeated inner count ih =>
    refine .inMode rfl (fun _ => rfl) (fun h => ?_) h
    obtain ⟨n, inside, failed⟩ := Matcher.run_times_error h
    rw [← Cursor.point_advance inside] at failed
    exact (ih failed).of_child (by simp [children]) (.advance c n)
  | range opener closer iho _ =>
    refine .inMode rfl (fun _ => rfl) (fun h => ?_) h
    exact .range (r := ⟨opener, closer, .plain⟩) iho h
  | escapedRange opener closer escape iho _ _ =>
    refine .inMode rfl (fun _ => rfl) (fun h => ?_) h
    exact .range (r := ⟨opener, closer, .escaped escape⟩) iho h
  | nestedRange opener closer iho _ =>
    refine .inMode rfl (fun _ => rfl) (fun h => ?_) h
    exact .range (r := ⟨opener, closer, .nested⟩) iho h

/-- An error tells the truth: the text in it is that of a part of the pattern, and what it says has
happened to this part where the match was tried or further on. -/
theorem errors_truthful (p : Pattern) (mode : Mode) (c : Cursor) (e : MatchError Pattern)
    (failed : (c.run p mode).1 = .error e) :
    p.Explained c e ∧ e.subject.PartOf p ∧ e.rendered.subject = e.subject.renderText := by
  rw [Cursor.run_fst] at failed
  have explained := p.explained_of_error failed
  refine ⟨explained, explained.subject_partOf, ?_⟩
  cases e <;> rfl

/-- The quote that would close the range is the one that an escape takes. -/
theorem errors_truthful_of_open_quote :
    let quote := literal ⟨['"'], .matchCase⟩
    let p := (escapedRange quote quote (literal ⟨['\\'], .matchCase⟩)).capture "x"
    let c := Cursor.place ['-', '"', 'a', '\\', '"'] 1
    let e : MatchError Pattern := .endOfSource quote
    (c.run p .consume).1 = .error e ∧ p.Explained c e ∧ e.subject.PartOf p ∧
      e.rendered.subject = quote.renderText := by
  intro quote p c e
  have failed : (c.run p .consume).1 = .error e := by
    rw [Cursor.run_fst]
    cbv
  exact ⟨failed, errors_truthful p .consume c e failed⟩

end Pattern

end TextPattern

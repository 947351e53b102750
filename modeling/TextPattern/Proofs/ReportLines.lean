import TextPattern.Proofs.Mirrored
import TextPattern.Proofs.TokensRead
import TextPattern.Report

namespace TextPattern

namespace Text

variable {xs ys text : List Char} {c : Char} {n base : Nat}

/-- Nothing in a text ends a line. -/
def OneLine (xs : List Char) : Prop :=
  ∀ c ∈ xs, c ≠ '\n' ∧ c ≠ '\r'

instance : Decidable (OneLine xs) :=
  decidable_of_iff ((xs.all fun c => c != '\n' && c != '\r') = true) (by simp [OneLine])

theorem oneLine_nil : OneLine [] := by
  intro c hc
  cases hc

theorem oneLine_iff_notMem : OneLine xs ↔ '\n' ∉ xs ∧ '\r' ∉ xs :=
  ⟨fun one => ⟨fun h => (one _ h).1 rfl, fun h => (one _ h).2 rfl⟩,
    fun ⟨feed, back⟩ _ hc => ⟨fun h => feed (h ▸ hc), fun h => back (h ▸ hc)⟩⟩

theorem oneLine_append : OneLine (xs ++ ys) ↔ OneLine xs ∧ OneLine ys :=
  List.forall_mem_append

theorem oneLine_cons : OneLine (c :: xs) ↔ (c ≠ '\n' ∧ c ≠ '\r') ∧ OneLine xs :=
  List.forall_mem_cons

theorem oneLine_flatMap {α : Type} {items : List α} {f : α → List Char}
    (h : ∀ a ∈ items, OneLine (f a)) : OneLine (items.flatMap f) := by
  intro c hc
  obtain ⟨a, ha, hc⟩ := List.mem_flatMap.mp hc
  exact h a ha c hc

theorem exists_digitChar (large : 1 < base) (h : c ∈ Nat.toDigits base n) :
    ∃ d : Nat, d.digitChar = c := by
  induction n using Nat.strongRecOn with
  | ind n ih =>
    rw [Nat.toDigits_eq_if large] at h
    by_cases small : n < base
    · rw [if_pos small] at h
      exact ⟨n, (List.mem_singleton.mp h).symm⟩
    · rw [if_neg small] at h
      rcases List.mem_append.mp h with before | last
      · exact ih _ (Nat.div_lt_self (by omega) large) before
      · exact ⟨n % base, (List.mem_singleton.mp last).symm⟩

theorem oneLine_toDigits (large : 1 < base) : OneLine (Nat.toDigits base n) := by
  intro c hc
  obtain ⟨d, rfl⟩ := exists_digitChar large hc
  exact ⟨Nat.digitChar_ne '\n' rfl, Nat.digitChar_ne '\r' rfl⟩

theorem oneLine_codePoint : OneLine (codePoint c) := by
  have digits : OneLine (Nat.toDigits 16 c.toNat) := oneLine_toDigits (by decide)
  exact oneLine_append.mpr ⟨oneLine_append.mpr ⟨by decide, digits⟩, by decide⟩

/-- The two characters that end lines are written with a letter. -/
theorem oneLine_escaped : OneLine (escaped '"' c) := by
  by_cases feed : c = '\n'
  · subst feed
    decide
  by_cases back : c = '\r'
  · subst back
    decide
  have plain : OneLine [c] := oneLine_cons.mpr ⟨⟨feed, back⟩, oneLine_nil⟩
  unfold escaped
  split
  · decide
  split
  · decide
  rw [if_neg (by simpa using feed), if_neg (by simpa using back)]
  split
  · exact oneLine_cons.mpr ⟨by decide, plain⟩
  split
  · exact plain
  · exact oneLine_codePoint

theorem oneLine_quoted : OneLine (quoted '"' text) := by
  have inside : OneLine (text.flatMap (escaped '"')) := oneLine_flatMap fun _ _ => oneLine_escaped
  exact oneLine_append.mpr ⟨oneLine_cons.mpr ⟨by decide, inside⟩, by decide⟩

theorem oneLine_name {name : String} (h : Notation.isName name = true) : OneLine name.toList := by
  intro c hc
  constructor
  · rintro rfl
    exact Notation.notMem_name h (by decide) hc
  · rintro rfl
    exact Notation.notMem_name h (by decide) hc

/-- The line of an offset is one of those that there are, and it begins at the offset or before. -/
def Located (text : List Char) (offset : Nat) : Prop :=
  let line := (position text offset).line
  0 < line ∧ line ≤ (lineStarts text).size ∧ (lineStarts text).getD (line - 1) 0 ≤ offset

theorem lineStartsOnto_size (found : Array Nat) (offset : Nat) (text : List Char) :
    found.size ≤ (lineStartsOnto found offset text).size ∧
      ∀ i < found.size, (lineStartsOnto found offset text).getD i 0 = found.getD i 0 := by
  induction text generalizing found offset with
  | nil => exact ⟨Nat.le_refl _, fun _ _ => rfl⟩
  | cons c rest ih =>
    rw [lineStartsOnto]
    split
    next =>
      obtain ⟨size, same⟩ := ih (found.push (offset + 1)) (offset + 1)
      rw [Array.size_push] at size same
      exact ⟨by omega, fun i hi => (same i (by omega)).trans (getD_push_lt hi)⟩
    next => exact ih found (offset + 1)

theorem lineStarts_zero (text : List Char) :
    0 < (lineStarts text).size ∧ (lineStarts text).getD 0 0 = 0 := by
  obtain ⟨size, same⟩ := lineStartsOnto_size #[0] 0 text
  exact ⟨size, same 0 (by decide)⟩

theorem located (text : List Char) (offset : Nat) : Located text (min offset text.length) := by
  obtain ⟨some_line, first⟩ := lineStarts_zero text
  have ascending := lineStarts_ascending text
  have here : (position text (min offset text.length)).line =
      countUpTo (lineStarts text) (min offset text.length) := by
    simp only [position, positionAmong, Nat.min_eq_left (Nat.min_le_right _ _)]
  have pos : 0 < countUpTo (lineStarts text) (min offset text.length) :=
    (lt_countUpTo_iff ascending some_line).mpr (by omega)
  have bound := countUpTo_le_size (lineStarts text) (min offset text.length)
  unfold Located
  rw [here]
  exact ⟨pos, bound, (lt_countUpTo_iff ascending (by omega)).mp (by omega)⟩

end Text

/-- A hit that lies within a text, with captures of the names that a pattern can give. -/
structure Hit.Printable (text : List Char) (h : Hit) : Prop where
  ordered : h.start ≤ h.stop
  inside : h.stop ≤ text.length
  names : ∀ k ∈ h.captures, Notation.isName k.name = true

namespace Pattern

variable {p : Pattern}

/-- What a match records is recorded under a name of its pattern. -/
theorem name_of_capture {mode : Mode} {place : Point} {m : Match} {k : Capture}
    (h : p.run mode place = .ok m) (hk : k ∈ m.captures) : k.name ∈ p.captureNames := by
  -- Leaving out the captures of other names leaves out none.
  have mirrored := p.matcher_mirrors (f := fun k => if k.name ∈ p.captureNames then [k] else [])
    (n := 0) mode fun name known offset text => by simp only [known, ↓reduceIte, Nat.zero_add]
  have same := mirrored place
  rw [Point.shift_zero, show (p.matcher mode).run place = .ok m from h] at same
  have kept := congrArg Match.captures (Except.ok.inj same)
  rw [kept] at hk
  obtain ⟨j, -, hj⟩ := List.mem_flatMap.mp hk
  split at hj
  next known =>
    cases List.mem_singleton.mp hj
    exact known
  next => cases hj

theorem Representable.names (h : p.Representable) :
    ∀ name ∈ p.captureNames, Notation.isName name = true := by
  induction p with
  | literal l => exact nofun
  | test t => exact nofun
  | seq left right ihl ihr | alt left right ihl ihr | range left right ihl ihr
  | nestedRange left right ihl ihr => exact List.forall_mem_append.mpr ⟨ihl h.1, ihr h.2⟩
  | escapedRange opener closer escape iho ihc ihe =>
    exact List.forall_mem_append.mpr
      ⟨iho h.1, List.forall_mem_append.mpr ⟨ihc h.2.1, ihe h.2.2⟩⟩
  | optional inner ih | span inner ih | repeated inner count ih | negation inner ih => exact ih h
  | capture inner name ih => exact List.forall_mem_cons.mpr ⟨h.2, ih h.1⟩

theorem Representable.printable (written : p.Representable) {mode : Mode} {text : List Char}
    {o : Nat} (inside : o ≤ text.length) {m : Match} (h : p.run mode (.within text o) = .ok m) :
    (Hit.ofMatch (.within text o) m).Printable text := by
  have fits : m.length ≤ (text.drop o).length := (p.matcher mode).fits h
  rw [List.length_drop] at fits
  refine ⟨Nat.le_add_right o m.length, ?_, fun k hk => written.names _ (name_of_capture h hk)⟩
  change o + m.length ≤ text.length
  omega

end Pattern

namespace Report

variable {r : Report} {hit : Hit} {line : List Char}

theorem hit?_of_inside (ordered : hit.start ≤ hit.stop) (inside : hit.stop ≤ r.text.length) :
    ∃ line, r.hit? hit = some line := by
  rw [← r.length_eq] at inside
  rw [hit?, if_pos ⟨ordered, inside⟩]
  exact ⟨_, rfl⟩

theorem paint_plain (plain : r.colored = false) (ink : Ink) (piece : List Char) :
    r.paint ink piece = piece := by
  rw [paint, plain]
  rfl

theorem oneLine_location (plain : r.colored = false) (offset : Nat) :
    Text.OneLine (r.location offset) := by
  have number (n : Nat) : Text.OneLine (Nat.toDigits 10 n) := Text.oneLine_toDigits (by decide)
  rw [location, paint_plain plain]
  exact Text.oneLine_append.mpr ⟨number _, Text.oneLine_cons.mpr ⟨by decide, number _⟩⟩

theorem oneLine_capture (plain : r.colored = false) {k : Capture}
    (name : Text.OneLine k.name.toList) : Text.OneLine (r.capture k) := by
  rw [capture, paint_plain plain]
  exact Text.oneLine_append.mpr ⟨name, Text.oneLine_cons.mpr ⟨by decide, Text.oneLine_quoted⟩⟩

theorem oneLine_hit? (plain : r.colored = false)
    (names : ∀ k ∈ hit.captures, Text.OneLine k.name.toList) (h : r.hit? hit = some line) :
    Text.OneLine line := by
  have captures : Text.OneLine (hit.captures.flatMap fun k => ' ' :: r.capture k) :=
    Text.oneLine_flatMap fun k hk =>
      Text.oneLine_cons.mpr ⟨by decide, oneLine_capture plain (names k hk)⟩
  have place : Text.OneLine (r.location hit.start ++ [':', ' ']) :=
    Text.oneLine_append.mpr ⟨oneLine_location plain _, by decide⟩
  rw [hit?] at h
  split at h
  next =>
    rw [paint_plain plain] at h
    cases h
    exact Text.oneLine_append.mpr ⟨Text.oneLine_append.mpr ⟨place, Text.oneLine_quoted⟩, captures⟩
  next => cases h

theorem line_of_printable (plain : r.colored = false) (h : hit.Printable r.text) :
    ∃ line, r.hit? hit = some line ∧ Text.OneLine line := by
  obtain ⟨line, told⟩ := hit?_of_inside h.ordered h.inside
  exact ⟨line, told, oneLine_hit? plain (fun k hk => Text.oneLine_name (h.names k hk)) told⟩

end Report

end TextPattern

import TextPattern.Proofs.ExtremeHits

namespace TextPattern

/-- Where a search goes on after a hit. -/
def Hit.resume (h : Hit) : Nat :=
  if h.isEmpty then h.stop + 1 else h.stop

theorem Hit.le_resume_iff {h : Hit} {o : Nat} (ordered : h.start ≤ h.stop) :
    h.resume ≤ o ↔ h.start < o ∧ h.stop ≤ o := by
  unfold resume
  split
  next e =>
    have : h.start = h.stop := by simpa [isEmpty] using e
    omega
  next e =>
    have : h.start ≠ h.stop := by simpa [isEmpty] using e
    omega

namespace Pattern

variable {p : Pattern} {text : List Char} {start o : Nat} {hit : Hit} {hits : List Hit}

theorem hitAt_bounds (h : p.hitAt text o = some hit) :
    hit.start = o ∧ hit.start ≤ hit.stop ∧ hit.stop ≤ text.length :=
  Matcher.hitAtOffset_bounds h

theorem hitAt_eq_none_iff (inside : o ≤ text.length) :
    p.hitAt text o = none ↔ ¬∃ m, ((Cursor.place text o).run p .consume).1 = .ok m := by
  have absent : p.hitAt text o = none ↔ o ∉ p.places text := by
    rw [← attempt_places]
    exact Matcher.hitAtOffset_eq_none_iff
  exact absent.trans (not_congr (and_iff_right inside))

theorem findForward_eq_none_iff : p.findForward text start = none ↔
    ∀ o, start ≤ o → o ≤ text.length → p.hitAt text o = none := by
  rw [findForward, Matcher.findSome?_forward]
  exact Matcher.firstHit_eq_none_iff

theorem findForward_eq_some_iff : p.findForward text start = some hit ↔
    start ≤ hit.start ∧ p.hitAt text hit.start = some hit ∧
      ∀ o, start ≤ o → o < hit.start → p.hitAt text o = none := by
  rw [findForward, Matcher.findSome?_forward]
  constructor
  · exact fun h => ⟨(Matcher.firstHit_bounds h).1, Matcher.firstHit_least h⟩
  · rintro ⟨low, found, before⟩
    have matched : hit.start ∈ p.attempt.places text := Matcher.mem_places_iff.mpr ⟨hit, found⟩
    refine Matcher.firstHit_eq_some_iff.mpr ⟨⟨⟨matched, low⟩, ?_⟩, found⟩
    rintro o ⟨matched, later⟩
    by_contra early
    exact Matcher.hitAtOffset_eq_none_iff.mp (before o later (Nat.lt_of_not_le early)) matched

/-- Hits from `start` on, each of them the match at its place, that do not overlap and that leave
out no place where the pattern can be consumed unless a hit runs across it. -/
structure GreedyCover (p : Pattern) (text : List Char) (start : Nat) (hits : List Hit) : Prop where
  found : ∀ h ∈ hits, p.hitAt text h.start = some h ∧
    start ≤ h.start ∧ h.start ≤ h.stop ∧ h.stop ≤ text.length
  apart : hits.Pairwise fun g h => g.start < h.start ∧ g.stop ≤ h.start
  covered : ∀ o, start ≤ o → o ≤ text.length →
    (∃ m, ((Cursor.place text o).run p .consume).1 = .ok m) →
      ∃ h ∈ hits, h.start = o ∨ h.start < o ∧ o < h.stop

/-- One search after another, each from where the hit before it lets the search go on, until the
place lies past the end of the text or nothing more is found. -/
inductive Sweeps (p : Pattern) (text : List Char) : Nat → List Hit → Prop
  | past {offset : Nat} : text.length < offset → Sweeps p text offset []
  | done {offset : Nat} : offset ≤ text.length → p.findForward text offset = none →
      Sweeps p text offset []
  | onward {offset : Nat} {hit : Hit} {hits : List Hit} : offset ≤ text.length →
      p.findForward text offset = some hit → Sweeps p text hit.resume hits →
      Sweeps p text offset (hit :: hits)

theorem GreedyCover.of_none (none : p.findForward text start = none) :
    p.GreedyCover text start [] where
  found := by simp
  apart := .nil
  covered o low high consumed :=
    absurd consumed ((hitAt_eq_none_iff high).mp (findForward_eq_none_iff.mp none o low high))

theorem GreedyCover.cons (first : p.findForward text start = some hit)
    (rest : p.GreedyCover text hit.resume hits) : p.GreedyCover text start (hit :: hits) := by
  obtain ⟨low, present, before⟩ := findForward_eq_some_iff.mp first
  obtain ⟨-, ordered, high⟩ := hitAt_bounds present
  have later {k : Hit} (hk : k ∈ hits) : hit.start < k.start ∧ hit.stop ≤ k.start :=
    (Hit.le_resume_iff ordered).mp (rest.found k hk).2.1
  refine ⟨?_, List.pairwise_cons.mpr ⟨fun k hk => later hk, rest.apart⟩, ?_⟩
  · intro k hk
    rcases List.mem_cons.mp hk with rfl | hk
    · exact ⟨present, low, ordered, high⟩
    · have := later hk
      obtain ⟨here, -, bounds⟩ := rest.found k hk
      exact ⟨here, by omega, bounds⟩
  · intro o from_start inside consumed
    by_cases early : o < hit.start
    · exact absurd consumed ((hitAt_eq_none_iff inside).mp (before o from_start early))
    by_cases within_hit : hit.start = o ∨ o < hit.stop
    · exact ⟨hit, List.mem_cons_self, by omega⟩
    · have resumed : hit.resume ≤ o := (Hit.le_resume_iff ordered).mpr (by omega)
      obtain ⟨k, hk, covers⟩ := rest.covered o resumed inside consumed
      exact ⟨k, List.mem_cons_of_mem hit hk, covers⟩

/-- A place before the first hit of a cover is the start of no hit and inside none. -/
theorem GreedyCover.findForward_eq (cover : p.GreedyCover text start (hit :: hits)) :
    p.findForward text start = some hit := by
  obtain ⟨present, low, ordered, high⟩ := cover.found hit List.mem_cons_self
  refine findForward_eq_some_iff.mpr ⟨low, present, fun o from_start early => ?_⟩
  rw [hitAt_eq_none_iff (by omega)]
  intro consumed
  obtain ⟨k, hk, covers⟩ := cover.covered o from_start (by omega) consumed
  rcases List.mem_cons.mp hk with rfl | hk
  · omega
  · have := (List.pairwise_cons.mp cover.apart).1 k hk
    omega

theorem GreedyCover.tail (cover : p.GreedyCover text start (hit :: hits)) :
    p.GreedyCover text hit.resume hits := by
  obtain ⟨-, low, ordered, -⟩ := cover.found hit List.mem_cons_self
  obtain ⟨later, apart⟩ := List.pairwise_cons.mp cover.apart
  refine ⟨fun k hk => ?_, apart, fun o resumed inside consumed => ?_⟩
  · obtain ⟨here, -, bounds⟩ := cover.found k (List.mem_cons_of_mem hit hk)
    exact ⟨here, (Hit.le_resume_iff ordered).mpr (later k hk), bounds⟩
  · have beyond := (Hit.le_resume_iff ordered).mp resumed
    obtain ⟨k, hk, covers⟩ := cover.covered o (by omega) inside consumed
    rcases List.mem_cons.mp hk with rfl | hk
    · omega
    · exact ⟨k, hk, covers⟩

theorem Sweeps.greedyCover (sweep : p.Sweeps text start hits) : p.GreedyCover text start hits := by
  induction sweep with
  | past beyond => exact .of_none (findForward_eq_none_iff.mpr fun o low high => by omega)
  | done _ none => exact .of_none none
  | onward _ first _ ih => exact .cons first ih

theorem GreedyCover.sweeps (cover : p.GreedyCover text start hits) : p.Sweeps text start hits := by
  induction hits generalizing start with
  | nil =>
    by_cases inside : start ≤ text.length
    · refine .done inside (findForward_eq_none_iff.mpr fun o low high => ?_)
      rw [hitAt_eq_none_iff high]
      intro consumed
      obtain ⟨k, hk, -⟩ := cover.covered o low high consumed
      cases hk
    · exact .past (by omega)
  | cons hit hits ih =>
    have := cover.found hit List.mem_cons_self
    exact .onward (by omega) cover.findForward_eq (ih cover.tail)

theorem Sweeps.length_le (sweep : p.Sweeps text start hits) :
    hits.length ≤ text.length + 1 - start := by
  induction sweep with
  | past _ => exact Nat.zero_le _
  | done _ _ => exact Nat.zero_le _
  | onward inside first _ ih =>
    obtain ⟨low, present, -⟩ := findForward_eq_some_iff.mp first
    have ordered := (hitAt_bounds present).2.1
    have := (Hit.le_resume_iff ordered).mp (Nat.le_refl _)
    simp only [List.length_cons]
    omega

theorem sweeps_iff : p.Sweeps text start hits ↔ hits = p.findAll text start := by
  rw [findAll, Matcher.hitsOnto_forward]
  constructor
  · intro sweep
    induction sweep with
    | past beyond => exact (Matcher.hitsFrom_of_none (Matcher.firstHit_of_lt beyond)).symm
    | done _ none =>
      rw [findForward, Matcher.findSome?_forward] at none
      exact (Matcher.hitsFrom_of_none none).symm
    | onward _ first _ ih =>
      rw [findForward, Matcher.findSome?_forward] at first
      rw [Matcher.hitsFrom_of_some first, ih]
      rfl
  · rintro rfl
    fun_induction Matcher.hitsFrom p.attempt text start with
    | case1 start none =>
      by_cases inside : start ≤ text.length
      · exact .done inside ((p.attempt.findSome?_forward text start).trans none)
      · exact .past (by omega)
    | case2 start hit first ih =>
      have := Matcher.firstHit_bounds first
      exact .onward (by omega) ((p.attempt.findSome?_forward text start).trans first) ih

/-- All hits of a text are its one greedy cover, which sweeping the text ends with. -/
theorem findAll_greedy_cover (p : Pattern) (text : List Char) (start : Nat) :
    (∀ hits, p.GreedyCover text start hits ↔ hits = p.findAll text start) ∧
      (∀ hits, p.Sweeps text start hits ↔ hits = p.findAll text start) ∧
      (text.length < start → p.findAll text start = []) ∧
      (start ≤ text.length → (p.findAll text start).length ≤ text.length - start + 1) := by
  have sweep : p.Sweeps text start (p.findAll text start) := sweeps_iff.mpr rfl
  refine ⟨fun hits => ?_, fun hits => sweeps_iff, fun beyond => ?_, fun inside => ?_⟩
  · exact ⟨fun cover => sweeps_iff.mp cover.sweeps, fun h => h ▸ sweep.greedyCover⟩
  · exact (sweeps_iff.mp (.past beyond)).symm
  · have := sweep.length_le
    omega

/-- Empty hits stand right after another hit and at the very end, and never inside a hit. -/
theorem findAll_greedy_cover_of_optional :
    let p := optional (literal ⟨['a', 'a'], .matchCase⟩)
    let text := ['b', 'a', 'a', 'b']
    let hits : List Hit := [⟨0, 0, []⟩, ⟨1, 3, []⟩, ⟨3, 3, []⟩, ⟨4, 4, []⟩]
    p.GreedyCover text 0 hits ∧ hits.length ≤ text.length - 0 + 1 ∧ p.findAll text 5 = [] := by
  intro p text hits
  have sweep : p.Sweeps text 0 hits := by
    refine .onward (by decide) rfl ?_
    refine .onward (by decide) rfl ?_
    refine .onward (by decide) rfl ?_
    refine .onward (by decide) rfl ?_
    exact .past (by decide)
  obtain ⟨cover, all, -, short⟩ := findAll_greedy_cover p text 0
  have same := (all hits).mp sweep
  obtain ⟨-, -, beyond, -⟩ := findAll_greedy_cover p text 5
  refine ⟨(cover hits).mpr same, ?_, beyond (by decide)⟩
  rw [same]
  exact short (Nat.zero_le _)

end Pattern

end TextPattern

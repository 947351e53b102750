import TextPattern.Proofs.GreedyCover
import TextPattern.Proofs.Invocation
import TextPattern.Proofs.ReportLines
import TextPattern.Proofs.WrittenPatterns

namespace TextPattern

namespace Pattern

variable {p : Pattern} {text : List Char} {start o : Nat} {hit : Hit} {m : Match}

theorem hitAt_eq_some_iff : p.hitAt text o = some hit ↔ o ≤ text.length ∧
    ∃ m, p.run .consume (.within text o) = .ok m ∧ hit = .ofMatch (.within text o) m := by
  have same (m : Match) := p.attempt_sameMatches (.within text o) m
  rw [show p.hitAt text o = p.attempt.hitAtOffset text o from rfl, Matcher.hitAtOffset_eq_some_iff]
  simp only [same]
  rfl

/-- The search for all hits begins with the search for one. -/
theorem findAll_head? (p : Pattern) (text : List Char) (start : Nat) :
    (p.findAll text start).head? = p.findForward text start := by
  have sweep : p.Sweeps text start (p.findAll text start) := sweeps_iff.mpr rfl
  generalize p.findAll text start = hits at sweep
  cases sweep with
  | past beyond =>
    have none : p.findForward text start = none :=
      findForward_eq_none_iff.mpr fun o low high => by omega
    rw [none]
    rfl
  | done _ none =>
    rw [none]
    rfl
  | onward _ first _ =>
    rw [first]
    rfl

theorem findForward_of_consumed (inside : start ≤ text.length)
    (h : p.run .consume (.within text start) = .ok m) :
    p.findForward text start = some (.ofMatch (.within text start) m) := by
  have here : p.hitAt text start = some (.ofMatch (.within text start) m) :=
    hitAt_eq_some_iff.mpr ⟨inside, m, h, rfl⟩
  refine findForward_eq_some_iff.mpr ⟨Nat.le_refl _, here, fun o low high => ?_⟩
  have : o < start := high
  omega

/-- From one end of the text or from the other, something is found or nothing is. -/
theorem findForward_eq_none_iff_findBackward :
    p.findForward text 0 = none ↔ p.findBackward text text.length = none := by
  have found : (∃ hit, p.findForward text 0 = some hit) ↔
      ∃ hit, p.findBackward text text.length = some hit := by
    rw [findForward_exists_iff, findBackward_exists_iff]
    exact exists_congr fun o => and_congr_right fun matched =>
      iff_of_true (Nat.zero_le o) matched.1
  rwa [← Option.ne_none_iff_exists', ← Option.ne_none_iff_exists', not_iff_not] at found

theorem hitAt_of_findForward (h : hit ∈ (p.findForward text start).toList) :
    ∃ o, p.hitAt text o = some hit :=
  ⟨hit.start, (findForward_eq_some_iff.mp (Option.mem_toList.mp h)).2.1⟩

theorem hitAt_of_findBackward (h : hit ∈ (p.findBackward text start).toList) :
    ∃ o, p.hitAt text o = some hit :=
  ⟨hit.start, hitAt_start_iff.mpr (findBackward_isGreatest.mp (Option.mem_toList.mp h)).2⟩

theorem hitAt_of_findAll (h : hit ∈ p.findAll text start) : ∃ o, p.hitAt text o = some hit := by
  have sweep : p.Sweeps text start (p.findAll text start) := sweeps_iff.mpr rfl
  exact ⟨hit.start, (sweep.greedyCover.found hit h).1⟩

end Pattern

namespace Report

variable {p : Pattern} {text : List Char} {r : Report} {hit : Hit} {hits : List Hit} {o : Nat}

theorem line_of_match (written : p.Representable) (mode : Mode) (inside : o ≤ text.length)
    {m : Match} (h : p.run mode (.within text o) = .ok m) : ∃ line,
      (ofText text false).hit? (.ofMatch (.within text o) m) = some line ∧ Text.OneLine line :=
  line_of_printable rfl (written.printable inside h)

theorem line_of_hit (written : p.Representable) (h : p.hitAt text o = some hit) :
    ∃ line, (ofText text false).hit? hit = some line ∧ Text.OneLine line := by
  obtain ⟨inside, m, hm, rfl⟩ := Pattern.hitAt_eq_some_iff.mp h
  exact line_of_match written .consume inside hm

theorem lines_of_hits (written : p.Representable)
    (found : ∀ hit ∈ hits, ∃ o, p.hitAt text o = some hit) : ∃ lines : List (List Char),
      hits.map (ofText text false).hit? = lines.map some ∧ ∀ line ∈ lines, Text.OneLine line := by
  induction hits with
  | nil => exact ⟨[], rfl, nofun⟩
  | cons hit hits ih =>
    obtain ⟨⟨o, here⟩, later⟩ := List.forall_mem_cons.mp found
    obtain ⟨line, told, one⟩ := line_of_hit written here
    obtain ⟨lines, same, others⟩ := ih later
    exact ⟨line :: lines, by rw [List.map_cons, told, same, List.map_cons],
      List.forall_mem_cons.mpr ⟨one, others⟩⟩

theorem filterMap_hit? {lines : List (List Char)} (h : hits.map r.hit? = lines.map some) :
    hits.filterMap r.hit? = lines := by
  calc hits.filterMap r.hit? = (hits.map r.hit?).filterMap id := by rw [List.filterMap_map]; rfl
    _ = (lines.map some).filterMap id := by rw [h]
    _ = lines := by simp [List.filterMap_map]

end Report

namespace CommandLine

variable {p : Pattern} {action : Action} {start : Option UInt64} {found : List Hit}
  {lines : List (List Char)}

/-- How many lines a run has to print, if each hit is to have one. -/
def Job.due (j : Job) (text : List Char) : Nat :=
  match j.action with
  | .consume | .neglect => 1
  | .find => (j.pattern.findForward text (j.start.getD 0)).toList.length
  | .backward => (j.pattern.findBackward text (j.start.getD text.length)).toList.length
  | .all => (j.pattern.findAll text (j.start.getD 0)).length

/-- The offset that is given, or else the beginning. -/
def startOffset (start : Option UInt64) : Nat :=
  (start.map UInt64.toNat).getD 0

/-- What is printed of a list of hits, and whether there are any. -/
def told (text : List Char) (found : List Hit) : List (List Char) × Bool :=
  (found.filterMap (Report.ofText text false).hit?, !found.isEmpty)

theorem complete_eq (p : Pattern) (action : Action) (start : Option UInt64) (text : String) :
    (searching p action start).complete (decode text.toUTF8) =
      ⟨if ((searching p action start).answer text.toList).2 then 0 else 1,
        String.ofList (((searching p action start).answer text.toList).1.flatMap (· ++ ['\n'])),
        none⟩ := by
  rw [decode_toUTF8]
  rfl

theorem complete_of_told {text : String}
    (answer : (searching p action start).answer text.toList = told text.toList found)
    (same : found.map (Report.ofText text.toList false).hit? = lines.map some) :
    (searching p action start).complete (decode text.toUTF8) =
      ⟨if found = [] then 1 else 0, String.ofList (lines.flatMap (· ++ ['\n'])), none⟩ := by
  rw [complete_eq, answer, told, Report.filterMap_hit? same]
  cases found <;> rfl

/-- Lines that are ended one by one, and have no break of their own, are as many as the breaks. -/
theorem count_breaks (whole : ∀ line ∈ lines, Text.OneLine line) :
    (String.ofList (lines.flatMap (· ++ ['\n']))).toList.count '\n' = lines.length := by
  rw [String.toList_ofList]
  induction lines with
  | nil => rfl
  | cons line lines ih =>
    obtain ⟨here, later⟩ := List.forall_mem_cons.mp whole
    have no_break : line.count '\n' = 0 :=
      List.count_eq_zero_of_not_mem (Text.oneLine_iff_notMem.mp here).1
    have last : ['\n'].count '\n' = 1 := rfl
    rw [List.flatMap_cons, List.count_append, List.count_append, no_break, last, ih later,
      List.length_cons]
    omega

theorem code_eq_zero_iff {text : String} :
    ((searching p action start).complete (decode text.toUTF8)).code = 0 ↔
      ((searching p action start).answer text.toList).2 = true := by
  rw [complete_eq]
  cases ((searching p action start).answer text.toList).2 with
  | true => exact ⟨fun _ => rfl, fun _ => rfl⟩
  | false => exact ⟨nofun, nofun⟩

theorem code_of_told {text : String}
    (answer : (searching p action start).answer text.toList = told text.toList found) :
    ((searching p action start).complete (decode text.toUTF8)).code = 0 ↔ found ≠ [] := by
  rw [code_eq_zero_iff, answer]
  cases found with
  | nil => exact ⟨nofun, fun some => absurd rfl some⟩
  | cons hit hits => exact ⟨nofun, fun _ => rfl⟩

/-- What is printed of a match right at an offset, or of its failure. -/
def toldHere (p : Pattern) (mode : Mode) (text : List Char) (o : Nat) : List (List Char) × Bool :=
  let report := Report.ofText text false
  match p.run mode (.within text o) with
  | .ok m => ((report.hit? (.ofMatch (.within text o) m)).toList, true)
  | .error e => ([report.failure o e.rendered], false)

theorem length_toldHere (written : p.Representable) (mode : Mode) {text : List Char} {o : Nat}
    (inside : o ≤ text.length) : (toldHere p mode text o).1.length = 1 := by
  rw [toldHere]
  cases run : p.run mode (.within text o) with
  | error e => rfl
  | ok m =>
    obtain ⟨line, told, -⟩ := Report.line_of_match written mode inside run
    simp only [told, Option.toList_some, List.length_singleton]

theorem length_told (written : p.Representable) {text : List Char}
    (hits : ∀ hit ∈ found, ∃ o, p.hitAt text o = some hit) :
    (told text found).1.length = found.length := by
  obtain ⟨lines, same, -⟩ := Report.lines_of_hits written hits
  have count := congrArg List.length same
  rw [List.length_map, List.length_map] at count
  rw [told, Report.filterMap_hit? same, count]

/-- No hit of a pattern that was read fails to be printed. -/
theorem length_answer (written : p.Representable) (action : Action) (start : Option UInt64)
    (text : List Char) : ((searching p action start).answer text).1.length =
      (searching p action start).due text := by
  cases action with
  | consume => exact length_toldHere written .consume (Nat.min_le_right _ _)
  | neglect => exact length_toldHere written .neglect (Nat.min_le_right _ _)
  | find => exact length_told written fun _ => Pattern.hitAt_of_findForward
  | backward => exact length_told written fun _ => Pattern.hitAt_of_findBackward
  | all => exact length_told written fun _ => Pattern.hitAt_of_findAll

/-- A consuming run that succeeds prints what a search from the same place finds first. -/
theorem answer_consume {text : List Char} (inside : startOffset start ≤ text.length)
    (succeeds : ((searching p .consume start).answer text).2 = true) :
    (searching p .consume start).answer text =
      told text (p.findForward text (startOffset start)).toList := by
  have here : (searching p .consume start).answer text =
      toldHere p .consume text (min (startOffset start) text.length) := rfl
  rw [here, Nat.min_eq_left inside, toldHere] at succeeds ⊢
  cases run : p.run .consume (.within text (startOffset start)) with
  | error e =>
    rw [run] at succeeds
    cases succeeds
  | ok m =>
    rw [Pattern.findForward_of_consumed inside run, told]
    cases h : (Report.ofText text false).hit? (.ofMatch (.within text (startOffset start)) m) <;>
      simp [h]

theorem complete_all {text : String}
    (same : (p.findAll text.toList (startOffset start)).map (Report.ofText text.toList false).hit? =
      lines.map some) :
    (searching p .all start).complete (decode text.toUTF8) =
      ⟨if p.findAll text.toList (startOffset start) = [] then 1 else 0,
        String.ofList (lines.flatMap (· ++ ['\n'])), none⟩ :=
  complete_of_told rfl same

/-- A search for one hit tells the first of all hits. -/
theorem complete_find {text : String}
    (same : (p.findAll text.toList (startOffset start)).map (Report.ofText text.toList false).hit? =
      lines.map some) :
    (searching p .find start).complete (decode text.toUTF8) =
      ⟨((searching p .all start).complete (decode text.toUTF8)).code,
        String.ofList ((lines.take 1).flatMap (· ++ ['\n'])), none⟩ := by
  have first : (searching p .find start).answer text.toList =
      told text.toList ((p.findAll text.toList (startOffset start)).take 1) := by
    rw [List.take_one, Pattern.findAll_head?]
    rfl
  have one_line : ((p.findAll text.toList (startOffset start)).take 1).map
      (Report.ofText text.toList false).hit? = (lines.take 1).map some := by
    rw [List.map_take, same, List.map_take]
  rw [complete_all same, complete_of_told first one_line]
  cases p.findAll text.toList (startOffset start) <;> rfl

/-- A consuming run that succeeds leaves what a search from the same place leaves. -/
theorem complete_consume {text : String} (inside : startOffset start ≤ text.toList.length)
    (succeeds : ((searching p .consume start).complete (decode text.toUTF8)).code = 0) :
    (searching p .consume start).complete (decode text.toUTF8) =
      (searching p .find start).complete (decode text.toUTF8) := by
  have matched := code_eq_zero_iff.mp succeeds
  rw [complete_eq, answer_consume inside matched]
  exact (complete_eq p .find start text).symm

theorem code_find_iff_backward (p : Pattern) (text : String) :
    ((searching p .find (some 0)).complete (decode text.toUTF8)).code = 0 ↔
      ((searching p .backward none).complete (decode text.toUTF8)).code = 0 := by
  have forward : ((searching p .find (some 0)).complete (decode text.toUTF8)).code = 0 ↔
      (p.findForward text.toList 0).toList ≠ [] :=
    code_of_told rfl
  have backward : ((searching p .backward none).complete (decode text.toUTF8)).code = 0 ↔
      (p.findBackward text.toList text.toList.length).toList ≠ [] :=
    code_of_told rfl
  rw [forward, backward, ne_eq, ne_eq, Option.toList_eq_nil_iff, Option.toList_eq_nil_iff,
    Pattern.findForward_eq_none_iff_findBackward]

/-- The modes of the program tell the same story of one pattern and one text: all hits have a line
each, a search forward tells the first of them, consuming tells the same where it succeeds, and a
search backward finds something just where a search forward does. Every line can be printed. -/
theorem modes_agree {pattern : String} (parses : Pattern.parse pattern.toList = .ok p)
    (text : String) (start : Option UInt64) :
    let ran (action : Action) (start : Option UInt64) :=
      (searching p action start).complete (decode text.toUTF8)
    let hits := p.findAll text.toList (startOffset start)
    (∃ lines : List (List Char),
        hits.map (Report.ofText text.toList false).hit? = lines.map some ∧
          (∀ line ∈ lines, '\n' ∉ line ∧ '\r' ∉ line) ∧
          ran .all start = ⟨if hits = [] then 1 else 0,
            String.ofList (lines.flatMap (· ++ ['\n'])), none⟩ ∧
          ran .find start = ⟨(ran .all start).code,
            String.ofList ((lines.take 1).flatMap (· ++ ['\n'])), none⟩) ∧
      (ran .all start).output.toList.count '\n' = hits.length ∧
      (ran .find start).output.toList.count '\n' = (hits.take 1).length ∧
      (hits = [] → ran .all start = ⟨1, "", none⟩) ∧
      (startOffset start ≤ text.toList.length → (ran .consume start).code = 0 →
        ran .consume start = ran .find start) ∧
      ((ran .find (some 0)).code = 0 ↔ (ran .backward none).code = 0) ∧
      (∀ action start, ∃ lines : List (List Char),
        lines = ((searching p action start).answer text.toList).1 ∧
          lines.length = (searching p action start).due text.toList ∧
          (ran action start).output = String.ofList (lines.flatMap (· ++ ['\n'])) ∧
          (ran action start).error = none) ∧
      ∀ o, Text.Located text.toList (min o text.toList.length) := by
  intro ran hits
  have written := (Pattern.parse_written parses).representable
  obtain ⟨lines, same, one⟩ : ∃ lines : List (List Char),
      hits.map (Report.ofText text.toList false).hit? = lines.map some ∧
        ∀ line ∈ lines, Text.OneLine line :=
    Report.lines_of_hits written fun _ => Pattern.hitAt_of_findAll
  have count : lines.length = hits.length := by
    simpa only [List.length_map] using (congrArg List.length same).symm
  have all : ran .all start =
      ⟨if hits = [] then 1 else 0, String.ofList (lines.flatMap (· ++ ['\n'])), none⟩ :=
    complete_all same
  have find : ran .find start = ⟨(ran .all start).code,
      String.ofList ((lines.take 1).flatMap (· ++ ['\n'])), none⟩ :=
    complete_find same
  refine ⟨⟨lines, same, fun line told => Text.oneLine_iff_notMem.mp (one line told), all, find⟩,
    ?_, ?_, fun none => ?_, complete_consume, code_find_iff_backward p text,
    fun action start => ?_, fun o => Text.located _ o⟩
  · rw [all, ← count]
    exact count_breaks one
  · have first_one : ∀ line ∈ lines.take 1, Text.OneLine line := fun line told =>
      one line (List.mem_of_mem_take told)
    rw [find, List.length_take, ← count, ← List.length_take]
    exact count_breaks first_one
  · rw [none] at same
    have empty : lines = [] := List.map_eq_nil_iff.mp same.symm
    rw [all, none, empty]
    rfl
  · have ended := complete_eq p action start text
    exact ⟨_, rfl, length_answer written action start _, congrArg Outcome.output ended,
      congrArg Outcome.error ended⟩

theorem modes_agree_on_digits :
    let ran (action : Action) (start : Option UInt64) :=
      (searching (.ofClass .digit) action start).complete (decode "a12".toUTF8)
    Pattern.parse "<digit>".toList = .ok (.ofClass .digit) ∧
      ran .all (some 1) = ⟨0, "1:2: \"1\"\n1:3: \"2\"\n", none⟩ ∧
      ran .find (some 1) = ⟨0, "1:2: \"1\"\n", none⟩ ∧
      ran .consume (some 1) = ran .find (some 1) ∧
      ((ran .find (some 0)).code = 0 ↔ (ran .backward none).code = 0) := by
  intro ran
  have parses : Pattern.parse "<digit>".toList = .ok (.ofClass .digit) := rfl
  obtain ⟨⟨lines, same, -, all, find⟩, -, -, -, consume, both, -, -⟩ :=
    modes_agree parses "a12" (some 1)
  have hits : (Pattern.ofClass .digit).findAll "a12".toList (startOffset (some 1)) =
      [⟨1, 2, []⟩, ⟨2, 3, []⟩] := by decide +kernel
  have told : [⟨1, 2, []⟩, ⟨2, 3, []⟩].map (Report.ofText "a12".toList false).hit? =
      ["1:2: \"1\"".toList, "1:3: \"2\"".toList].map some := by decide +kernel
  rw [hits] at same all
  cases (List.map_inj_right fun _ _ => Option.some.inj).mp (told.symm.trans same)
  have succeeds : ((searching (.ofClass .digit) .consume (some 1)).answer "a12".toList).2 = true :=
    rfl
  exact ⟨parses, all, find.trans (by rw [all]; rfl),
    consume (by decide) (code_eq_zero_iff.mpr succeeds), both⟩

end CommandLine

end TextPattern

import TextPattern.Pattern.Build
import TextPattern.Proofs.WalksFollow

namespace TextPattern

/-- What the user of a cursor asks for. -/
inductive Request
  | match (p : Pattern) (mode : Mode)
  | header (p : Pattern) (mode : Mode)
  | seek (n : UInt64)
  | peek
  | peekMany (n : UInt64)
  | slice (start n : UInt64)
  /-- A copy of the cursor, kept after those that were made before. -/
  | save
  /-- The cursor as it was copied, if there is a copy of that number. -/
  | restore (copy : Nat)

inductive Reply
  | done
  | verdict (v : Verdict)
  | passes (b : Bool)
  | next (c : Option Char)
  | ahead (stretch : Option (List Char))
  | stretch (text : List Char)

/-- A cursor in words, and the copies of it that are kept. -/
structure Machine where
  current : WordCursor
  saved : List WordCursor

/-- The same with cursors that are inside by their type. -/
structure Session where
  current : Cursor
  saved : List Cursor

abbrev Program :=
  StateT Machine (ExceptT Fault Part)

namespace Machine

/-- At the start of a text, or at some number that may be too large for it. -/
def opening (text : List Char) : Option UInt64 → Machine
  | none => ⟨⟨text, 0⟩, []⟩
  | some n => ⟨⟨text, min n.toNat text.length⟩, []⟩

def restored (m : Machine) (copy : Nat) : Machine :=
  match m.saved[copy]? with
  | some c => ⟨c, m.saved⟩
  | none => m

def onCurrent {α : Type} (w : Walk α) (reply : α → Reply) : Program Reply := fun m => do
  let (a, c) ← w m.current
  return (reply a, ⟨c, m.saved⟩)

def perform : Request → Program Reply
  | .match p mode => onCurrent (p.walk mode) .verdict
  | .header p mode => onCurrent (p.headerWalk mode) .passes
  | .seek n => onCurrent (Walk.seek n.toNat) fun _ => .done
  | .peek => onCurrent Walk.peek .next
  | .peekMany n => onCurrent (Walk.peekMany n.toNat) .ahead
  | .slice start n => onCurrent (Walk.slice start.toNat n.toNat) .stretch
  | .save => fun m => return (.done, ⟨m.current, m.saved ++ [m.current]⟩)
  | .restore copy => fun m => return (.done, m.restored copy)

def performAll : List Request → Program (List Reply)
  | [] => return []
  | r :: later => do
    let reply ← perform r
    let replies ← performAll later
    return reply :: replies

end Machine

namespace Session

def machine (s : Session) : Machine :=
  ⟨s.current.word, s.saved.map Cursor.word⟩

def opening (text : List Char) : Option UInt64 → Session
  | none => ⟨.start text, []⟩
  | some n => ⟨.place text n.toNat, []⟩

def restored (s : Session) (copy : Nat) : Session :=
  match s.saved[copy]? with
  | some c => ⟨c, s.saved⟩
  | none => s

def perform (s : Session) : Request → Except StretchError (Reply × Session)
  | .match p mode =>
    let result := s.current.run p mode
    .ok (.verdict (.ofResult result.1), ⟨result.2, s.saved⟩)
  | .header p mode => .ok (.passes (s.current.header p mode), s)
  | .seek n => .ok (.done, ⟨s.current.seek n.toNat, s.saved⟩)
  | .peek => .ok (.next s.current.peek, s)
  | .peekMany n => (s.current.peekMany n.toNat).map fun ahead => (.ahead ahead, s)
  | .slice start n => (s.current.slice start.toNat n.toNat).map fun text => (.stretch text, s)
  | .save => .ok (.done, ⟨s.current, s.saved ++ [s.current]⟩)
  | .restore copy => .ok (.done, s.restored copy)

end Session

def StretchError.fault : StretchError → Fault
  | overflow => .overflow
  | pastEnd => .outside

/-- What a machine must come to where a session comes to this. -/
def Session.outcome : Except StretchError (Reply × Session) → Except Fault (Reply × Machine)
  | .ok (reply, s) => .ok (reply, s.machine)
  | .error e => .error e.fault

namespace Request

/-- No literal that is asked for is longer than so many characters. -/
def LiteralsWithin (bound : Nat) : Request → Prop
  | .match p _ | header p _ => p.LiteralsWithin bound
  | seek _ | peek | peekMany _ | slice _ _ | save | restore _ => True

/-- A stretch is asked for whose end does not fit a word, or that is a slice and ends after the
text. -/
def Overreaches (c : WordCursor) : Request → Prop
  | slice start n =>
    UInt64.size ≤ start.toNat + n.toNat ∨ c.text.length < start.toNat + n.toNat
  | peekMany n => UInt64.size ≤ c.position + n.toNat
  | .match _ _ | header _ _ | seek _ | peek | save | restore _ => False

end Request

namespace Walk

variable {c : Cursor}

theorem peekMany_outcome (c : Cursor) (n : Nat) : peekMany n c.word =
    Part.some (match c.peekMany n with
      | .ok ahead => .ok (ahead, c.word)
      | .error e => .error e.fault) := by
  rw [Cursor.peekMany]
  by_cases full : UInt64.size ≤ c.position + n
  · rw [if_pos full]
    exact peekMany_overflow full
  · rw [if_neg full, peekMany_eq (by omega)]
    by_cases enough : n ≤ c.remaining
    · rw [if_pos enough, if_pos enough]
    · rw [if_neg enough, if_neg enough]

theorem slice_outcome (c : Cursor) (start n : Nat) : slice start n c.word =
    Part.some (match c.slice start n with
      | .ok text => .ok (text, c.word)
      | .error e => .error e.fault) := by
  rw [Cursor.slice]
  by_cases full : UInt64.size ≤ start + n
  · rw [if_pos full]
    exact slice_overflow full
  · rw [if_neg full]
    by_cases inside : start + n ≤ c.text.length
    · rw [if_pos inside]
      exact slice_eq (by omega) inside
    · rw [if_neg inside]
      exact slice_outside (by omega) (by omega)

end Walk

namespace Machine

variable {s : Session} {α : Type}

theorem onCurrent_eq {w : Walk α} {a : α} {c : Cursor}
    (h : w s.current.word = Part.some (.ok (a, c.word))) (reply : α → Reply) :
    onCurrent w reply s.machine = Part.some (.ok (reply a, Session.machine ⟨c, s.saved⟩)) := by
  change (w s.current.word >>= _ : ExceptT Fault Part (Reply × Machine)) = _
  rw [h]
  exact Part.bind_some _ _

theorem onCurrent_fault {w : Walk α} {f : Fault} (h : w s.current.word = Part.some (.error f))
    (reply : α → Reply) : onCurrent w reply s.machine = Part.some (.error f) := by
  change (w s.current.word >>= _ : ExceptT Fault Part (Reply × Machine)) = _
  rw [h]
  exact Part.bind_some _ _

theorem restored_machine (s : Session) (copy : Nat) :
    s.machine.restored copy = (s.restored copy).machine := by
  rw [restored, Session.restored]
  simp only [Session.machine, List.getElem?_map]
  cases s.saved[copy]? <;> rfl

/-- One request: a machine of words comes to just what the cursors say. -/
theorem perform_eq {r : Request} (small : s.current.Small) (short : r.LiteralsWithin (2 ^ 61)) :
    perform r s.machine = Part.some (Session.outcome (s.perform r)) := by
  cases r with
  | «match» p mode => exact onCurrent_eq (p.walk_eq short mode small) _
  | header p mode => exact onCurrent_eq (p.headerWalk_eq mode s.current) _
  | seek n => exact onCurrent_eq (Walk.seek_eq s.current n.toNat) fun _ => .done
  | peek => exact onCurrent_eq (Walk.peek_eq s.current) _
  | peekMany n =>
    have here := Walk.peekMany_outcome s.current n.toNat
    rw [Session.perform]
    cases h : s.current.peekMany n.toNat with
    | ok ahead =>
      rw [h] at here
      exact onCurrent_eq here _
    | error e =>
      rw [h] at here
      exact onCurrent_fault here _
  | slice start n =>
    have here := Walk.slice_outcome s.current start.toNat n.toNat
    rw [Session.perform]
    cases h : s.current.slice start.toNat n.toNat with
    | ok text =>
      rw [h] at here
      exact onCurrent_eq here _
    | error e =>
      rw [h] at here
      exact onCurrent_fault here _
  | save =>
    change perform .save s.machine =
      Part.some (.ok (.done, ⟨s.current.word, (s.saved ++ [s.current]).map Cursor.word⟩))
    rw [List.map_append]
    rfl
  | restore copy =>
    rw [Session.perform, Session.outcome, ← restored_machine]
    rfl

end Machine

theorem Cursor.run_text (c : Cursor) (p : Pattern) (mode : Mode) :
    (c.run p mode).2.text = c.text := by
  cases h : p.run mode c.point with
  | error e => rw [run_error h]
  | ok m => exact (run_ok h).2.1

namespace Session

variable {text : List Char} {s t : Session} {r : Request} {reply : Reply}

/-- All cursors of a session are in one text. -/
def Over (text : List Char) (s : Session) : Prop :=
  ∀ c ∈ s.current :: s.saved, c.text = text

theorem Over.current (stays : s.Over text) : s.current.text = text :=
  stays _ List.mem_cons_self

theorem Over.moved (stays : s.Over text) {c : Cursor} (same : c.text = s.current.text) :
    Over text ⟨c, s.saved⟩ := by
  intro d hd
  rcases List.mem_cons.mp hd with rfl | hd
  · exact same.trans stays.current
  · exact stays d (List.mem_cons_of_mem _ hd)

theorem opening_over (text : List Char) (start : Option UInt64) :
    (opening text start).Over text := by
  intro c hc
  cases start <;> cases List.mem_singleton.mp hc <;> rfl

theorem opening_machine (text : List Char) (start : Option UInt64) :
    (opening text start).machine = .opening text start := by
  cases start <;> rfl

theorem perform_over (stays : s.Over text) (h : s.perform r = .ok (reply, t)) : t.Over text := by
  cases r with
  | «match» p mode =>
    cases h
    exact stays.moved (s.current.run_text p mode)
  | header p mode | peek =>
    cases h
    exact stays
  | seek n =>
    cases h
    exact stays.moved rfl
  | peekMany n =>
    rw [perform] at h
    cases hp : s.current.peekMany n.toNat <;> rw [hp] at h <;> cases h
    exact stays
  | slice start n =>
    rw [perform] at h
    cases hp : s.current.slice start.toNat n.toNat <;> rw [hp] at h <;> cases h
    exact stays
  | save =>
    cases h
    intro c hc
    rw [← List.cons_append] at hc
    rcases List.mem_append.mp hc with hc | hc
    · exact stays c hc
    · cases List.mem_singleton.mp hc
      exact stays.current
  | restore copy =>
    cases h
    rw [restored]
    cases hs : s.saved[copy]? with
    | none => exact stays
    | some c =>
      have kept := stays c (List.mem_cons_of_mem _ (List.mem_of_getElem? hs))
      exact stays.moved (kept.trans stays.current.symm)

theorem perform_error_iff : (∃ e, s.perform r = .error e) ↔ r.Overreaches s.current.word := by
  cases r with
  | peekMany n =>
    rw [perform, Cursor.peekMany, Request.Overreaches]
    by_cases full : UInt64.size ≤ s.current.position + n.toNat
    · rw [if_pos full]
      exact ⟨fun _ => full, fun _ => ⟨_, rfl⟩⟩
    · rw [if_neg full]
      refine ⟨?_, fun h => absurd h full⟩
      by_cases enough : n.toNat ≤ s.current.remaining
      · rw [if_pos enough]
        exact nofun
      · rw [if_neg enough]
        exact nofun
  | slice start n =>
    rw [perform, Cursor.slice, Request.Overreaches]
    by_cases full : UInt64.size ≤ start.toNat + n.toNat
    · rw [if_pos full]
      exact ⟨fun _ => .inl full, fun _ => ⟨_, rfl⟩⟩
    · rw [if_neg full]
      by_cases inside : start.toNat + n.toNat ≤ s.current.text.length
      · rw [if_pos inside]
        refine ⟨nofun, fun h => absurd inside (Nat.not_le.mpr (h.resolve_left full))⟩
      · rw [if_neg inside]
        exact ⟨fun _ => .inr (Nat.not_le.mp inside), fun _ => ⟨_, rfl⟩⟩
  | «match» _ _ | header _ _ | seek _ | peek | save | restore _ => exact ⟨nofun, nofun⟩

end Session

namespace Machine

variable {text : List Char} {s : Session}

theorem fault_iff {r : Request} (small : s.current.Small) (short : r.LiteralsWithin (2 ^ 61)) :
    (∃ f, perform r s.machine = Part.some (.error f)) ↔ r.Overreaches s.machine.current := by
  change _ ↔ r.Overreaches s.current.word
  rw [perform_eq small short, ← Session.perform_error_iff]
  cases s.perform r with
  | ok answer =>
    refine ⟨fun ⟨_, h⟩ => ?_, nofun⟩
    cases Part.some_injective h
  | error e => exact ⟨fun _ => ⟨e, rfl⟩, fun _ => ⟨e.fault, rfl⟩⟩

/-- Requests one after another, up to the first that is at fault. -/
inductive Ran (requests : List Request) (m : Machine) (text : List Char) : Prop
  | through {replies} {t : Session} :
      performAll requests m = Part.some (.ok (replies, t.machine)) → t.Over text →
      Ran requests m text
  | stopped {before r after replies f} {t : Session} : requests = before ++ r :: after →
      performAll before m = Part.some (.ok (replies, t.machine)) → t.Over text →
      r.Overreaches t.machine.current → performAll requests m = Part.some (.error f) →
      Ran requests m text

theorem performAll_nil (m : Machine) : performAll [] m = Part.some (.ok ([], m)) :=
  rfl

theorem performAll_cons {r : Request} {later : List Request} {m n o : Machine} {reply : Reply}
    {replies : List Reply} (first : perform r m = Part.some (.ok (reply, n)))
    (rest : performAll later n = Part.some (.ok (replies, o))) :
    performAll (r :: later) m = Part.some (.ok (reply :: replies, o)) := by
  rw [performAll, Walk.bind_eq first, Walk.bind_eq rest]
  rfl

theorem performAll_ran (small : text.length ≤ 2 ^ 61) {requests : List Request}
    (short : ∀ r ∈ requests, r.LiteralsWithin (2 ^ 61)) {s : Session} (stays : s.Over text) :
    Ran requests s.machine text := by
  induction requests generalizing s with
  | nil => exact .through (performAll_nil _) stays
  | cons r later ih =>
    have small' : s.current.Small := by
      rw [Cursor.Small, stays.current]
      exact small
    have first := short r List.mem_cons_self
    have step := perform_eq small' first
    cases h : s.perform r with
    | error e =>
      have reach := Session.perform_error_iff.mp ⟨e, h⟩
      rw [h] at step
      exact .stopped (List.nil_append _).symm (performAll_nil _) stays reach
        (Walk.bind_fault step _)
    | ok answer =>
      obtain ⟨reply, t⟩ := answer
      rw [h] at step
      cases ih (fun r hr => short r (List.mem_cons_of_mem _ hr)) (Session.perform_over stays h) with
      | through done stays' => exact .through (performAll_cons step done) stays'
      | @stopped before _ _ _ f _ split done stays' reach fault =>
        have all : performAll (r :: later) s.machine = Part.some (.error f) := by
          rw [performAll, Walk.bind_eq step]
          exact Walk.bind_fault fault _
        have split := (congrArg (r :: ·) split).trans List.cons_append.symm
        exact .stopped split (performAll_cons step done) stays' reach all

/-- Whatever is asked for, one request after another: every cursor stays in its text, and just those
requests are at fault that overreach. -/
theorem fault_iff_overreaches {text : List Char} (small : text.length ≤ 2 ^ 61)
    (start : Option UInt64) {requests : List Request}
    (short : ∀ r ∈ requests, r.LiteralsWithin (2 ^ 61)) :
    let run := performAll requests (opening text start)
    (∃ outcome, run = Part.some outcome) ∧
      (∀ f, run = Part.some (.error f) → ∃ before r after replies m,
        requests = before ++ r :: after ∧
          performAll before (opening text start) = Part.some (.ok (replies, m)) ∧
          r.Overreaches m.current) ∧
      ∀ replies m, run = Part.some (.ok (replies, m)) →
        (∀ c ∈ m.current :: m.saved, c.text = text ∧ c.position ≤ text.length) ∧
        (∃ s : Session, s.machine = m ∧ ∀ r : Request, r.LiteralsWithin (2 ^ 61) →
          perform r m = Part.some (Session.outcome (s.perform r)) ∧
            ((∃ f, perform r m = Part.some (.error f)) ↔ r.Overreaches m.current)) ∧
        ∀ n : UInt64, m.current.position + n.toNat < UInt64.size →
          perform (.peekMany n) m = Part.some (.ok (.ahead
            (if n.toNat ≤ text.length - m.current.position then
              some ((text.drop m.current.position).take n.toNat)
            else none), m)) := by
  intro run
  have ran := performAll_ran small short (Session.opening_over text start)
  rw [Session.opening_machine] at ran
  cases ran with
  | stopped split done _ reach fault =>
    refine ⟨⟨_, fault⟩, fun f _ => ⟨_, _, _, _, _, split, done, reach⟩, fun replies m h => ?_⟩
    cases Part.some_injective (fault.symm.trans h)
  | @through replies s done stays =>
    refine ⟨⟨_, done⟩, fun f h => ?_, fun replies m h => ?_⟩
    · cases Part.some_injective (done.symm.trans h)
    · cases Part.some_injective (done.symm.trans h)
      have small' : s.current.Small := by
        rw [Cursor.Small, stays.current]
        exact small
      refine ⟨fun c hc => ?_, ⟨s, rfl, fun r hr => ⟨perform_eq small' hr, fault_iff small' hr⟩⟩, ?_⟩
      · obtain ⟨d, hd, rfl⟩ : ∃ d ∈ s.current :: s.saved, d.word = c := List.mem_map.mp hc
        exact ⟨stays d hd, by rw [← stays d hd]; exact d.position_le⟩
      · intro n room
        have ahead := Walk.peekMany_eq (c := s.current) room
        rw [Cursor.remaining, Cursor.point, Point.rest_within, stays.current] at ahead
        exact onCurrent_eq ahead _

theorem fault_of_long_slice :
    let m : Machine := ⟨⟨"(ab".toList, 2⟩, []⟩
    (∃ f, perform (.slice 1 18446744073709551615) m = Part.some (.error f)) ∧
      perform (.peekMany 2) m = Part.some (.ok (.ahead none, m)) := by
  have asked : ∀ r ∈ [Request.match (.ofChar '(') .consume, .seek 2],
      r.LiteralsWithin (2 ^ 61) := by
    simp [Request.LiteralsWithin, Pattern.LiteralsWithin, Pattern.ofChar, Literal.width]
  have small : "(ab".toList.length ≤ 2 ^ 61 := by decide
  have first := perform_eq (s := ⟨.start "(ab".toList, []⟩) small (asked _ List.mem_cons_self)
  have second := perform_eq (s := ⟨.place "(ab".toList 1, []⟩) (r := .seek 2) small trivial
  have run := performAll_cons first (performAll_cons second (performAll_nil _))
  have safe := fault_iff_overreaches small (some 0) asked
  obtain ⟨-, ⟨s, -, ends⟩, ahead⟩ := safe.2.2 _ ⟨⟨"(ab".toList, 2⟩, []⟩ run
  have long := (ends (.slice 1 18446744073709551615) trivial).2.mpr (.inl (by decide))
  exact ⟨long, ahead 2 (by decide)⟩

end Machine

end TextPattern

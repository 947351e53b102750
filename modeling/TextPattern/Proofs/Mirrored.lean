import TextPattern.Proofs.MatcherRun
import TextPattern.Proofs.SearchByOffset

namespace TextPattern

/-! Places that are moved by `n` characters, and matches and hits with other captures. -/

def Point.shift (n : Nat) (p : Point) : Point :=
  ⟨n + p.offset, p.rest⟩

/-- Each capture replaced by those that `f` makes of it. -/
def Match.recapture (f : Capture → List Capture) (m : Match) : Match :=
  ⟨m.length, m.captures.flatMap f⟩

def Hit.recapture (f : Capture → List Capture) (n : Nat) (h : Hit) : Hit :=
  ⟨n + h.start, n + h.stop, h.captures.flatMap f⟩

namespace Point

@[simp] theorem rest_shift (n : Nat) (p : Point) : (p.shift n).rest = p.rest := rfl

@[simp] theorem offset_shift (n : Nat) (p : Point) : (p.shift n).offset = n + p.offset := rfl

@[simp] theorem atEnd_shift (n : Nat) (p : Point) : (p.shift n).atEnd = p.atEnd := rfl

@[simp] theorem shift_zero (p : Point) : p.shift 0 = p := by
  simp only [shift, Nat.zero_add]

@[simp] theorem advance_shift (n i : Nat) (p : Point) :
    (p.shift n).advance i = (p.advance i).shift n := by
  simp only [shift, advance, Nat.add_assoc]

theorem within_append (before text : List Char) (offset : Nat) :
    within (before ++ text) (before.length + offset) =
      (within text offset).shift before.length := by
  simp only [within, shift, List.drop_length_add_append]

end Point

namespace Match

variable (f : Capture → List Capture)

@[simp] theorem length_recapture (m : Match) : (m.recapture f).length = m.length := rfl

@[simp] theorem recapture_skip (m : Match) : m.skip.recapture f = (m.recapture f).skip := rfl

@[simp] theorem recapture_append (m n : Match) :
    (m ++ n).recapture f = m.recapture f ++ n.recapture f := by
  change (⟨m.length + n.length, (m.captures ++ n.captures).flatMap f⟩ : Match) =
    ⟨m.length + n.length, m.captures.flatMap f ++ n.captures.flatMap f⟩
  rw [List.flatMap_append]

end Match

namespace Hit

variable (f : Capture → List Capture) (n : Nat)

@[simp] theorem isEmpty_recapture (h : Hit) : (h.recapture f n).isEmpty = h.isEmpty := by
  rw [Bool.eq_iff_iff]
  simp [isEmpty, recapture]

theorem ofMatch_recapture (p : Point) (m : Match) :
    ofMatch (p.shift n) (m.recapture f) = (ofMatch p m).recapture f n := by
  simp only [ofMatch, recapture, Point.offset_shift, Match.recapture, Nat.add_assoc]

end Hit

namespace Matcher

variable {δ ε : Type}

/-- At a place that is moved by `n` characters, `b` does what `a` does where it was, with other
captures. -/
def Mirrors (f : Capture → List Capture) (n : Nat) (a b : Matcher ε) : Prop :=
  ∀ p, b.run (p.shift n) = (a.run p).map (·.recapture f)

section

variable {f : Capture → List Capture} {n : Nat}

theorem block_mirrors (width : Nat) (accepts : List Char → Bool) (short refused : ε) :
    Mirrors f n (block width accepts short refused) (block width accepts short refused) := by
  intro p
  simp only [block, Point.rest_shift]
  by_cases enough : (p.rest.take width).length = width
  · by_cases taken : accepts (p.rest.take width) <;> simp only [enough, taken, ↓reduceIte] <;> rfl
  · simp only [enough, ↓reduceIte, Except.map]

theorem char_mirrors (accepts : Char → Bool) (short refused : ε) :
    Mirrors f n (char accepts short refused) (char accepts short refused) := by
  intro p
  simp only [char, Point.rest_shift]
  cases p.rest with
  | nil => rfl
  | cons c rest =>
    simp only
    split <;> rfl

theorem Mirrors.andThen {a a' b b' : Matcher ε} (ha : Mirrors f n a a') (hb : Mirrors f n b b') :
    Mirrors f n (a.andThen b) (a'.andThen b') := by
  intro p
  simp only [Matcher.andThen, ha p]
  cases a.run p with
  | error e => rfl
  | ok m =>
    simp only [Except.map, Match.length_recapture, Point.advance_shift, hb (p.advance m.length)]
    cases b.run (p.advance m.length) with
    | error e => rfl
    | ok k => simp only [Match.recapture_append]

theorem Mirrors.orElse {a a' : Matcher δ} {b b' : Matcher ε} (ha : Mirrors f n a a')
    (hb : Mirrors f n b b') : Mirrors f n (a.orElse b) (a'.orElse b') := by
  intro p
  simp only [Matcher.orElse, ha p]
  cases a.run p with
  | error e => exact hb p
  | ok m => rfl

theorem Mirrors.optional {a a' : Matcher δ} (ha : Mirrors f n a a') :
    Mirrors f n (a.optional : Matcher ε) a'.optional := by
  intro p
  simp only [Matcher.optional, ha p]
  cases a.run p <;> rfl

theorem Mirrors.nonempty {a a' : Matcher δ} (ha : Mirrors f n a a') :
    Mirrors f n a.nonempty a'.nonempty := by
  intro p
  simp only [Matcher.nonempty, ha p]
  cases a.run p with
  | error e => rfl
  | ok m =>
    by_cases zero : m.length = 0 <;>
      simp only [Except.map, Match.length_recapture, zero, ↓reduceIte]

theorem Mirrors.probe {a a' : Matcher δ} (ha : Mirrors f n a a') (test : List Char → Bool) :
    Mirrors f n (a.probe test) (a'.probe test) := by
  intro p
  simp only [Matcher.probe, Point.rest_shift, ha p]
  split
  next => cases a.run p <;> rfl
  next => rfl

theorem Mirrors.anythingBut {a a' : Matcher δ} (ha : Mirrors f n a a') (short found : ε) :
    Mirrors f n (a.anythingBut short found) (a'.anythingBut short found) := by
  intro p
  simp only [Matcher.anythingBut, ha p, Point.rest_shift]
  cases a.run p with
  | error e => cases p.rest <;> rfl
  | ok m => rfl

theorem Mirrors.times {a a' : Matcher ε} (ha : Mirrors f n a a') (count : Nat) :
    Mirrors f n (times count a) (times count a') := by
  induction count with
  | zero => exact fun _ => rfl
  | succ count ih =>
    rw [times_succ, times_succ]
    exact ha.andThen ih

section Loops

variable {a a' closer closer' escape escape' opener opener' : Matcher δ}

theorem Mirrors.spanFrom (ha : Mirrors f n a a') (acc : Match) (p : Point) :
    a'.spanFrom (acc.recapture f) (p.shift n) = (a.spanFrom acc p).recapture f := by
  fun_induction Matcher.spanFrom a acc p with
  | case1 acc p e h =>
    rw [Matcher.spanFrom, ha p, h]
    rfl
  | case2 acc p m h zero =>
    rw [Matcher.spanFrom, ha p, h]
    simp only [Except.map, Match.length_recapture, zero, ↓reduceIte, Match.recapture_append]
  | case3 acc p m h pos ih =>
    rw [Matcher.spanFrom, ha p, h]
    simp only [Except.map, Match.length_recapture, pos, ↓reduceIte, Point.advance_shift]
    rw [← Match.recapture_append]
    exact ih

theorem Mirrors.throughCloser (hc : Mirrors f n closer closer') (unclosed : ε) (acc : Match)
    (offset : Nat) (rest : List Char) :
    closer'.throughCloser unclosed (acc.recapture f) (n + offset) rest =
      (closer.throughCloser unclosed acc offset rest).map (·.recapture f) := by
  induction rest generalizing acc offset with
  | nil =>
    have here : closer'.run ⟨n + offset, []⟩ = _ := hc ⟨offset, []⟩
    simp only [Matcher.throughCloser, here]
    cases closer.run ⟨offset, []⟩ with
    | error e => rfl
    | ok m => simp only [Except.map, Match.recapture_append]
  | cons c rest ih =>
    have here : closer'.run ⟨n + offset, c :: rest⟩ = _ := hc ⟨offset, c :: rest⟩
    simp only [Matcher.throughCloser, here]
    cases closer.run ⟨offset, c :: rest⟩ with
    | error e => exact ih acc.skip (offset + 1)
    | ok m => simp only [Except.map, Match.recapture_append]

theorem Mirrors.throughUnescaped (hc : Mirrors f n closer closer')
    (he : Mirrors f n escape escape') (unclosed : ε) (acc : Match) (p : Point) :
    closer'.throughUnescaped escape' unclosed (acc.recapture f) (p.shift n) =
      (closer.throughUnescaped escape unclosed acc p).map (·.recapture f) := by
  fun_induction Matcher.throughUnescaped closer escape unclosed acc p with
  | case1 acc p m h atEnd =>
    rw [Matcher.throughUnescaped, he p, h]
    simp only [Except.map, Match.length_recapture, Point.advance_shift, Point.atEnd_shift, atEnd,
      ↓reduceIte]
  | case2 acc p m h more ih =>
    rw [Matcher.throughUnescaped, he p, h]
    simp only [Except.map, Match.length_recapture, Point.advance_shift, Point.atEnd_shift, more,
      Bool.false_eq_true, ↓reduceIte]
    rw [← Match.recapture_append, ← Match.recapture_skip]
    exact ih
  | case3 acc p e h m h' =>
    rw [Matcher.throughUnescaped, he p, h, hc p, h']
    simp only [Except.map, Match.recapture_append]
  | case4 acc p e h e' h' atEnd =>
    rw [Matcher.throughUnescaped, he p, h, hc p, h']
    simp only [Except.map, Point.atEnd_shift, atEnd, ↓reduceIte]
  | case5 acc p e h e' h' more ih =>
    rw [Matcher.throughUnescaped, he p, h, hc p, h']
    simp only [Except.map, Point.atEnd_shift, more, Bool.false_eq_true, ↓reduceIte,
      Point.advance_shift]
    exact ih

theorem Mirrors.throughBalance (hc : Mirrors f n closer closer')
    (ho : Mirrors f n opener opener') (unclosed : ε) (outer : Nat) (acc : Match) (p : Point) :
    closer'.throughBalance opener' unclosed outer (acc.recapture f) (p.shift n) =
      (closer.throughBalance opener unclosed outer acc p).map (·.recapture f) := by
  fun_induction Matcher.throughBalance closer opener unclosed outer acc p with
  | case1 acc p m h =>
    rw [Matcher.throughBalance, hc p, h]
    simp only [Except.map, Match.recapture_append]
  | case2 acc p m h outer ih =>
    rw [Matcher.throughBalance, hc p, h]
    simp only [Except.map, Match.length_recapture, Point.advance_shift]
    rw [← Match.recapture_append]
    exact ih
  | case3 outer acc p e h m h' ih =>
    rw [Matcher.throughBalance, hc p, h, ho.nonempty p, h']
    simp only [Except.map, Match.length_recapture, Point.advance_shift]
    rw [← Match.recapture_append]
    exact ih
  | case4 outer acc p e h e' h' atEnd =>
    rw [Matcher.throughBalance, hc p, h, ho.nonempty p, h']
    simp only [Except.map, Point.atEnd_shift, atEnd, ↓reduceIte]
  | case5 outer acc p e h e' h' more ih =>
    rw [Matcher.throughBalance, hc p, h, ho.nonempty p, h']
    simp only [Except.map, Point.atEnd_shift, more, Bool.false_eq_true, ↓reduceIte,
      Point.advance_shift]
    exact ih

end Loops

theorem Mirrors.span {a a' : Matcher δ} (ha : Mirrors f n a a') :
    Mirrors f n (a.span : Matcher ε) a'.span :=
  fun p => congrArg Except.ok (ha.spanFrom .empty p)

theorem Mirrors.range {opener opener' : Matcher ε} {closer closer' : Matcher δ}
    (ho : Mirrors f n opener opener') (hc : Mirrors f n closer closer') (unclosed : ε) :
    Mirrors f n (opener.range closer unclosed) (opener'.range closer' unclosed) := by
  intro p
  simp only [Matcher.range, ho p]
  cases opener.run p with
  | error e => rfl
  | ok m =>
    simp only [Except.map, Match.length_recapture, Point.offset_shift, Point.rest_shift,
      Nat.add_assoc]
    exact hc.throughCloser unclosed m _ _

theorem Mirrors.escapedRange {opener opener' : Matcher ε}
    {closer closer' escape escape' : Matcher δ} (ho : Mirrors f n opener opener')
    (hc : Mirrors f n closer closer') (he : Mirrors f n escape escape') (unclosed : ε) :
    Mirrors f n (opener.escapedRange closer escape unclosed)
      (opener'.escapedRange closer' escape' unclosed) := by
  intro p
  simp only [Matcher.escapedRange, ho p]
  cases opener.run p with
  | error e => rfl
  | ok m =>
    simp only [Except.map, Match.length_recapture, Point.advance_shift]
    exact hc.throughUnescaped he unclosed m _

theorem Mirrors.nestedRange {opener opener' : Matcher ε} {closer closer' again again' : Matcher δ}
    (ho : Mirrors f n opener opener') (hc : Mirrors f n closer closer')
    (hr : Mirrors f n again again') (unclosed : ε) :
    Mirrors f n (opener.nestedRange closer again unclosed)
      (opener'.nestedRange closer' again' unclosed) := by
  intro p
  simp only [Matcher.nestedRange, ho p]
  cases opener.run p with
  | error e => rfl
  | ok m =>
    simp only [Except.map, Match.length_recapture, Point.advance_shift]
    exact hc.throughBalance hr unclosed 0 m _

theorem Mirrors.captured {a a' : Matcher ε} (ha : Mirrors f n a a') {name : String}
    (moved : ∀ offset text, f ⟨name, offset, text⟩ = [⟨name, n + offset, text⟩]) :
    Mirrors f n (a.captured name) (a'.captured name) := by
  intro p
  simp only [Matcher.captured, ha p]
  cases a.run p with
  | error e => rfl
  | ok m =>
    simp only [Except.map, Match.recapture, Match.record, Point.offset_shift, Point.rest_shift,
      List.flatMap_append, List.flatMap_cons, List.flatMap_nil, List.append_nil, moved]

theorem Mirrors.inMode {a a' : Matcher (MatchError Pattern)} (ha : Mirrors f n a a') (p : Pattern)
    (mode : Mode) : Mirrors f n (a.inMode p mode) (a'.inMode p mode) := by
  cases mode with
  | consume => exact ha
  | neglect => exact ha.anythingBut _ _

end

section Searches

variable {f : Capture → List Capture} {a b : Matcher ε} (before text : List Char)

theorem Mirrors.hitAtOffset (h : Mirrors f before.length a b) (offset : Nat) :
    b.hitAtOffset (before ++ text) (before.length + offset) =
      (a.hitAtOffset text offset).map (·.recapture f before.length) := by
  have inside : before.length + offset ≤ (before ++ text).length ↔ offset ≤ text.length := by
    rw [List.length_append]
    omega
  simp only [Matcher.hitAtOffset, inside, Matcher.hitAt, Point.within_append,
    h (.within text offset)]
  by_cases reached : offset ≤ text.length
  · simp only [reached, ↓reduceIte]
    cases a.run (.within text offset) with
    | error e => rfl
    | ok m => simp only [Except.map, Option.map_some, Hit.ofMatch_recapture]
  · simp only [reached, ↓reduceIte, Option.map_none]

theorem Mirrors.firstHit (h : Mirrors f before.length a b) (start : Nat) :
    b.firstHit (before ++ text) (before.length + start) =
      (a.firstHit text start).map (·.recapture f before.length) := by
  have places : (before ++ text).length + 1 - (before.length + start) =
      text.length + 1 - start := by
    rw [List.length_append]
    omega
  rw [Matcher.firstHit, Matcher.firstHit, places, ← List.map_add_range', List.findSome?_map,
    List.map_findSome?]
  exact congrArg (List.findSome? · _) (funext (h.hitAtOffset before text))

theorem Mirrors.hitsFrom (h : Mirrors f before.length a b) (start : Nat) :
    b.hitsFrom (before ++ text) (before.length + start) =
      (a.hitsFrom text start).map (·.recapture f before.length) := by
  fun_induction Matcher.hitsFrom a text start with
  | case1 start absent =>
    have first := h.firstHit before text start
    rw [absent] at first
    exact hitsFrom_of_none first
  | case2 start hit present ih =>
    have first := h.firstHit before text start
    rw [present] at first
    have resume : (if (hit.recapture f before.length).isEmpty
        then (hit.recapture f before.length).stop + 1 else (hit.recapture f before.length).stop) =
        before.length + (if hit.isEmpty then hit.stop + 1 else hit.stop) := by
      rw [Hit.isEmpty_recapture]
      split <;> rfl
    rw [hitsFrom_of_some first, resume, List.map_cons]
    exact congrArg _ ih

end Searches

end Matcher

namespace Pattern

/-- The names under which a pattern records. -/
def captureNames : Pattern → List String
  | literal _ | test _ => []
  | seq left right | alt left right => left.captureNames ++ right.captureNames
  | optional inner | span inner | repeated inner _ | negation inner => inner.captureNames
  | range opener closer | nestedRange opener closer => opener.captureNames ++ closer.captureNames
  | escapedRange opener closer escape =>
    opener.captureNames ++ (closer.captureNames ++ escape.captureNames)
  | capture inner name => name :: inner.captureNames

/-- A pattern mirrors itself if its own captures are kept and moved along with the place. -/
theorem matcher_mirrors {f : Capture → List Capture} {n : Nat} (p : Pattern) (mode : Mode)
    (moved : ∀ name ∈ p.captureNames, ∀ offset text,
      f ⟨name, offset, text⟩ = [⟨name, n + offset, text⟩]) :
    Matcher.Mirrors f n (p.matcher mode) (p.matcher mode) := by
  induction p generalizing mode with
  | literal l => cases mode <;> exact Matcher.block_mirrors _ _ _ _
  | test t => cases mode <;> exact Matcher.char_mirrors _ _ _
  | seq left right ihl ihr =>
    obtain ⟨movedl, movedr⟩ := List.forall_mem_append.mp moved
    exact ((ihl .consume movedl).andThen (ihr .consume movedr)).inMode _ mode
  | alt left right ihl ihr =>
    obtain ⟨movedl, movedr⟩ := List.forall_mem_append.mp moved
    have first := (ihl .consume movedl).probe (left.header .consume)
    exact (first.orElse (ihr .consume movedr)).inMode _ mode
  | optional inner ih => exact (ih .consume moved).optional.inMode _ mode
  | span inner ih => exact (ih .consume moved).span.inMode _ mode
  | repeated inner count ih => exact ((ih .consume moved).times count.toNat).inMode _ mode
  | negation inner ih => exact ih mode.flip moved
  | range opener closer iho ihc =>
    obtain ⟨movedo, movedc⟩ := List.forall_mem_append.mp moved
    have closing := (ihc .consume movedc).probe (closer.header .consume)
    exact ((iho .consume movedo).range closing _).inMode _ mode
  | escapedRange opener closer escape iho ihc ihe =>
    obtain ⟨movedo, moved⟩ := List.forall_mem_append.mp moved
    obtain ⟨movedc, movede⟩ := List.forall_mem_append.mp moved
    have closing := (ihc .consume movedc).probe (closer.header .consume)
    have escaping := (ihe .consume movede).probe (escape.header .consume)
    exact ((iho .consume movedo).escapedRange closing escaping _).inMode _ mode
  | nestedRange opener closer iho ihc =>
    obtain ⟨movedo, movedc⟩ := List.forall_mem_append.mp moved
    have closing := (ihc .consume movedc).probe (closer.header .consume)
    have opening := (iho .consume movedo).probe (opener.header .consume)
    exact ((iho .consume movedo).nestedRange closing opening _).inMode _ mode
  | capture inner name ih =>
    obtain ⟨here, inside⟩ := List.forall_mem_cons.mp moved
    exact (ih mode inside).captured here

end Pattern

end TextPattern

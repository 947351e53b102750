import TextPattern.Proofs.PatternsRead

namespace TextPattern

namespace Notation

variable {ws vs xs ys zs : List Char} {c : Char} {p : Pattern}

/-- The nearest of the waiting operators is over before `rest`. -/
def Ended (os : List Operator) (rest : List Char) : Prop :=
  ∀ o ∈ os.head?, o.EndsBefore rest

theorem Ended.append {os : List Operator} (h : Ended os xs) (ys : List Char) : Ended os (xs ++ ys) :=
  fun o ho => (h o ho).append ys

/-- How operators that wait for their operand were written, the nearest one last. -/
inductive Waiting : List Operator → List Char → Prop
  | nil : Waiting [] []
  | cons {os o xs ws ys} : Waiting os xs → Blank ws → Operator.Spelled o ys → Ended os (ws ++ ys) →
      Waiting (o :: os) (xs ++ ws ++ ys)

theorem Waiting.unary {os : List Operator} (h : Waiting os xs) (ended : Ended os ys)
    (hp : Derives .unary ys p) :
    Derives .unary (xs ++ ys) (os.foldl (fun q o => o.apply q) p) := by
  induction h generalizing ys p with
  | nil => exact hp
  | @cons os o xs ws zs _ hw ho between ih =>
    have applied := Derives.operator hw ho (ended o rfl) hp
    have all := ih (between.append ys) applied
    rwa [List.append_assoc xs, List.append_assoc xs]

def ChoiceSpelled : Option Pattern → List Char → Prop
  | none, xs => xs = []
  | some p, xs => ∃ body ws, Derives .alternation body p ∧ Blank ws ∧ xs = body ++ ws ++ ['|']

def SequenceSpelled : Option Pattern → List Char → Prop
  | none, xs => xs = []
  | some p, xs => Derives .sequence xs p

/-- How a part of an alternation was written. -/
structure Alternation.Spelled (a : Alternation) (text : List Char) : Prop where
  parts : ∃ xs ys zs, text = xs ++ ys ++ zs ∧ ChoiceSpelled a.choice xs ∧
    SequenceSpelled a.sequence ys ∧ Waiting a.operators zs

namespace Alternation.Spelled

variable {a : Alternation}

theorem start : Alternation.start.Spelled [] :=
  ⟨[], [], [], rfl, rfl, rfl, .nil⟩

theorem after (hp : Derives .alternation xs p) (hw : Blank ws) :
    (Alternation.after p).Spelled (xs ++ ws ++ ['|']) :=
  ⟨xs ++ ws ++ ['|'], [], [], by simp, ⟨xs, ws, hp, hw, rfl⟩, rfl, .nil⟩

theorem operator (ha : a.Spelled xs) (hw : Blank ws) {o : Operator} (ho : o.Spelled ys)
    (ended : Ended a.operators (ws ++ ys)) : (a.operator o).Spelled (xs ++ ws ++ ys) := by
  obtain ⟨as, bs, cs, rfl, choice, sequence, waiting⟩ := ha
  exact ⟨as, bs, cs ++ ws ++ ys, by simp, choice, sequence, .cons waiting hw ho ended⟩

theorem operand (ha : a.Spelled xs) (hw : Blank ws) (hp : Derives .primary ys p)
    (ended : Ended a.operators (ws ++ ys)) : (a.operand p).Spelled (xs ++ ws ++ ys) := by
  obtain ⟨as, bs, cs, rfl, choice, sequence, waiting⟩ := ha
  have term := waiting.unary ended (.operand hw hp)
  obtain ⟨first, others, operators⟩ := a
  refine ⟨as, bs ++ (cs ++ (ws ++ ys)), [], by simp, choice, ?_, .nil⟩
  cases others with
  | none =>
    cases sequence
    exact .term term
  | some s => exact .terms sequence term

theorem complete (ha : a.Spelled xs) (h : a.complete? = some p) : Derives .alternation xs p := by
  obtain ⟨as, bs, cs, rfl, choice, sequence, waiting⟩ := ha
  obtain ⟨first, others, operators⟩ := a
  cases waiting with
  | cons _ _ _ _ => cases h
  | nil =>
    cases others with
    | none => cases h
    | some s =>
      rw [List.append_nil]
      cases first with
      | none =>
        cases choice
        cases h
        exact .single sequence
      | some c =>
        obtain ⟨body, ws, hc, hw, rfl⟩ := choice
        cases h
        have all := Derives.choice 0 hc hw sequence
        rwa [List.append_assoc _ ['|'], List.singleton_append]

end Alternation.Spelled

inductive Bracket.Spelled : Bracket → List Char → Prop
  | group : Spelled group ['(']
  | rangeOpener : Spelled rangeOpener ['[']
  | rangeCloser {xs ws : List Char} {p : Pattern} : Derives .alternation xs p → Blank ws →
      Spelled (rangeCloser p) ('[' :: xs ++ ws ++ [','])
  | rangeEscape {xs ws ys vs : List Char} {p q : Pattern} : Derives .alternation xs p → Blank ws →
      Derives .alternation ys q → Blank vs →
      Spelled (rangeEscape p q) ('[' :: xs ++ ws ++ ',' :: ys ++ vs ++ [','])
  | nestedOpener : Spelled nestedOpener ['\x7b']
  | nestedCloser {xs ws : List Char} {p : Pattern} : Derives .alternation xs p → Blank ws →
      Spelled (nestedCloser p) ('\x7b' :: xs ++ ws ++ [','])

def Bracket.Turn.Spelled : Bracket.Turn → List Char → Prop
  | next b, xs => b.Spelled xs
  | closed p, xs => Derives .primary xs p

theorem Bracket.Spelled.turn {b : Bracket} {t : Bracket.Turn} (hb : b.Spelled xs)
    (hp : Derives .alternation ys p) (hw : Blank ws) (h : b.turn? p c = some t) :
    t.Spelled (xs ++ ys ++ ws ++ [c]) := by
  unfold Bracket.turn? at h
  split at h
  · cases h
    cases hb
    exact .group hp hw
  · cases h
    cases hb
    exact .rangeCloser hp hw
  · cases h
    cases hb with
    | rangeCloser hx hv => simpa [Bracket.Turn.Spelled] using Derives.range hx hv hp hw
  · cases h
    cases hb with
    | rangeCloser hx hv => simpa [Bracket.Turn.Spelled] using Spelled.rangeEscape hx hv hp hw
  · cases h
    cases hb with
    | rangeEscape hx hv hy hu =>
      simpa [Bracket.Turn.Spelled] using Derives.escapedRange hx hv hy hu hp hw
  · cases h
    cases hb
    exact .nestedCloser hp hw
  · cases h
    cases hb with
    | nestedCloser hx hv => simpa [Bracket.Turn.Spelled] using Derives.nestedRange hx hv hp hw
  · cases h

/-- How the open brackets were written, each after the alternation around it. -/
inductive FramesSpelled : List (Bracket × Alternation) → List Char → Prop
  | nil : FramesSpelled [] []
  | cons {frames outer b xs ys ws zs} : FramesSpelled frames xs → Alternation.Spelled outer ys →
      Blank ws → Ended outer.operators (ws ++ zs) → Bracket.Spelled b zs →
      FramesSpelled ((b, outer) :: frames) (xs ++ ys ++ ws ++ zs)

def Lexeme.Spelled : Lexeme → List Char → Prop
  | blank, xs => xs = []
  | text k read, xs => ∃ raw, Quoted k.quote raw read.reverse ∧ xs = k.quote :: raw
  | escape k read, xs => ∃ raw, Quoted k.quote raw read.reverse ∧ xs = k.quote :: raw ++ ['\\']
  | classes read, xs => xs = '<' :: read.reverse
  | count value, xs => xs ≠ [] ∧ (∀ c ∈ xs, c.isDigit = true) ∧
      Nat.ofDigitChars 10 xs 0 = value ∧ value < UInt64.size
  | name read, xs => isName (String.ofList read.reverse) = true ∧ xs = read.reverse
  | label written, xs => ∃ ws, isName written = true ∧ Blank ws ∧ xs = written.toList ++ ws

theorem Lexeme.Spelled.longer {read : List Char} (h : isName (String.ofList read.reverse) = true)
    (hc : isNameChar c = true) : isName (String.ofList (c :: read).reverse) = true := by
  simp only [isName, String.toList_ofList, List.reverse_cons] at h ⊢
  cases he : read.reverse with
  | nil => simp [he] at h
  | cons first rest =>
    rw [he] at h
    simpa [hc] using h

/-- How `text` was written, of which `zs` is the token that is being read. -/
structure Reading.Before (r : Reading) (zs text : List Char) : Prop where
  parts : ∃ xs ys ws, text = xs ++ ys ++ ws ++ zs ∧ FramesSpelled r.frames xs ∧
    r.current.Spelled ys ∧ Blank ws ∧ Ended r.current.operators (ws ++ zs)

structure Reading.Spelled (r : Reading) (text : List Char) : Prop where
  token : ∃ zs, r.Before zs text ∧ r.lexeme.Spelled zs

/-- Between two tokens nothing has to be over where no operator waits. -/
theorem Reading.Spelled.between {frames : List (Bracket × Alternation)} {a : Alternation}
    {text : List Char} (whole : text = xs ++ ys) (hx : FramesSpelled frames xs) (ha : a.Spelled ys)
    (ho : a.operators = []) : Reading.Spelled ⟨.blank, a, frames⟩ text := by
  refine ⟨[], ⟨xs, ys, [], by simpa using whole, hx, ha, .nil, ?_⟩, rfl⟩
  intro o first
  rw [ho] at first
  cases first

namespace Reading.Before

variable {r s : Reading} {text : List Char}

theorem longer (h : r.Before zs text) (vs : List Char) : r.Before (zs ++ vs) (text ++ vs) := by
  obtain ⟨xs, ys, ws, rfl, frames, current, hw, ended⟩ := h
  refine ⟨xs, ys, ws, by simp, frames, current, hw, ?_⟩
  rw [← List.append_assoc]
  exact ended.append vs

theorem withLexeme (h : r.Before zs text) {l : Lexeme} (hl : l.Spelled zs) :
    Reading.Spelled { r with lexeme := l } text :=
  ⟨zs, ⟨h.parts⟩, hl⟩

theorem space (h : r.Before [c] text) (hc : Unicode.isWhiteSpace c = true) : r.Before [] text := by
  obtain ⟨xs, ys, ws, rfl, frames, current, hw, ended⟩ := h
  exact ⟨xs, ys, ws ++ [c], by simp, frames, current, hw.append (.single hc), by simpa using ended⟩

theorem operator (h : r.Before zs text) {o : Operator} (ho : o.Spelled zs) (vs : List Char)
    (last : o.EndsBefore vs) : (r.operator o).Before vs (text ++ vs) := by
  obtain ⟨xs, ys, ws, rfl, frames, current, hw, ended⟩ := h
  refine ⟨xs, ys ++ ws ++ zs, [], by simp, frames, current.operator hw ho ended, .nil, ?_⟩
  intro o' ho'
  cases Option.some.inj ho'
  exact last

theorem sign (h : r.Before zs text) {o : Operator} (ho : o.Spelled zs)
    (last : o.EndsBefore []) : (r.operator o).Spelled text := by
  have next := h.operator ho [] last
  rw [List.append_nil] at next
  exact ⟨[], next, rfl⟩

theorem operand (h : r.Before zs text) (hp : Derives .primary zs p) :
    (r.operand p).Spelled text := by
  obtain ⟨xs, ys, ws, rfl, frames, current, hw, ended⟩ := h
  exact .between (by simp) frames (current.operand hw hp ended) rfl

theorem enter (h : r.Before zs text) {b : Bracket} (hb : b.Spelled zs) :
    (r.enter b).Spelled text := by
  obtain ⟨xs, ys, ws, rfl, frames, current, hw, ended⟩ := h
  exact .between (by simp) (.cons frames current hw ended hb) .start rfl

theorem bar (h : r.Before ['|'] text) (hs : r.bar = .ok s) : s.Spelled text := by
  obtain ⟨xs, ys, ws, rfl, frames, current, hw, ended⟩ := h
  unfold Reading.bar at hs
  cases complete : r.current.complete? with
  | none =>
    rw [complete] at hs
    cases hs
  | some p =>
    rw [complete] at hs
    cases hs
    exact .between (by simp) frames (.after (current.complete complete) hw) rfl

theorem turn (h : r.Before [c] text) (hs : r.turn c = .ok s) : s.Spelled text := by
  obtain ⟨lexeme, current, frames⟩ := r
  obtain ⟨xs, ys, ws, rfl, around, part, hw, ended⟩ := h
  unfold Reading.turn at hs
  cases complete : current.complete? with
  | none =>
    simp only [complete] at hs
    cases hs
  | some p =>
    have hp := part.complete complete
    simp only [complete] at hs
    cases around with
    | nil => cases hs
    | @cons frames outer b xs' ys' ws' zs' around current hw' ended' bracket =>
      cases turned : b.turn? p c with
      | none =>
        simp only [turned] at hs
        cases hs
      | some t =>
        have spelled := bracket.turn hp hw turned
        have ended := ended'.append (ys ++ ws ++ [c])
        rw [List.append_assoc] at ended
        simp only [turned] at hs
        cases t with
        | next b =>
          cases hs
          have inner := FramesSpelled.cons around current hw' (by simpa using ended) spelled
          exact .between (by simp) inner .start rfl
        | closed result =>
          cases hs
          have whole := current.operand hw' spelled (by simpa using ended)
          exact .between (by simp) around whole rfl

theorem beginToken (h : r.Before [c] text) (hs : r.beginToken c = .ok s) : s.Spelled text := by
  delta Reading.beginToken at hs
  split at hs
  case isTrue white =>
    cases hs
    exact (h.space white).withLexeme rfl
  split at hs
  case isTrue digit =>
    cases hs
    have value : c.toNat - '0'.toNat < UInt64.size := by
      have high : c.toNat ≤ 57 := (Char.isDigit_iff_toNat.mp digit).2
      have size : UInt64.size = 18446744073709551616 := rfl
      omega
    refine h.withLexeme ⟨by simp, by simpa using digit, ?_, value⟩
    simp [Nat.ofDigitChars_cons]
  split at hs
  case isTrue first =>
    cases hs
    exact h.withLexeme ⟨by simpa [isName] using first, rfl⟩
  -- What is left is the table of signs: operators, opening quotes, opening brackets and the rest.
  split at hs
  · cases hs
    exact h.sign .negation trivial
  · cases hs
    exact h.sign .optional trivial
  · cases hs
    exact h.sign .span trivial
  · cases hs
    exact h.withLexeme ⟨[], .nil, rfl⟩
  · cases hs
    exact h.withLexeme ⟨[], .nil, rfl⟩
  · cases hs
    exact h.withLexeme rfl
  · cases hs
    exact h.enter .group
  · cases hs
    exact h.enter .rangeOpener
  · cases hs
    exact h.enter .nestedOpener
  · exact h.bar hs
  iterate 4
    · exact h.turn hs
  · cases hs

theorem awaitColon {name : String} (hn : isName name = true) (hv : Blank vs)
    (h : r.Before (name.toList ++ vs) text) (hs : r.awaitColon name c = .ok s) :
    s.Spelled (text ++ [c]) := by
  have longer := h.longer [c]
  unfold Reading.awaitColon at hs
  split at hs
  case isTrue colon =>
    cases hs
    cases beq_iff_eq.mp colon
    exact longer.sign (.capture hn hv) trivial
  split at hs
  case isTrue white =>
    cases hs
    exact longer.withLexeme ⟨vs ++ [c], hn, hv.append (.single white), by simp⟩
  case isFalse => cases hs

end Reading.Before

namespace Reading.Spelled

variable {r s : Reading} {text : List Char}

theorem start : Reading.start.Spelled [] :=
  .between rfl .nil .start rfl

theorem feed (hr : r.Spelled text) (hs : r.feed c = .ok s) : s.Spelled (text ++ [c]) := by
  obtain ⟨lexeme, current, frames⟩ := r
  obtain ⟨zs, before, token⟩ := hr
  have longer := before.longer [c]
  cases lexeme with
  | blank =>
    cases token
    exact longer.beginToken hs
  | text k read =>
    obtain ⟨raw, quoted, rfl⟩ := token
    simp only [Reading.feed] at hs
    split at hs
    case isTrue quote =>
      cases hs
      cases beq_iff_eq.mp quote
      exact longer.operand (.literal quoted)
    case isFalse other =>
      split at hs
      case isTrue slash =>
        cases hs
        cases beq_iff_eq.mp slash
        exact longer.withLexeme ⟨raw, quoted, rfl⟩
      case isFalse plain =>
        cases hs
        have more := quoted.append (.plain (by simpa using other) (by simpa using plain) .nil)
        exact longer.withLexeme ⟨raw ++ [c], by simpa using more, rfl⟩
  | escape k read =>
    obtain ⟨raw, quoted, rfl⟩ := token
    cases hs
    have more := quoted.append (.escaped (c := c) .nil)
    exact longer.withLexeme ⟨raw ++ ['\\', c], by simpa using more, by simp⟩
  | classes read =>
    cases token
    simp only [Reading.feed] at hs
    split at hs
    case isTrue closer =>
      cases beq_iff_eq.mp closer
      cases tested : classesTest read.reverse with
      | error e =>
        rw [tested] at hs
        cases hs
      | ok t =>
        rw [tested] at hs
        cases hs
        exact longer.operand (.classes (derives_of_classesTest tested))
    case isFalse =>
      cases hs
      refine longer.withLexeme ?_
      simp [Lexeme.Spelled]
  | count value =>
    obtain ⟨ne, all, rfl, bound⟩ := token
    simp only [Reading.feed] at hs
    split at hs
    case isTrue digit =>
      split at hs
      case isTrue small =>
        cases hs
        refine longer.withLexeme ⟨by simp, ?_, ?_, small⟩
        · intro x hx
          rcases List.mem_append.mp hx with hx | hx
          · exact all x hx
          · cases List.mem_singleton.mp hx
            exact digit
        · simp [Nat.ofDigitChars_append, Nat.ofDigitChars_cons]
      case isFalse => cases hs
    case isFalse other =>
      have count : (Nat.ofDigitChars 10 zs 0).toUInt64.toNat = Nat.ofDigitChars 10 zs 0 :=
        UInt64.toNat_ofNat_of_lt' bound
      have next := before.operator (.repeated ne all count.symm) [c]
        ⟨c, rfl, by simpa using other⟩
      exact next.beginToken hs
  | name read =>
    obtain ⟨hn, rfl⟩ := token
    simp only [Reading.feed] at hs
    split at hs
    case isTrue more =>
      cases hs
      exact longer.withLexeme ⟨Lexeme.Spelled.longer hn more, by simp⟩
    case isFalse =>
      have named : Reading.Before ⟨.name read, current, frames⟩
          ((String.ofList read.reverse).toList ++ []) text := by
        simpa using before
      exact named.awaitColon hn (.nil) hs
  | label name =>
    obtain ⟨ws, hn, hw, rfl⟩ := token
    exact before.awaitColon hn hw hs

theorem reads (hr : r.Spelled text) (h : Reads xs r s) : s.Spelled (text ++ xs) := by
  induction xs generalizing r text with
  | nil =>
    cases h
    rwa [List.append_nil]
  | cons c rest ih =>
    rw [Reads, List.foldlM_cons] at h
    obtain ⟨next, step, others⟩ := bind_ok h
    have all := ih (hr.feed step) others
    rwa [List.append_assoc, List.singleton_append] at all

theorem finish (hr : r.Spelled text) (h : r.finish = .ok p) : Derives .whole text p := by
  obtain ⟨lexeme, current, frames⟩ := r
  obtain ⟨zs, ⟨xs, ys, ws, rfl, around, part, hw, ended⟩, token⟩ := hr
  cases lexeme with
  | blank =>
    cases token
    unfold Reading.finish at h
    cases complete : current.complete? with
    | none =>
      simp only [complete] at h
      cases h
    | some q =>
      simp only [complete] at h
      cases around with
      | nil =>
        cases h
        have all := Derives.whole (part.complete complete) hw
        simpa using all
      | cons _ _ _ _ _ => cases h
  | _ => cases h

end Reading.Spelled

theorem Derives.of_parse {text : List Char} (h : Pattern.parse text = .ok p) :
    Derives .whole text p := by
  obtain ⟨r, read, finished⟩ := bind_ok h
  have spelled := Reading.Spelled.start.reads read
  exact spelled.finish finished

end Notation

end TextPattern

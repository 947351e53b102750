import TextPattern.CommandLine.Run

namespace TextPattern

namespace Text

/-- A number is read back from its digits. -/
theorem word?_toDigits {n : Nat} (fits : n < UInt64.size) : word? (Nat.toDigits 10 n) = some n := by
  have digits : ∀ c ∈ Nat.toDigits 10 n, c.isDigit = true := fun c hc =>
    Nat.isDigit_of_mem_toDigits (by decide) (by decide) hc
  have all : (Nat.toDigits 10 n).all Char.isDigit = true := List.all_eq_true.mpr digits
  have some_digit : (!(Nat.toDigits 10 n).isEmpty) = true := by
    simp [Nat.toDigits_ne_nil]
  unfold word?
  split
  next rest signed =>
    have sign := digits '+' (by rw [signed]; exact List.mem_cons_self)
    cases sign
  next =>
    simp only [Nat.ofDigitChars_ten_toDigits, all, some_digit, fits, decide_true, Bool.and_self,
      ↓reduceIte]

end Text

namespace CommandLine

def Action.name : Action → String
  | consume => "consume"
  | neglect => "neglect"
  | find => "find"
  | backward => "backward"
  | all => "all"

def startArguments : Option UInt64 → List String
  | none => []
  | some n => ["--start", n.toNat.repr]

/-- The arguments of a run without colour over the standard input. -/
def invocation (action : Action) (start : Option UInt64) (pattern : String) : List String :=
  ["--mode", action.name] ++ startArguments start ++ ["--color", "never", "--", pattern]

/-- What such a run is to do. -/
def searching (p : Pattern) (action : Action) (start : Option UInt64) : Job where
  pattern := p
  action := action
  start := start.map UInt64.toNat
  colored := false
  printed := []
  file := none

namespace ArgumentReading

variable {a : Arguments}

theorem feed_action (action : Action) (given : a.action = none) :
    feed ⟨a, some .action, false⟩ action.name =
      .ok ⟨{ a with action := some action }, none, false⟩ := by
  cases a
  cases given
  cases action <;> rfl

theorem feed_start (n : UInt64) (given : a.start = none) :
    feed ⟨a, some .start, false⟩ n.toNat.repr =
      .ok ⟨{ a with start := some n.toNat }, none, false⟩ := by
  have read : Text.word? n.toNat.repr.toList = some n.toNat := by
    rw [Nat.toList_repr]
    exact Text.word?_toDigits n.toNat_lt_size
  have unsigned (rest : List Char) : n.toNat.repr.toList ≠ '-' :: rest := by
    intro signed
    rw [Nat.toList_repr] at signed
    have sign : '-' ∈ Nat.toDigits 10 n.toNat := by
      rw [signed]
      exact List.mem_cons_self
    cases Nat.isDigit_of_mem_toDigits (by decide) (by decide) sign
  have set : a.set n.toNat.repr .start = .ok { a with start := some n.toNat } := by
    rw [Arguments.set, read, given]
    rfl
  simp only [feed, Bool.false_eq_true, ↓reduceIte]
  split
  next signed _ => exact absurd signed (unsigned _)
  next signed _ => exact absurd signed (unsigned _)
  next signed _ => exact absurd signed (unsigned _)
  next signed _ => exact absurd signed (unsigned _)
  next =>
    rw [set]
    rfl

theorem feed_color (given : a.color = none) :
    feed ⟨a, some .color, false⟩ "never" = .ok ⟨{ a with color := some .never }, none, false⟩ := by
  cases a
  cases given
  rfl

theorem foldlM_feed {r s : ArgumentReading} {argument : String} (h : r.feed argument = .ok s)
    (later : List String) : (argument :: later).foldlM feed r = later.foldlM feed s := by
  rw [List.foldlM_cons, h]
  rfl

/-- Behind two hyphens even a text that looks like an option is the pattern. -/
theorem foldlM_feed_pattern (pattern : String) (later : List String) (given : a.pattern = none) :
    ("--" :: pattern :: later).foldlM feed ⟨a, none, false⟩ =
      later.foldlM feed ⟨{ a with pattern := some pattern }, none, true⟩ := by
  cases a
  cases given
  rfl

theorem feed_file {path : String} (given : a.pattern.isSome = true) (free : a.file = none)
    (named : path ≠ "") :
    feed ⟨a, none, true⟩ path = .ok ⟨{ a with file := some path }, none, true⟩ := by
  obtain ⟨pattern, given⟩ := Option.isSome_iff_exists.mp given
  have named : path.isEmpty = false := by simpa using named
  have set : a.positional path = .ok { a with file := some path } := by
    simp only [Arguments.positional, given, free, named, Bool.false_eq_true, ↓reduceIte]
  simp only [feed, ↓reduceIte, set]
  rfl

end ArgumentReading

/-- What such a run was given. -/
def given (action : Action) (start : Option UInt64) (pattern : String) : Arguments :=
  { Arguments.none with
    pattern := some pattern
    action := some action
    start := start.map UInt64.toNat
    color := some .never }

theorem foldlM_invocation (action : Action) (start : Option UInt64) (pattern : String)
    (later : List String) :
    (invocation action start pattern ++ later).foldlM ArgumentReading.feed .start =
      later.foldlM ArgumentReading.feed ⟨given action start pattern, none, true⟩ := by
  have option (a : Arguments) : ArgumentReading.feed ⟨a, none, false⟩ "--start" =
      .ok ⟨a, some .start, false⟩ := rfl
  have mode : ArgumentReading.start.feed "--mode" = .ok ⟨.none, some .action, false⟩ := rfl
  have color (a : Arguments) : ArgumentReading.feed ⟨a, none, false⟩ "--color" =
      .ok ⟨a, some .color, false⟩ := rfl
  rw [invocation]
  cases start with
  | none =>
    simp only [startArguments, List.append_nil, List.cons_append, List.nil_append]
    rw [ArgumentReading.foldlM_feed mode,
      ArgumentReading.foldlM_feed (ArgumentReading.feed_action action rfl),
      ArgumentReading.foldlM_feed (color _),
      ArgumentReading.foldlM_feed (ArgumentReading.feed_color rfl),
      ArgumentReading.foldlM_feed_pattern pattern later rfl]
    rfl
  | some n =>
    simp only [startArguments, List.cons_append, List.nil_append]
    rw [ArgumentReading.foldlM_feed mode,
      ArgumentReading.foldlM_feed (ArgumentReading.feed_action action rfl),
      ArgumentReading.foldlM_feed (option _),
      ArgumentReading.foldlM_feed (ArgumentReading.feed_start n rfl),
      ArgumentReading.foldlM_feed (color _),
      ArgumentReading.foldlM_feed (ArgumentReading.feed_color rfl),
      ArgumentReading.foldlM_feed_pattern pattern later rfl]
    rfl

theorem parse_invocation (action : Action) (start : Option UInt64) (pattern : String) :
    Arguments.parse (invocation action start pattern) = .ok (given action start pattern) := by
  have read := foldlM_invocation action start pattern []
  rw [List.append_nil] at read
  rw [Arguments.parse, read]
  rfl

theorem parse_invocation_file (action : Action) (start : Option UInt64) (pattern : String)
    {path : String} (named : path ≠ "") :
    Arguments.parse (invocation action start pattern ++ [path]) =
      .ok { given action start pattern with file := some path } := by
  rw [Arguments.parse, foldlM_invocation,
    ArgumentReading.foldlM_feed (ArgumentReading.feed_file rfl rfl named)]
  rfl

section

variable {p : Pattern} {pattern : String} (parses : Pattern.parse pattern.toList = .ok p)
include parses

theorem plan_given (terminal : Bool) (action : Action) (start : Option UInt64)
    {arguments : List String} {file : Option String}
    (read : Arguments.parse arguments = .ok { given action start pattern with file }) :
    plan terminal arguments = .job { searching p action start with file } := by
  have quiet : checkLogFilter "".toList = .ok () := rfl
  simp only [plan, read, given, Arguments.none, Option.getD_none, Option.getD_some, quiet,
    Bool.false_eq_true, ↓reduceIte, parses]
  rfl

theorem plan_invocation (terminal : Bool) (action : Action) (start : Option UInt64) :
    plan terminal (invocation action start pattern) = .job (searching p action start) :=
  plan_given parses terminal action start (parse_invocation action start pattern)

/-- A run without a file is over the standard input. -/
theorem run_invocation (action : Action) (start : Option UInt64) (s : Surroundings) :
    run (invocation action start pattern) s =
      .ok ((searching p action start).complete (decode s.standardInput)) := by
  rw [run, plan_invocation parses]
  rfl

theorem run_invocation_file (action : Action) (start : Option UInt64) (s : Surroundings)
    {path : String} (named : path ≠ "") :
    run (invocation action start pattern ++ [path]) s = .ok
      ({ searching p action start with file := some path }.complete (s.directory.read path)) := by
  have read := parse_invocation_file action start pattern named
  rw [run, plan_given parses s.toTerminal action start read]
  rfl

end

theorem decode_toUTF8 (text : String) : decode text.toUTF8 = .ok text := by
  have valid : String.fromUTF8? text.toUTF8 = some text := dif_pos text.isValidUTF8
  rw [decode, valid]

end CommandLine

end TextPattern

namespace TextPattern

/-- A place in a text: how many characters lie behind it, and those that lie ahead. -/
structure Point where
  offset : Nat
  rest : List Char
deriving DecidableEq

namespace Point

/-- The place `n` characters further on. -/
def advance (p : Point) (n : Nat) : Point :=
  ⟨p.offset + n, p.rest.drop n⟩

/-- The place `n` characters into a text. -/
def within (text : List Char) (n : Nat) : Point :=
  ⟨n, text.drop n⟩

def atEnd (p : Point) : Bool :=
  p.rest.isEmpty

theorem atEnd_iff {p : Point} : p.atEnd ↔ p.rest.length = 0 := by
  simp [atEnd]

@[simp] theorem offset_advance (p : Point) (n : Nat) : (p.advance n).offset = p.offset + n := rfl

@[simp] theorem rest_advance (p : Point) (n : Nat) : (p.advance n).rest = p.rest.drop n := rfl

@[simp] theorem offset_within (text : List Char) (n : Nat) : (within text n).offset = n := rfl

@[simp] theorem rest_within (text : List Char) (n : Nat) :
    (within text n).rest = text.drop n := rfl

@[simp] theorem advance_zero (p : Point) : p.advance 0 = p := rfl

theorem advance_advance (p : Point) (m n : Nat) :
    (p.advance m).advance n = p.advance (m + n) := by
  simp [advance, Nat.add_assoc]

theorem advance_within (text : List Char) (m n : Nat) :
    (within text m).advance n = within text (m + n) := by
  simp [advance, within]

/-- Every place from `p` to the end of its text put before `later`, the last place first. -/
def onwardOnto (later : List Point) (offset : Nat) : List Char → List Point
  | [] => ⟨offset, []⟩ :: later
  | c :: rest => onwardOnto (⟨offset, c :: rest⟩ :: later) (offset + 1) rest

/-- Every place of a text, from its end back to its start. -/
def backward (text : List Char) : List Point :=
  onwardOnto [] 0 text

/-- Every place of a text, from its start to its end. -/
def forward (text : List Char) : List Point :=
  (backward text).reverse

theorem onwardOnto_eq (later : List Point) (offset : Nat) (text : List Char) :
    onwardOnto later offset text =
      ((List.range (text.length + 1)).map fun n => ⟨offset + n, text.drop n⟩).reverse ++ later := by
  induction text generalizing later offset with
  | nil => simp [onwardOnto]
  | cons c rest ih =>
    rw [onwardOnto, ih, List.length_cons, List.range_succ_eq_map (n := rest.length + 1)]
    simp [Function.comp_def, Nat.add_assoc, Nat.add_comm 1]

theorem forward_eq (text : List Char) :
    forward text = (List.range (text.length + 1)).map (within text) := by
  simp [forward, backward, onwardOnto_eq, within]

end Point

end TextPattern

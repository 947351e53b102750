import TextPattern.Proofs.Invocation

namespace TextPattern.CommandLine

namespace Directory

variable {d : Directory} {name : List Char} {before names : List (List Char)} {path text : String}

/-- No two files of a directory have one path, and none lies in another. -/
def Consistent (d : Directory) : Prop :=
  ∀ f ∈ d.files, ∀ g ∈ d.files, f.1 <+: g.1 → f = g

instance (d : Directory) : Decidable d.Consistent :=
  inferInstanceAs (Decidable (∀ f ∈ d.files, ∀ g ∈ d.files, f.1 <+: g.1 → f = g))

/-- A name of something in a directory, and not of the directory itself or of the one around it. -/
structure ProperName (name : List Char) : Prop where
  nonempty : name ≠ []
  not_here : name ≠ ['.']
  not_around : name ≠ ['.', '.']
  short : (String.ofList name).utf8ByteSize ≤ 255

instance (name : List Char) : Decidable (ProperName name) :=
  decidable_of_iff (name ≠ [] ∧ name ≠ ['.'] ∧ name ≠ ['.', '.'] ∧
      (String.ofList name).utf8ByteSize ≤ 255)
    ⟨fun ⟨nonempty, not_here, not_around, short⟩ => ⟨nonempty, not_here, not_around, short⟩,
      fun h => ⟨h.nonempty, h.not_here, h.not_around, h.short⟩⟩

/-- A file of a directory, at a path that leads to it from name to name. -/
structure Holds (d : Directory) (path text : String) : Prop where
  listed : (components path, text) ∈ d.files
  proper : ∀ name ∈ components path, ProperName name
  short : path.utf8ByteSize < 4096

theorem locate_file (sound : d.Consistent) (listed : (names, text) ∈ d.files) :
    d.locate names = .ok (.file text) := by
  cases found : d.files.find? (·.1 == names) with
  | none => exact absurd (beq_self_eq_true names) (List.find?_eq_none.mp found _ listed)
  | some f =>
    have same : f.1 = names := by simpa using List.find?_some found
    have only : f = (names, text) :=
      sound f (List.mem_of_find?_eq_some found) _ listed (same ▸ List.prefix_rfl)
    rw [locate, found, only]

theorem locate_inside (sound : d.Consistent) (listed : (before ++ names, text) ∈ d.files)
    (more : names ≠ []) : d.locate before = .ok (.inside before) := by
  have no_file : d.files.find? (·.1 == before) = none := by
    refine List.find?_eq_none.mpr fun f hf here => more ?_
    have same : f.1 = before := by simpa using here
    have only := sound f hf _ listed (same ▸ List.prefix_append before names)
    rw [only] at same
    exact List.append_right_eq_self.mp same
  have around : (d.files.any fun f => before.isPrefixOf f.1) = true :=
    List.any_eq_true.mpr
      ⟨_, listed, List.isPrefixOf_iff_prefix.mpr (List.prefix_append before names)⟩
  rw [locate, no_file]
  exact if_pos around

theorem follow_proper (proper : ProperName name) :
    d.follow (.inside before) name = d.locate (before ++ [name]) := by
  have short : follow.isTooLong name = false := decide_eq_false (Nat.not_lt.mpr proper.short)
  unfold follow
  split
  next => contradiction
  next => exact absurd rfl proper.nonempty
  next => exact absurd rfl proper.not_here
  next => exact absurd rfl proper.not_around
  next => contradiction
  next => exact absurd rfl proper.not_around
  next inside _ _ _ _ =>
    cases inside
    rw [short]
    rfl
  next => contradiction

/-- On the way every name but the last leads to a directory, since no file lies in another. -/
theorem foldlM_follow (sound : d.Consistent) (proper : ∀ name ∈ names, ProperName name)
    (listed : (before ++ names, text) ∈ d.files) (some_name : names ≠ []) :
    names.foldlM d.follow (.inside before) = .ok (.file text) := by
  induction names generalizing before with
  | nil => exact absurd rfl some_name
  | cons name names ih =>
    obtain ⟨here, later⟩ := List.forall_mem_cons.mp proper
    rw [List.append_cons] at listed
    rw [List.foldlM_cons, follow_proper here]
    cases names with
    | nil =>
      rw [List.append_nil] at listed
      rw [locate_file sound listed]
      rfl
    | cons next names =>
      rw [locate_inside sound listed (List.cons_ne_nil next names)]
      exact ih later listed (List.cons_ne_nil next names)

theorem components_ne_nil (path : String) : components path ≠ [] :=
  List.cons_ne_nil _ _

/-- A path from the outermost directory on begins with an empty name. -/
theorem nil_mem_components (h : path.startsWith "/" = true) : [] ∈ components path := by
  obtain ⟨rest, whole⟩ := String.startsWith_string_iff.mp h
  rw [components, ← whole]
  exact List.mem_cons_self

theorem read_of_holds (sound : d.Consistent) (h : d.Holds path text) : d.read path = .ok text := by
  have relative : path.startsWith "/" = false := by
    rw [← Bool.not_eq_true]
    exact fun absolute => (h.proper [] (nil_mem_components absolute)).nonempty rfl
  have found : (components path).foldlM d.follow (.inside []) = .ok (.file text) :=
    foldlM_follow sound h.proper h.listed (components_ne_nil path)
  rw [read, if_neg (Nat.not_le.mpr h.short)]
  simp only [relative, Bool.false_eq_true, ↓reduceIte, found]
  rfl

example : (ofFiles [("a/b", "1"), ("b", "2")]).read "a/b" = .ok "1" :=
  read_of_holds (by decide) ⟨by decide, by decide, by decide⟩

end Directory

/-- A run over a file leaves what a run over a standard input of the same text leaves. -/
theorem run_of_holds {p : Pattern} {pattern : String}
    (parses : Pattern.parse pattern.toList = .ok p) (action : Action) (start : Option UInt64)
    {s : Surroundings} {path text : String} (sound : s.directory.Consistent)
    (h : s.directory.Holds path text) :
    run (invocation action start pattern ++ [path]) s =
      run (invocation action start pattern) { s with standardInput := text.toUTF8 } := by
  have named : path ≠ "" := by
    rintro rfl
    exact (h.proper [] List.mem_cons_self).nonempty rfl
  rw [run_invocation_file parses action start s named, run_invocation parses,
    Directory.read_of_holds sound h, decode_toUTF8]
  rfl

end TextPattern.CommandLine

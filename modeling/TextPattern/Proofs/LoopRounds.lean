import Mathlib.Data.List.Forall2
import Mathlib.Logic.Relation

namespace TextPattern

/-- A loop as its rounds: one leads to where the next begins, or it is the last. -/
structure Rounds (σ ο : Type) where
  again : σ → σ → Prop
  last : σ → ο → Prop

namespace Rounds

/-- From `s` on a loop is entered in just these states, and its last round comes to `o`. -/
inductive Entered {σ ο : Type} (l : Rounds σ ο) : σ → List σ → ο → Prop
  | last {s o} : l.last s o → Entered l s [s] o
  | again {s t later o} : l.again s t → Entered l t later o → Entered l s (s :: later) o

/-- Something that every round keeps, and under which every round leaves less to do. -/
structure Variant {σ ο : Type} (l : Rounds σ ο) (inv : σ → Prop) (left : σ → Nat) : Prop where
  goes : ∀ {s}, inv s → (∃ o, l.last s o) ∨ ∃ t, l.again s t
  keeps : ∀ {s t}, inv s → l.again s t → inv t
  less : ∀ {s t}, inv s → l.again s t → left t < left s
  pos : ∀ {s}, inv s → 0 < left s

variable {σ τ ο π : Type} {l : Rounds σ ο} {k : Rounds τ π} {s : σ} {entries : List σ} {o : ο}
  {inv : σ → Prop} {left : σ → Nat}

theorem Entered.exists_last (h : l.Entered s entries o) :
    ∃ t, Relation.ReflTransGen l.again s t ∧ l.last t o := by
  induction h with
  | last ended => exact ⟨_, .refl, ended⟩
  | again round _ ih =>
    obtain ⟨t, rounds, ended⟩ := ih
    exact ⟨t, .head round rounds, ended⟩

namespace Variant

theorem exists_entered (v : l.Variant inv left) (s : σ) (start : inv s) :
    ∃ entries o, l.Entered s entries o := by
  rcases v.goes start with ⟨o, ended⟩ | ⟨t, round⟩
  · exact ⟨_, o, .last ended⟩
  · have less := v.less start round
    obtain ⟨later, o, h⟩ := v.exists_entered t (v.keeps start round)
    exact ⟨_, o, .again round h⟩
termination_by left s

theorem forall_mem (v : l.Variant inv left) (h : l.Entered s entries o) (start : inv s) :
    ∀ t ∈ entries, inv t := by
  induction h with
  | last _ => exact List.forall_mem_singleton.mpr start
  | again round _ ih => exact List.forall_mem_cons.mpr ⟨start, ih (v.keeps start round)⟩

theorem length_le (v : l.Variant inv left) (h : l.Entered s entries o) (start : inv s) :
    entries.length ≤ left s := by
  induction h with
  | last _ => exact v.pos start
  | again round _ ih =>
    have rest := ih (v.keeps start round)
    have less := v.less start round
    rw [List.length_cons]
    omega

end Variant

/-- Where each round of one loop is a round of another as well, both are entered alike. -/
theorem Entered.alongside {alike : σ → τ → Prop}
    (again : ∀ {s t x}, alike s x → l.again s t → ∃ y, k.again x y ∧ alike t y)
    (last : ∀ {s o x}, alike s x → l.last s o → ∃ p, k.last x p)
    (h : l.Entered s entries o) {x : τ} (start : alike s x) :
    ∃ others p, k.Entered x others p ∧ List.Forall₂ alike entries others := by
  induction h generalizing x with
  | last ended =>
    obtain ⟨p, ended'⟩ := last start ended
    exact ⟨_, p, .last ended', .cons start .nil⟩
  | again round _ ih =>
    obtain ⟨y, round', next⟩ := again start round
    obtain ⟨others, p, h', rest⟩ := ih next
    exact ⟨_, p, .again round' h', .cons start rest⟩

end Rounds

end TextPattern

/-! # Parts of a state

A `Part σ τ` picks a `τ` out of a state `σ`: `get` looks at it and `set` replaces it.  A lawful part
gives back what was set, ignores what was there before, and is unmoved by setting what is there. -/

namespace FaultLab

/-- A part of a state. -/
structure Part (σ τ : Type) where
  get : σ → τ
  set : τ → σ → σ

namespace Part

variable {σ τ α : Type}

/-- The laws of a part. -/
structure Lawful (p : Part σ τ) : Prop where
  get_set : ∀ a s, p.get (p.set a s) = a
  set_set : ∀ a b s, p.set a (p.set b s) = p.set a s
  set_get : ∀ s, p.set (p.get s) s = s

/-- Change a part. -/
def modify (p : Part σ τ) (f : τ → τ) (s : σ) : σ := p.set (f (p.get s)) s

/-- The first of two. -/
def fst : Part (σ × τ) σ := ⟨Prod.fst, fun a s => (a, s.2)⟩

/-- The second of two. -/
def snd : Part (σ × τ) τ := ⟨Prod.snd, fun a s => (s.1, a)⟩

/-- The item of a list at a position; past the end there is a default item that cannot be set. -/
def item (n : Nat) (default : α) : Part (List α) α :=
  ⟨fun s => s[n]?.getD default, fun a s => s.set n a⟩

theorem fst_lawful : (fst : Part (σ × τ) σ).Lawful :=
  ⟨fun _ _ => rfl, fun _ _ _ => rfl, fun _ => rfl⟩

end Part

end FaultLab

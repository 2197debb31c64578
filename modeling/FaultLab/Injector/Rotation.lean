import FaultLab.Injector

/-! # Breaking one link after the other

A `Rotation` goes through some links in a circle.  Each step mends the link that is broken before it
breaks the next, so that never more than one is broken. -/

namespace FaultLab

/-- Links to be broken in turn, whose turn is next, and which is broken now. -/
structure Rotation where
  pairs : List (Nat × Nat)
  next : Nat
  active : Option (Nat × Nat)
deriving DecidableEq

namespace Rotation

/-- A rotation through some links. -/
def ofPairs (pairs : List (Nat × Nat)) : Rotation := ⟨pairs, 0, none⟩

/-- A rotation through the links between neighbours in a ring of `n` members. -/
def ring (n : Nat) : Rotation :=
  ofPairs (if n < 2 then []
    else if n = 2 then [(0, 1)]
    else (List.range n).map fun i => (i, (i + 1) % n))

variable {σ : Type}

/-- Mend the link that is broken, if there is one; afterwards none counts as broken. -/
def mend (inj : Injector σ) (r : Rotation) : Attempt σ Failure Unit :=
  match r.active with
  | some (a, b) => inj.healLink a b
  | none => return ()

/-- Mend the broken link and break the next one. -/
def step (inj : Injector σ) (r : Rotation) :
    Call σ (Except Failure (Option (Nat × Nat)) × Rotation) :=
  match r.pairs[r.next]? with
  | none => return (.ok none, r)
  | some (a, b) => do
    let idle := { r with active := none }
    match ← (r.mend inj).toCall with
    | .error e => return (.error e, idle)
    | .ok () =>
      match ← (inj.linkFailure a b).toCall with
      | .error e => return (.error e, idle)
      | .ok () =>
        return (.ok (some (a, b)), ⟨r.pairs, (r.next + 1) % r.pairs.length, some (a, b)⟩)

/-- Mend the broken link and break no other. -/
def finish (inj : Injector σ) (r : Rotation) : Call σ (Except Failure Unit × Rotation) := do
  let result ← (r.mend inj).toCall
  return (result, { r with active := none })

end Rotation

end FaultLab

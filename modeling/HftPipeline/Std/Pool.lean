import Mathlib.Data.List.Basic
import Mathlib.Data.List.Perm.Basic

/-!
# Resources that are acquired and released

A pool hands out identities it has never handed out before, and a release of anything
that is not live, a second release above all, is a fault (`none`).
-/

namespace HftPipeline.Std

/-- The live resources and the next identity. No resource is listed twice, and each has
been handed out. -/
structure Pool where
  live : List Nat
  fresh : Nat
  nodup : live.Nodup
  handedOut : ∀ identity ∈ live, identity < fresh

namespace Pool

variable {pool : Pool} {identity : Nat} {rest : List Nat}

def acquire (pool : Pool) : Pool where
  live := pool.fresh :: pool.live
  fresh := pool.fresh + 1
  nodup := List.nodup_cons.mpr
    ⟨fun live => absurd (pool.handedOut _ live) (Nat.lt_irrefl _), pool.nodup⟩
  handedOut := by
    intro identity member
    rcases List.mem_cons.mp member with rfl | live
    · exact Nat.lt_succ_self _
    · exact Nat.lt_succ_of_lt (pool.handedOut identity live)

/-- The pool without an identity. -/
def drop (pool : Pool) (identity : Nat) : Pool where
  live := pool.live.erase identity
  fresh := pool.fresh
  nodup := pool.nodup.erase identity
  handedOut := fun other member => pool.handedOut other (List.mem_of_mem_erase member)

def release (pool : Pool) (identity : Nat) : Option Pool :=
  if identity ∈ pool.live then some (pool.drop identity) else none

/-- Releasing a live resource leaves the others live. -/
theorem release_of_perm (live : pool.live.Perm (identity :: rest)) :
    ∃ after, pool.release identity = some after ∧ after.live.Perm rest := by
  have member : identity ∈ pool.live := live.mem_iff.mpr List.mem_cons_self
  refine ⟨pool.drop identity, if_pos member, ?_⟩
  have erased := live.erase identity
  rwa [List.erase_cons_head] at erased

end Pool

end HftPipeline.Std

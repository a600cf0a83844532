/-!
# Batches

A list cut into consecutive batches of one size, of which only the last may be shorter.
-/

namespace Telemetry

variable {α : Type}

/-- Consecutive batches of `max` items each; a `max` of zero counts as one. -/
def batches (items : List α) (max : Nat) : List (List α) :=
  match items with
  | [] => []
  | item :: rest =>
    (item :: rest.take (max - 1)) :: batches (rest.drop (max - 1)) max
termination_by items.length
decreasing_by
  rw [List.length_drop, List.length_cons]
  omega

end Telemetry

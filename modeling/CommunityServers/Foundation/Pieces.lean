import Mathlib.Data.List.Basic

/-!
Contract: cutting a list into pieces of a fixed size, the last one shorter.

Owns: the pieces and how they come off the front. The last piece is empty when
the length is a multiple of the size.

Does not own: what a piece is used for.
-/

set_option autoImplicit false

namespace CommunityServers.Foundation

universe u

variable {Item : Type u} {size : Nat} {data front back : List Item}

/-- The pieces of a list; everything is one piece of size zero. -/
def pieces (size : Nat) (data : List Item) : List (List Item) :=
  if size = 0 ∨ data.length < size then [data]
  else data.take size :: pieces size (data.drop size)
termination_by data.length
decreasing_by
  rw [List.length_drop]
  omega

theorem pieces_of_lt (short : data.length < size) : pieces size data = [data] := by
  rw [pieces, if_pos (Or.inr short)]

theorem pieces_append (positive : 0 < size) (full : front.length = size) :
    pieces size (front ++ back) = front :: pieces size back := by
  have long : ¬ (size = 0 ∨ (front ++ back).length < size) := by
    rw [List.length_append]
    omega
  rw [pieces, if_neg long, List.take_left' full, List.drop_left' full]

theorem pieces_of_le (positive : 0 < size) (long : size ≤ data.length) :
    pieces size data = data.take size :: pieces size (data.drop size) := by
  conv_lhs => rw [← List.take_append_drop size data]
  exact pieces_append positive (List.length_take_of_le long)

end CommunityServers.Foundation

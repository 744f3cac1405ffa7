/-!
# Ascending lists

A finite set is kept as the strictly ascending list of its members, so that
two equal sets are equal lists and a set prints in one order only.
`ascending xs` is that list for the members of `xs`.
-/

namespace Ratchet

section

variable {α : Type} [LT α] [DecidableLT α]

/-- Put one member into an ascending list, unless it is there already. -/
def insertAscending (x : α) : List α → List α
  | [] => [x]
  | y :: ys =>
    if x < y then x :: y :: ys
    else if y < x then y :: insertAscending x ys
    else y :: ys

/-- **The set of a list**: its members, once each, in ascending order. -/
def ascending (xs : List α) : List α :=
  xs.foldr insertAscending []

@[simp] theorem ascending_nil : ascending ([] : List α) = [] := rfl

theorem ascending_cons (x : α) (xs : List α) :
    ascending (x :: xs) = insertAscending x (ascending xs) := rfl

end

/-! ## Membership and order -/

section

variable {α : Type} [LE α] [LT α] [DecidableLT α] [Std.IsLinearOrder α] [Std.LawfulOrderLT α]

theorem mem_insertAscending {x z : α} {ys : List α} :
    z ∈ insertAscending x ys ↔ z = x ∨ z ∈ ys := by
  induction ys with
  | nil => simp [insertAscending]
  | cons y ys ih =>
    unfold insertAscending
    split
    · simp
    · split
      · simp [ih, or_left_comm]
      · rename_i h₁ h₂
        simp [Std.le_antisymm (Std.not_lt.mp h₂) (Std.not_lt.mp h₁)]

@[simp] theorem mem_ascending {z : α} {xs : List α} : z ∈ ascending xs ↔ z ∈ xs := by
  induction xs with
  | nil => simp
  | cons x xs ih => simp [ascending_cons, mem_insertAscending, ih]

theorem pairwise_insertAscending {x : α} {ys : List α} (h : ys.Pairwise (· < ·)) :
    (insertAscending x ys).Pairwise (· < ·) := by
  induction ys with
  | nil => simp [insertAscending]
  | cons y ys ih =>
    obtain ⟨hy, hys⟩ := List.pairwise_cons.mp h
    unfold insertAscending
    split
    · rename_i hxy
      refine List.pairwise_cons.mpr ⟨?_, h⟩
      intro z hz
      rcases List.mem_cons.mp hz with rfl | hz
      · exact hxy
      · exact Std.lt_trans hxy (hy z hz)
    · split
      · rename_i hyx
        refine List.pairwise_cons.mpr ⟨?_, ih hys⟩
        intro z hz
        rcases mem_insertAscending.mp hz with rfl | hz
        · exact hyx
        · exact hy z hz
      · exact h

theorem pairwise_ascending (xs : List α) : (ascending xs).Pairwise (· < ·) := by
  induction xs with
  | nil => simp
  | cons x xs ih =>
    rw [ascending_cons]
    exact pairwise_insertAscending ih

theorem nodup_ascending (xs : List α) : (ascending xs).Nodup := by
  refine (pairwise_ascending xs).imp ?_
  rintro a b h rfl
  exact Std.lt_irrefl h

end

end Ratchet

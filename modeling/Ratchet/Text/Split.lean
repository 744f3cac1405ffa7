/-!
# Splitting at a character

`split sep s` cuts a text at every `sep`, so it yields one piece more than
there are separators, and `join` puts the pieces together again.
-/

namespace Ratchet.Text

/-- The pieces of a text between the separators. -/
def split (sep : Char) : List Char → List (List Char)
  | [] => [[]]
  | c :: cs =>
    if c = sep then [] :: split sep cs
    else match split sep cs with
      | [] => [[c]]
      | piece :: pieces => (c :: piece) :: pieces

/-- Pieces put together, with a separator between each two. -/
def join (sep : Char) : List (List Char) → List Char
  | [] => []
  | [piece] => piece
  | piece :: pieces => piece ++ sep :: join sep pieces

theorem split_ne_nil (sep : Char) (s : List Char) : split sep s ≠ [] := by
  cases s with
  | nil => simp [split]
  | cons c cs =>
    unfold split
    split
    · simp
    · split <;> simp

/-- Joining undoes splitting. -/
theorem join_split (sep : Char) (s : List Char) : join sep (split sep s) = s := by
  induction s with
  | nil => rfl
  | cons c cs ih =>
    unfold split
    split
    · rename_i h
      subst h
      cases hp : split c cs with
      | nil => exact absurd hp (split_ne_nil c cs)
      | cons piece pieces => rw [hp] at ih; simp [join, ih]
    · cases hp : split sep cs with
      | nil => exact absurd hp (split_ne_nil sep cs)
      | cons piece pieces =>
        rw [hp] at ih
        cases pieces with
        | nil => simp_all [join]
        | cons p ps => simp_all [join]

/-- The pieces of a string. -/
def splitString (sep : Char) (s : String) : List String :=
  (split sep s.toList).map String.ofList

end Ratchet.Text

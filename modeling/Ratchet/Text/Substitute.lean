/-!
# Substitution

`substitute` puts one text in the place of every occurrence of another, from
left to right, each behind the last.
-/

namespace Ratchet.Text

/-- Replace every occurrence of `goal`, from left to right. -/
def substitute (goal by_ : List Char) : List Char → List Char
  | [] => []
  | c :: cs =>
    if goal ≠ [] ∧ goal.isPrefixOf (c :: cs) then
      by_ ++ substitute goal by_ (cs.drop (goal.length - 1))
    else c :: substitute goal by_ cs
termination_by cs => cs.length
decreasing_by
  all_goals simp only [List.length_cons, List.length_drop]
  all_goals omega

/-- Whether a text occurs in another. -/
def occursIn (goal : List Char) : List Char → Bool
  | [] => goal.isEmpty
  | c :: cs => goal.isPrefixOf (c :: cs) || occursIn goal cs

end Ratchet.Text

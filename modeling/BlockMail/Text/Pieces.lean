/-! # Pieces of a text

Cutting a text at every occurrence of a separator.  A text with `n` separators
has `n + 1` pieces, some of which may be empty.
-/

namespace BlockMail.Text

universe u

variable {α : Type u}

/-- The pieces between the separators. -/
def piecesAt (isSeparator : α → Bool) : List α → List (List α)
  | [] => [[]]
  | c :: cs =>
    if isSeparator c then [] :: piecesAt isSeparator cs
    else
      match piecesAt isSeparator cs with
      -- never the case: there is always a first piece
      | [] => [[c]]
      | piece :: rest => (c :: piece) :: rest

theorem piecesAt_ne_nil (isSeparator : α → Bool) (cs : List α) :
    piecesAt isSeparator cs ≠ [] := by
  cases cs with
  | nil => simp [piecesAt]
  | cons c cs =>
    unfold piecesAt
    split
    · simp
    · split <;> simp

/-- There is one piece more than there are separators. -/
theorem length_piecesAt (isSeparator : α → Bool) (cs : List α) :
    (piecesAt isSeparator cs).length = cs.countP isSeparator + 1 := by
  induction cs with
  | nil => rfl
  | cons c cs ih =>
    unfold piecesAt
    split
    · rename_i h
      simp [ih, h]
    · rename_i h
      split
      · rename_i h'
        exact absurd h' (piecesAt_ne_nil _ _)
      · rename_i piece rest h'
        rw [h'] at ih
        simpa [h] using ih

end BlockMail.Text

/-! # Splitting texts

The pieces of a text between the places where a character stands.
-/

namespace Metering.Text

/-- The pieces of a text between separators; there is one more piece than separators. -/
def split (separator : Char) : List Char → List (List Char)
  | [] => [[]]
  | c :: rest =>
    if c = separator then [] :: split separator rest
    else
      match split separator rest with
      | [] => [[c]]
      | piece :: pieces => (c :: piece) :: pieces

/-- There is one more piece than separators. -/
theorem length_split (separator : Char) (cs : List Char) :
    (split separator cs).length = cs.count separator + 1 := by
  induction cs with
  | nil => rfl
  | cons c rest ih =>
    simp only [split]
    split
    · next h => simp [h, ih]
    · next h =>
      -- the character joins the first piece, so the number of pieces stays
      rw [List.count_cons_of_ne h]
      split
      · next hs => simp [hs] at ih
      · next hs => rw [← ih, hs]; rfl

/-- A separator parts what stands before it from what stands behind it. -/
theorem split_append (separator : Char) (before after : List Char) :
    split separator (before ++ separator :: after) =
      split separator before ++ split separator after := by
  induction before with
  | nil => simp [split]
  | cons c before ih =>
    by_cases same : c = separator
    · simp [split, same, ih]
    · simp only [List.cons_append, split, same, if_false, ih]
      cases pieces : split separator before with
      | nil =>
        have pieceCount := length_split separator before
        simp [pieces] at pieceCount
      | cons piece pieces => rfl

/-- Without a separator the text is in one piece. -/
theorem split_of_not_mem {separator : Char} {cs : List Char} (free : separator ∉ cs) :
    split separator cs = [cs] := by
  induction cs with
  | nil => rfl
  | cons c cs ih =>
    rw [List.mem_cons, not_or] at free
    simp [split, Ne.symm free.1, ih free.2]

end Metering.Text

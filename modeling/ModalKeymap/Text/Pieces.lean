import ModalKeymap.Text.Blank

/-!
# Pieces of a text

Cutting a text at a separator.  `pieces` cuts at every occurrence of a
non-empty separator, from the left and without overlap; `cutAt?` cuts once,
at the first occurrence of one character.
-/

namespace ModalKeymap.Text

/--
The pieces of a text between the occurrences of the separator
`first :: more`.
-/
def pieces (first : Char) (more : List Char) : List Char → List (List Char)
  | [] => [[]]
  | character :: rest =>
      if (first :: more).isPrefixOf (character :: rest) then
        [] :: pieces first more (rest.drop more.length)
      else
        match pieces first more rest with
        | [] => [[character]]
        | piece :: others => (character :: piece) :: others
  termination_by characters => characters.length
  decreasing_by
    all_goals simp only [List.length_drop, List.length_cons]
    all_goals omega

theorem pieces_ne_nil (first : Char) (more characters : List Char) :
    pieces first more characters ≠ [] := by
  cases characters with
  | nil => simp [pieces]
  | cons character rest =>
      rw [pieces]
      split
      · simp
      · split <;> simp

/-- What separates the tokens of a chord. -/
inductive Separator where
  /-- Any blank character. -/
  | blanks
  /-- A fixed text, which has to be non-empty to be usable. -/
  | text (separator : String)
  deriving DecidableEq, Repr

/-- The pieces of a text between separators; an empty separator has none. -/
def Separator.pieces? (separator : Separator) (text : String) :
    Option (List String) :=
  match separator with
  | .blanks => some ((text.toList.splitOnP isBlank).map String.ofList)
  | .text separatorText =>
      match separatorText.toList with
      | [] => none
      | first :: more =>
          some ((pieces first more text.toList).map String.ofList)

/-- The parts before and after the first occurrence of a character. -/
def cutAt? (mark : Char) : List Char → Option (List Char × List Char)
  | [] => none
  | character :: rest =>
      if character = mark then
        some ([], rest)
      else
        (cutAt? mark rest).map fun parts =>
          (character :: parts.1, parts.2)

/-- A cut happens at the first occurrence and loses only the mark. -/
theorem cutAt?_eq_some_iff {mark : Char}
    {characters before after : List Char} :
    cutAt? mark characters = some (before, after) ↔
      characters = before ++ mark :: after ∧ mark ∉ before := by
  induction characters generalizing before with
  | nil => simp [cutAt?]
  | cons character rest ih =>
      by_cases isMark : character = mark
      · subst isMark
        cases before with
        | nil => simp [cutAt?, eq_comm]
        | cons head tail => simp [cutAt?]; grind
      · cases before with
        | nil => simp [cutAt?, isMark]
        | cons head tail =>
            simp only [cutAt?, isMark, if_false, Option.map_eq_some_iff,
              Prod.exists, Prod.mk.injEq]
            constructor
            · rintro ⟨part, other, cut, same, rfl⟩
              simp only [List.cons.injEq] at same
              obtain ⟨rfl, rfl⟩ := same
              obtain ⟨rfl, absent⟩ := ih.mp cut
              simpa [Ne.symm isMark] using absent
            · rintro ⟨whole, absent⟩
              simp only [List.cons_append, List.cons.injEq] at whole
              obtain ⟨rfl, rfl⟩ := whole
              simp only [List.mem_cons, not_or] at absent
              exact ⟨tail, after, ih.mpr ⟨rfl, absent.2⟩, rfl, rfl⟩

end ModalKeymap.Text

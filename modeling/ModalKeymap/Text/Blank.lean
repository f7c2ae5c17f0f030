/-!
# Blank characters

The characters that count as blank around a token, trimming them off both
ends of a text, and cutting a text at them.  `trim_trim` says that trimming
settles after one pass.
-/

namespace ModalKeymap.Text

/--
A blank character: the ASCII controls that move to another column, line or
section, the space, and every Unicode space, line or paragraph separator.
-/
def isBlank (character : Char) : Bool :=
  let code := character.toNat
  (0x09 ≤ code && code ≤ 0x0D) || (0x1C ≤ code && code ≤ 0x20) ||
    code == 0x85 || code == 0xA0 || code == 0x1680 ||
    (0x2000 ≤ code && code ≤ 0x200A) || code == 0x2028 || code == 0x2029 ||
    code == 0x202F || code == 0x205F || code == 0x3000

/-- The characters left once the leading and trailing blanks are gone. -/
def trimmed (characters : List Char) : List Char :=
  ((characters.dropWhile isBlank).reverse.dropWhile isBlank).reverse

/-- A text without its leading and trailing blanks. -/
def trim (text : String) : String :=
  String.ofList (trimmed text.toList)

@[simp]
theorem toList_trim (text : String) :
    (trim text).toList = trimmed text.toList := by
  simp [trim]

/-- A list that does not start with a blank and does not end with one. -/
def IsTrimmed (characters : List Char) : Prop :=
  (∀ character ∈ characters.head?, isBlank character = false) ∧
    ∀ character ∈ characters.getLast?, isBlank character = false

theorem dropWhile_blank_of_head {characters : List Char}
    (head : ∀ character ∈ characters.head?, isBlank character = false) :
    characters.dropWhile isBlank = characters := by
  cases characters with
  | nil => rfl
  | cons first rest =>
      have visible := head first rfl
      simp [visible]

theorem trimmed_eq_self {characters : List Char}
    (ends : IsTrimmed characters) : trimmed characters = characters := by
  have backwards : ∀ character ∈ characters.reverse.head?,
      isBlank character = false := by
    simpa using ends.2
  rw [trimmed, dropWhile_blank_of_head ends.1,
    dropWhile_blank_of_head backwards, List.reverse_reverse]

theorem isTrimmed_trimmed (characters : List Char) :
    IsTrimmed (trimmed characters) := by
  constructor
  · intro character isHead
    have notEmpty : trimmed characters ≠ [] := by
      intro empty
      simp [empty] at isHead
    have suffix : trimmed characters <+: characters.dropWhile isBlank := by
      have tail := List.dropWhile_suffix (l :=
        (characters.dropWhile isBlank).reverse) isBlank
      simpa [trimmed] using List.reverse_prefix.mpr tail
    obtain ⟨rest, joined⟩ := suffix
    have head : (characters.dropWhile isBlank).head? = some character := by
      rw [← joined]
      cases shape : trimmed characters with
      | nil => exact absurd shape notEmpty
      | cons first others => simpa [shape] using isHead
    have visible := List.head?_dropWhile_not isBlank characters
    rw [head] at visible
    simpa using visible
  · intro character isLast
    have head : ((characters.dropWhile isBlank).reverse.dropWhile
        isBlank).head? = some character := by
      simpa [trimmed] using isLast
    have visible := List.head?_dropWhile_not isBlank
      (characters.dropWhile isBlank).reverse
    rw [head] at visible
    simpa using visible

/-- Trimming twice is trimming once. -/
@[simp]
theorem trimmed_trimmed (characters : List Char) :
    trimmed (trimmed characters) = trimmed characters :=
  trimmed_eq_self (isTrimmed_trimmed characters)

@[simp]
theorem trim_trim (text : String) : trim (trim text) = trim text := by
  apply String.toList_inj.mp
  simp

end ModalKeymap.Text

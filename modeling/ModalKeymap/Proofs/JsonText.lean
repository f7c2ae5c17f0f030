import ModalKeymap.Json.Grammar
import ModalKeymap.Json.Printer
import ModalKeymap.Json.Reader
import Mathlib.Data.Nat.Digits.Defs

/-!
# Writing and reading JSON texts

The printer writes a text of the grammar, in every layout (`isText_render`),
and the reader reads every text of the grammar as the value that it stands
for (`IsText.read?`).  So a text stands for one value at most, and what was
written is read back whatever the layout (`read?_render`).
-/

namespace ModalKeymap.Json

/-! ## What is written -/

theorem isBlank_nil : IsBlank [] := by
  intro character member
  cases member

theorem isBlank_lineStart (layout : Layout) (depth : Nat) :
    IsBlank (layout.lineStart depth) := by
  intro character member
  cases layout with
  | compact => cases member
  | lines indent =>
      rcases List.mem_cons.mp member with rfl | member
      · decide
      · rw [List.eq_of_mem_replicate member]
        decide

theorem Layout.exists_colon (layout : Layout) :
    ∃ after, IsBlank after ∧ layout.colon = ':' :: after := by
  cases layout with
  | compact => exact ⟨[], isBlank_nil, rfl⟩
  | lines indent =>
      refine ⟨[' '], ?_, rfl⟩
      intro character member
      rw [List.mem_singleton.mp member]
      decide

/-! ### Numbers -/

/-- The decimal digits of a positive number start with no zero. -/
theorem head?_toDigits_ne_zero {number : Nat} (positive : number ≠ 0) :
    (Nat.toDigits 10 number).head? ≠ some '0' := by
  induction number using Nat.strongRecOn with
  | ind number ih =>
      rw [Nat.toDigits_eq_if (by decide)]
      by_cases small : number < 10
      · rw [if_pos small]
        have every : ∀ digit < 10, digit ≠ 0 →
            [digit.digitChar].head? ≠ some '0' := by decide
        exact every number small positive
      · have leading := ih (number / 10) (by omega) (by omega)
        rw [if_neg small]
        cases front : Nat.toDigits 10 (number / 10) with
        | nil => exact absurd front Nat.toDigits_ne_nil
        | cons first rest =>
            rw [front] at leading
            exact leading

theorem isNumeral_toDigits (number : Nat) :
    IsNumeral (Nat.toDigits 10 number) := by
  by_cases none : number = 0
  · subst none
    exact .zero
  have digits : ∀ digit ∈ Nat.toDigits 10 number, digit.isDigit :=
    fun _ => Nat.isDigit_of_mem_toDigits (by decide) (by decide)
  have leading := head?_toDigits_ne_zero none
  cases written : Nat.toDigits 10 number with
  | nil => exact absurd written Nat.toDigits_ne_nil
  | cons first rest =>
      rw [written] at digits leading
      apply IsNumeral.positive
      · exact digits first List.mem_cons_self
      · rintro rfl
        exact leading rfl
      · exact fun other member => digits other (List.mem_cons_of_mem _ member)

theorem spellsInteger_toString (number : Int) :
    SpellsInteger number (toString number).toList := by
  have magnitude (natural : Nat) :
      Nat.ofDigitChars 10 (Nat.toDigits 10 natural) 0 = natural :=
    Nat.ofDigitChars_toDigits (by decide) (by decide)
  cases number with
  | ofNat natural =>
      have written : (toString (Int.ofNat natural)).toList =
          Nat.toDigits 10 natural := by
        show natural.repr.toList = _
        rw [Nat.repr_eq_ofList_toDigits, String.toList_ofList]
      have spelled := SpellsInteger.unsigned (isNumeral_toDigits natural)
      rw [magnitude] at spelled
      rw [written]
      exact spelled
  | negSucc natural =>
      have written : (toString (Int.negSucc natural)).toList =
          '-' :: Nat.toDigits 10 (natural + 1) := by
        show ("-" ++ (natural + 1).repr).toList = _
        rw [Nat.repr_eq_ofList_toDigits]
        simp
      have spelled := SpellsInteger.negative (isNumeral_toDigits (natural + 1))
      rw [magnitude] at spelled
      rw [written]
      exact spelled

/-! ### Strings -/

theorem spellsUnit_hexadecimal {unit : Nat} (small : unit < 0x20) :
    SpellsUnit unit (Text.hexadecimal 4 unit) := by
  have every : ∀ unit < 0x20,
      Text.ofHexDigits? (Text.hexadecimal 4 unit) = some unit := by decide
  exact ⟨Text.length_hexadecimal 4 unit, every unit small⟩

theorem spellsCharacter_escape (character : Char) :
    SpellsCharacter character (escape character) := by
  unfold escape
  split
  · exact .letter (by decide)
  · exact .letter (by decide)
  · exact .letter (by decide)
  · exact .letter (by decide)
  · exact .letter (by decide)
  · exact .letter (by decide)
  · exact .letter (by decide)
  · rename_i notMark notEscape _ _ _ _ _
    split
    · next small => exact .unit (spellsUnit_hexadecimal small)
    · next large => exact .plain (by omega) notMark notEscape

theorem spellsText_printText (value : String) :
    SpellsText value (printText value) := by
  apply SpellsText.quoted
  induction value.toList with
  | nil => exact .nil
  | cons first rest ih => exact .cons (spellsCharacter_escape first) ih

/-! ### Values -/

theorem spellsMember_print (layout : Layout) (name : String) {value : Json}
    {text : List Char} (spelled : Spells value text) :
    SpellsMember name value (printText name ++ layout.colon ++ text) := by
  rcases layout.exists_colon with ⟨after, blank, colon⟩
  have member := SpellsMember.colon (spellsText_printText name) isBlank_nil
    blank spelled
  rw [colon]
  simpa using member

mutual

/-- In every layout the printer writes a text of the grammar. -/
theorem spells_print (layout : Layout) (depth : Nat) :
    (value : Json) → Spells value (print layout depth value)
  | .null => .null
  | .boolean true => .isTrue
  | .boolean false => .isFalse
  | .integer number => .integer (spellsInteger_toString number)
  | .text value => .text (spellsText_printText value)
  | .array [] => .emptyArray isBlank_nil
  | .array (first :: rest) => by
      have items := spellsItems_print layout (depth + 1) rest
        (isBlank_lineStart layout (depth + 1))
        (spells_print layout (depth + 1) first)
        (isBlank_lineStart layout depth)
      simpa [print] using Spells.array items
  | .object [] => .emptyObject isBlank_nil
  | .object ((name, value) :: rest) => by
      have members := spellsMembers_print layout (depth + 1) rest
        (isBlank_lineStart layout (depth + 1))
        (spellsMember_print layout name (spells_print layout (depth + 1) value))
        (isBlank_lineStart layout depth)
      simpa [print] using Spells.object members
termination_by structural value => value

/-- What is written behind an item continues every spelling of it. -/
theorem spellsItems_print (layout : Layout) (depth : Nat) :
    (items : List Json) → {item : Json} → {before text after : List Char} →
      IsBlank before → Spells item text → IsBlank after →
        SpellsItems (item :: items)
          (before ++ text ++ printItems layout depth items ++ after)
  | [], _, _, _, _, leading, spelled, trailing => by
      simpa [printItems] using SpellsItems.last leading spelled trailing
  | next :: rest, _, _, _, _, leading, spelled, trailing => by
      have later := spellsItems_print layout depth rest
        (isBlank_lineStart layout depth) (spells_print layout depth next)
        trailing
      simpa [printItems] using
        SpellsItems.more leading spelled isBlank_nil later
termination_by structural items => items

theorem spellsMembers_print (layout : Layout) (depth : Nat) :
    (members : List (String × Json)) → {name : String} → {value : Json} →
      {before text after : List Char} → IsBlank before →
      SpellsMember name value text → IsBlank after →
        SpellsMembers ((name, value) :: members)
          (before ++ text ++ printMembers layout depth members ++ after)
  | [], _, _, _, _, _, leading, spelled, trailing => by
      simpa [printMembers] using
        SpellsMembers.last leading spelled trailing
  | (nextName, next) :: rest, _, _, _, _, _, leading, spelled,
      trailing => by
      have later := spellsMembers_print layout depth rest
        (isBlank_lineStart layout depth)
        (spellsMember_print layout nextName (spells_print layout depth next))
        trailing
      simpa [printMembers] using
        SpellsMembers.more leading spelled isBlank_nil later
termination_by structural members => members

end

/-! ## What is read -/

/-- What may stand behind a value: nothing, space, or the end of a part. -/
def EndsToken (rest : List Char) : Prop :=
  ∀ next ∈ rest.head?, isSpace next ∨ next ∈ [',', ']', '\x7d']

theorem isSpace_iff {character : Char} :
    isSpace character ↔ character ∈ [' ', '\t', '\n', '\r'] := by
  simp [isSpace, or_assoc]

theorem skipSpace_append {blank : List Char} (isBlank : IsBlank blank)
    (rest : List Char) : skipSpace (blank ++ rest) = skipSpace rest :=
  List.dropWhile_append_of_pos fun character member =>
    isSpace_iff.mpr (isBlank character member)

theorem skipSpace_of_head {first : Char} {rest : List Char}
    (solid : isSpace first = false) :
    skipSpace (first :: rest) = first :: rest := by
  simp [skipSpace, solid]

/-! ### Numbers -/

theorem readMagnitude?_append {digits rest : List Char}
    (numeral : IsNumeral digits) (ends : EndsToken rest) :
    readMagnitude? (digits ++ rest) =
      some (Nat.ofDigitChars 10 digits 0, rest) := by
  have stops : ∀ next ∈ rest.head?, next.isDigit = false := by
    have others : ∀ next ∈ [' ', '\t', '\n', '\r'] ++ [',', ']', '\x7d'],
        next.isDigit = false := by simp
    intro next isNext
    apply others next
    rw [List.mem_append, ← isSpace_iff]
    exact ends next isNext
  have behind : rest.takeWhile Char.isDigit = [] ∧
      rest.dropWhile Char.isDigit = rest := by
    cases rest with
    | nil => exact ⟨rfl, rfl⟩
    | cons next more =>
        have stop := stops next rfl
        simp [stop]
  cases numeral with
  | zero => rfl
  | positive digit notZero others =>
      rename_i first more
      have taken : (more ++ rest).takeWhile Char.isDigit = more := by
        rw [List.takeWhile_append_of_pos others, behind.1, List.append_nil]
      have left : (more ++ rest).dropWhile Char.isDigit = rest := by
        rw [List.dropWhile_append_of_pos others, behind.2]
      rw [List.cons_append, readMagnitude?]
      · rw [if_pos digit, taken, left]
        rfl
      · intro same
        exact notZero same

theorem continuesNumber_of_ends {rest : List Char}
    (ends : EndsToken rest) : continuesNumber rest = false := by
  have others : ∀ next ∈ [' ', '\t', '\n', '\r'] ++ [',', ']', '\x7d'],
      next ≠ '.' ∧ next ≠ 'e' ∧ next ≠ 'E' := by simp
  cases rest with
  | nil => rfl
  | cons next more =>
      have other := others next (by
        rw [List.mem_append, ← isSpace_iff]
        exact ends next rfl)
      simp [continuesNumber, other]

theorem readInteger?_append {number : Int} {text rest : List Char}
    (spelled : SpellsInteger number text) (ends : EndsToken rest) :
    readInteger? (text ++ rest) = some (number, rest) := by
  have complete := continuesNumber_of_ends ends
  cases spelled with
  | unsigned numeral =>
      have read := readMagnitude?_append numeral ends
      have noSign : ∀ unsigned, text ++ rest ≠ '-' :: unsigned := by
        intro unsigned same
        cases numeral <;> cases same
        contradiction
      rw [readInteger?, read]
      · simp [complete]
      · exact noSign
  | negative numeral =>
      have read := readMagnitude?_append numeral ends
      simp [readInteger?, read, complete]

/-! ### Strings -/

theorem readUnit?_append {unit : Nat} {digits : List Char}
    (spelled : SpellsUnit unit digits) (rest : List Char) :
    readUnit? (digits ++ rest) = some (unit, rest) := by
  rcases spelled with ⟨length, written⟩
  match digits, length with
  | [first, second, third, fourth], _ =>
      simp [readUnit?, written]

theorem readEscape?_letter {letter character : Char}
    (listed : (letter, character) ∈ escapeLetters) (rest : List Char) :
    readEscape? (letter :: rest) = some (character, rest) := by
  simp only [escapeLetters, List.mem_cons, Prod.mk.injEq,
    List.not_mem_nil, or_false] at listed
  rcases listed with ⟨rfl, rfl⟩ | ⟨rfl, rfl⟩ | ⟨rfl, rfl⟩ | ⟨rfl, rfl⟩ |
    ⟨rfl, rfl⟩ | ⟨rfl, rfl⟩ | ⟨rfl, rfl⟩ | ⟨rfl, rfl⟩ <;> rfl

theorem readCodePoint?_unit {character : Char} {digits : List Char}
    (spelled : SpellsUnit character.toNat digits) (rest : List Char) :
    readCodePoint? (digits ++ rest) = some (character, rest) := by
  have isCharacter : character.toNat.isValidChar := character.valid
  simp [readCodePoint?, readUnit?_append spelled, isCharacter]

theorem readCodePoint?_pair {character : Char} {high low : Nat}
    {highDigits lowDigits : List Char}
    (isHigh : 0xD800 ≤ high ∧ high < 0xDC00)
    (isLow : 0xDC00 ≤ low ∧ low < 0xE000)
    (code : character.toNat =
      0x10000 + 0x400 * (high - 0xD800) + (low - 0xDC00))
    (highSpelled : SpellsUnit high highDigits)
    (lowSpelled : SpellsUnit low lowDigits) (rest : List Char) :
    readCodePoint? (highDigits ++ '\\' :: 'u' :: (lowDigits ++ rest)) =
      some (character, rest) := by
  have noCharacter : ¬high.isValidChar := by
    unfold Nat.isValidChar
    omega
  simp [readCodePoint?, readUnit?_append highSpelled,
    readUnit?_append lowSpelled, noCharacter, isHigh, isLow, ← code]

theorem readTextBody?_append {character : Char} {front : List Char}
    (spelled : SpellsCharacter character front) (fuel : Nat)
    (behind : List Char) :
    readTextBody? (fuel + 1) (front ++ behind) =
      (readTextBody? fuel behind).map fun read =>
        (character :: read.1, read.2) := by
  have undone (escaped : List Char)
      (read : readEscape? (escaped ++ behind) = some (character, behind)) :
      readTextBody? (fuel + 1) ('\\' :: escaped ++ behind) =
        (readTextBody? fuel behind).map fun read =>
          (character :: read.1, read.2) := by
    rw [List.cons_append, readTextBody?, read]
    cases later : readTextBody? fuel behind <;> simp [later]
  cases spelled with
  | plain printable notMark notEscape =>
      have printable : ¬character.toNat < 0x20 := by omega
      rw [List.singleton_append, readTextBody?]
      · rw [if_neg printable]
        cases readTextBody? fuel behind <;> rfl
      · exact notMark
      · exact notEscape
  | letter listed => exact undone _ (readEscape?_letter listed behind)
  | unit spelled =>
      apply undone
      exact readCodePoint?_unit spelled behind
  | pair isHigh isLow code highSpelled lowSpelled =>
      apply undone
      have read := readCodePoint?_pair isHigh isLow code highSpelled
        lowSpelled behind
      simpa [readEscape?] using read

theorem readTextBody?_eq_some {characters body : List Char}
    (spelled : SpellsCharacters characters body) {fuel : Nat}
    (enough : body.length < fuel) (rest : List Char) :
    readTextBody? fuel (body ++ '"' :: rest) = some (characters, rest) := by
  induction spelled generalizing fuel with
  | nil =>
      cases fuel with
      | zero => cases enough
      | succ fuel => rfl
  | cons first later ih =>
      rename_i character characters front behind
      have notEmpty : 1 ≤ front.length := by
        cases first <;> simp
      rw [List.length_append] at enough
      cases fuel with
      | zero => omega
      | succ fuel =>
          rw [List.append_assoc, readTextBody?_append first, ih (by omega)]
          rfl

theorem readText?_append {value : String} {text : List Char}
    (spelled : SpellsText value text) (rest : List Char) :
    readText? (text ++ rest) = some (value, rest) := by
  cases spelled with
  | quoted spelled =>
      rename_i body
      have enough : body.length <
          (body ++ '"' :: rest).length + 1 := by
        rw [List.length_append]
        omega
      have read := readTextBody?_eq_some spelled enough rest
      have shape : '"' :: body ++ ['"'] ++ rest =
          '"' :: (body ++ '"' :: rest) := by simp
      rw [shape, readText?, read]
      simp

/-! ### Values -/

/-- A value starts with neither space nor the end of anything. -/
theorem Spells.exists_first {value : Json} {text : List Char}
    (spelled : Spells value text) :
    ∃ first rest, text = first :: rest ∧
      isSpace first = false ∧ first ≠ ']' := by
  cases spelled with
  | integer spelled =>
      have digit : ∀ first : Char, first.isDigit →
          isSpace first = false ∧ first ≠ ']' := by
        intro first isDigit
        constructor
        · apply Bool.eq_false_iff.mpr
          intro space
          have others : ∀ other ∈ [' ', '\t', '\n', '\r'],
              other.isDigit = false := by simp
          rw [others first (isSpace_iff.mp space)] at isDigit
          cases isDigit
        · rintro rfl
          cases isDigit
      cases spelled with
      | unsigned numeral =>
          cases numeral with
          | zero => exact ⟨_, _, rfl, by decide⟩
          | positive isDigit => exact ⟨_, _, rfl, digit _ isDigit⟩
      | negative => exact ⟨_, _, rfl, by decide⟩
  | text spelled =>
      cases spelled with
      | quoted => exact ⟨_, _, rfl, by decide⟩
  | _ => exact ⟨_, _, rfl, by decide⟩

theorem endsToken_append {blank rest : List Char}
    (isBlank : IsBlank blank) (ends : EndsToken rest) :
    EndsToken (blank ++ rest) := by
  cases blank with
  | nil => exact ends
  | cons first more =>
      intro next isNext
      cases isNext
      exact .inl (isSpace_iff.mpr (isBlank first List.mem_cons_self))

theorem Spells.skipSpace_append {value : Json} {before text : List Char}
    (leading : IsBlank before) (spelled : Spells value text)
    (rest : List Char) :
    skipSpace (before ++ (text ++ rest)) = text ++ rest := by
  rcases spelled.exists_first with ⟨first, more, rfl, solid, _⟩
  rw [Json.skipSpace_append leading, List.cons_append,
    skipSpace_of_head solid]

theorem Spells.length_pos {value : Json} {text : List Char}
    (spelled : Spells value text) : 0 < text.length := by
  rcases spelled.exists_first with ⟨first, rest, rfl, _⟩
  exact Nat.succ_pos _

/-- Behind the bracket of an array with items comes no closing bracket. -/
theorem SpellsItems.exists_first {items : List Json} {body : List Char}
    (spelled : SpellsItems items body) (rest : List Char) :
    ∃ first more, skipSpace (body ++ rest) = first :: more ∧
      first ≠ ']' := by
  have start {item : Json} {before text : List Char}
      (leading : IsBlank before) (spelled : Spells item text)
      (rest : List Char) :
      ∃ first more, skipSpace (before ++ (text ++ rest)) = first :: more ∧
        first ≠ ']' := by
    rw [spelled.skipSpace_append leading]
    rcases spelled.exists_first with ⟨first, more, rfl, _, notEnd⟩
    exact ⟨first, _, rfl, notEnd⟩
  cases spelled with
  | last leading spelled trailing =>
      rw [List.append_assoc, List.append_assoc]
      exact start leading spelled _
  | more leading spelled trailing later =>
      rw [List.append_assoc, List.append_assoc, List.append_assoc]
      exact start leading spelled _

theorem SpellsMember.exists_mark {name : String} {value : Json}
    {text : List Char} (spelled : SpellsMember name value text) :
    ∃ more, text = '"' :: more := by
  cases spelled with
  | colon named =>
      cases named with
      | quoted => exact ⟨_, rfl⟩

theorem SpellsMember.length_pos {name : String} {value : Json}
    {text : List Char} (spelled : SpellsMember name value text) :
    0 < text.length := by
  rcases spelled.exists_mark with ⟨more, rfl⟩
  exact Nat.succ_pos _

theorem SpellsMember.skipSpace_append {name : String} {value : Json}
    {before text : List Char} (leading : IsBlank before)
    (spelled : SpellsMember name value text) (rest : List Char) :
    skipSpace (before ++ (text ++ rest)) = text ++ rest := by
  rcases spelled.exists_mark with ⟨more, rfl⟩
  rw [Json.skipSpace_append leading]
  rfl

theorem SpellsMembers.exists_mark {members : List (String × Json)}
    {body : List Char} (spelled : SpellsMembers members body)
    (rest : List Char) :
    ∃ more, skipSpace (body ++ rest) = '"' :: more := by
  cases spelled with
  | last leading spelled trailing =>
      rw [List.append_assoc, List.append_assoc,
        spelled.skipSpace_append leading]
      rcases spelled.exists_mark with ⟨more, rfl⟩
      exact ⟨_, rfl⟩
  | more leading spelled trailing later =>
      rw [List.append_assoc, List.append_assoc, List.append_assoc,
        spelled.skipSpace_append leading]
      rcases spelled.exists_mark with ⟨more, rfl⟩
      exact ⟨_, rfl⟩

/-! ### One step of the reader -/

section Steps

variable {fuel : Nat} {start behind more rest : List Char}
  {item value : Json} {items : List Json} {name : String}
  {members : List (String × Json)}

/-- Numbers are read where nothing else starts. -/
theorem readValue?_integer {number : Int} {text : List Char}
    (spelled : SpellsInteger number text) (ends : EndsToken rest)
    (fuel : Nat) :
    readValue? (fuel + 1) (text ++ rest) = some (.integer number, rest) := by
  have read := readInteger?_append spelled ends
  have others : ∀ other ∈ ['n', 't', 'f', '"', '[', '\x7b'],
      text.head? ≠ some other := by
    have noDigit : ∀ other ∈ ['n', 't', 'f', '"', '[', '\x7b'],
        other.isDigit = false ∧ other ≠ '-' := by simp
    intro other listed isFirst
    cases spelled with
    | unsigned numeral =>
        cases numeral with
        | zero =>
            cases isFirst
            exact absurd listed (by decide)
        | positive digit =>
            cases isFirst
            rw [(noDigit _ listed).1] at digit
            cases digit
    | negative =>
        cases isFirst
        exact (noDigit _ listed).2 rfl
  rcases (Spells.integer spelled).exists_first with ⟨first, more, rfl, _⟩
  have notOther : ∀ other ∈ ['n', 't', 'f', '"', '[', '\x7b'],
      first ≠ other := by
    rintro other listed rfl
    exact others first listed rfl
  simp only [List.forall_mem_cons] at notOther
  rw [List.cons_append] at read ⊢
  rw [readValue?, read]
  · rfl
  all_goals
    intros
    simp_all

theorem readValue?_array {first : Char}
    (skipped : skipSpace start = first :: more) (notEnd : first ≠ ']')
    (read : readItems? fuel (skipSpace start) = some (items, rest)) :
    readValue? (fuel + 1) ('[' :: start) = some (.array items, rest) := by
  rw [skipped] at read
  rw [readValue?, skipped]
  split
  · next behind same =>
      cases same
      contradiction
  · rw [read]
    rfl

theorem readValue?_object
    (skipped : skipSpace start = '"' :: more)
    (read : readMembers? fuel (skipSpace start) = some (members, rest)) :
    readValue? (fuel + 1) ('\x7b' :: start) =
      some (.object members, rest) := by
  rw [skipped] at read
  rw [readValue?, skipped]
  simp [read]

theorem readItems?_last
    (read : readValue? fuel start = some (item, behind))
    (closes : skipSpace behind = ']' :: rest) :
    readItems? (fuel + 1) start = some ([item], rest) := by
  simp [readItems?, read, closes]

theorem readItems?_more
    (read : readValue? fuel start = some (item, behind))
    (continues : skipSpace behind = ',' :: more)
    (later : readItems? fuel (skipSpace more) = some (items, rest)) :
    readItems? (fuel + 1) start = some (item :: items, rest) := by
  simp [readItems?, read, continues, later]

/-- A member is read in front of a text, up to what stands behind it. -/
def ReadsMember (fuel : Nat) (start : List Char) (name : String)
    (value : Json) (behind : List Char) : Prop :=
  ∃ afterName content, readText? start = some (name, afterName) ∧
    skipSpace afterName = ':' :: content ∧
      readValue? fuel (skipSpace content) = some (value, behind)

theorem readMembers?_last (read : ReadsMember fuel start name value behind)
    (closes : skipSpace behind = '\x7d' :: rest) :
    readMembers? (fuel + 1) start = some ([(name, value)], rest) := by
  rcases read with ⟨afterName, content, named, colon, read⟩
  simp [readMembers?, named, colon, read, closes]

theorem readMembers?_more (read : ReadsMember fuel start name value behind)
    (continues : skipSpace behind = ',' :: more)
    (later : readMembers? fuel (skipSpace more) = some (members, rest)) :
    readMembers? (fuel + 1) start =
      some ((name, value) :: members, rest) := by
  rcases read with ⟨afterName, content, named, colon, read⟩
  simp [readMembers?, named, colon, read, continues, later]

end Steps

/-! ### Whole values -/

mutual

/-- A text of the grammar is read as what it stands for, whatever follows. -/
theorem Spells.readValue? : {value : Json} → {spelling : List Char} →
    Spells value spelling → (fuel : Nat) →
      2 * spelling.length ≤ fuel + 1 → (rest : List Char) →
      EndsToken rest →
        Json.readValue? (fuel + 1) (spelling ++ rest) = some (value, rest)
  | _, _, .null, _, _, _, _ => rfl
  | _, _, .isTrue, _, _, _, _ => rfl
  | _, _, .isFalse, _, _, _, _ => rfl
  | _, _, .integer spelled, fuel, _, _, ends =>
      readValue?_integer spelled ends fuel
  | _, _, .text spelled, fuel, _, rest, _ => by
      have read := readText?_append spelled rest
      cases spelled with
      | quoted =>
          rw [List.append_assoc, List.cons_append] at read ⊢
          rw [Json.readValue?, read]
          rfl
  | _, _, .emptyArray blank, fuel, _, rest, _ => by
      rw [List.append_assoc, List.cons_append, Json.readValue?,
        skipSpace_append blank]
      rfl
  | _, _, .array spelled, fuel, enough, rest, _ => by
      simp only [List.length_append, List.length_cons] at enough
      obtain ⟨less, rfl⟩ := Nat.exists_eq_add_one_of_ne_zero
        (n := fuel) (by omega)
      rcases spelled.exists_first (']' :: rest) with
        ⟨first, more, skipped, notEnd⟩
      rw [List.append_assoc, List.cons_append]
      exact readValue?_array skipped notEnd
        (spelled.readItems? less (by omega) rest)
  | _, _, .emptyObject blank, fuel, _, rest, _ => by
      rw [List.append_assoc, List.cons_append, Json.readValue?,
        skipSpace_append blank]
      rfl
  | _, _, .object spelled, fuel, enough, rest, _ => by
      simp only [List.length_append, List.length_cons] at enough
      obtain ⟨less, rfl⟩ := Nat.exists_eq_add_one_of_ne_zero
        (n := fuel) (by omega)
      rcases spelled.exists_mark ('\x7d' :: rest) with ⟨more, skipped⟩
      rw [List.append_assoc, List.cons_append]
      exact readValue?_object skipped
        (spelled.readMembers? less (by omega) rest)

theorem SpellsItems.readItems? : {items : List Json} →
    {body : List Char} → SpellsItems items body → (fuel : Nat) →
      2 * body.length ≤ fuel → (rest : List Char) →
        Json.readItems? (fuel + 1) (skipSpace (body ++ ']' :: rest)) =
          some (items, rest)
  | _, _, .last leading spelled trailing, fuel, enough, rest => by
      have notEmpty := spelled.length_pos
      simp only [List.length_append] at enough
      obtain ⟨less, rfl⟩ := Nat.exists_eq_add_one_of_ne_zero
        (n := fuel) (by omega)
      have closing : EndsToken (']' :: rest) := by simp [EndsToken]
      rw [List.append_assoc, List.append_assoc,
        spelled.skipSpace_append leading]
      apply readItems?_last
      · exact spelled.readValue? less (by omega) _
          (endsToken_append trailing closing)
      · rw [skipSpace_append trailing]
        rfl
  | _, _, .more leading spelled trailing later, fuel, enough, rest => by
      have notEmpty := spelled.length_pos
      simp only [List.length_append, List.length_cons] at enough
      obtain ⟨less, rfl⟩ := Nat.exists_eq_add_one_of_ne_zero
        (n := fuel) (by omega)
      rw [List.append_assoc, List.append_assoc, List.append_assoc,
        spelled.skipSpace_append leading]
      apply readItems?_more
      · refine spelled.readValue? less (by omega) _
          (endsToken_append trailing ?_)
        simp [EndsToken]
      · rw [skipSpace_append trailing]
        rfl
      · exact later.readItems? less (by omega) rest

theorem SpellsMembers.readMembers? : {members : List (String × Json)} →
    {body : List Char} → SpellsMembers members body → (fuel : Nat) →
      2 * body.length ≤ fuel → (rest : List Char) →
        Json.readMembers? (fuel + 1) (skipSpace (body ++ '\x7d' :: rest)) =
          some (members, rest)
  | _, _, .last leading spelled trailing, fuel, enough, rest => by
      have notEmpty := spelled.length_pos
      simp only [List.length_append] at enough
      obtain ⟨less, rfl⟩ := Nat.exists_eq_add_one_of_ne_zero
        (n := fuel) (by omega)
      have closing : EndsToken ('\x7d' :: rest) := by simp [EndsToken]
      rw [List.append_assoc, List.append_assoc,
        spelled.skipSpace_append leading]
      apply readMembers?_last
      · exact spelled.readsMember less (by omega) _
          (endsToken_append trailing closing)
      · rw [skipSpace_append trailing]
        rfl
  | _, _, .more leading spelled trailing later, fuel, enough, rest => by
      have notEmpty := spelled.length_pos
      simp only [List.length_append, List.length_cons] at enough
      obtain ⟨less, rfl⟩ := Nat.exists_eq_add_one_of_ne_zero
        (n := fuel) (by omega)
      rw [List.append_assoc, List.append_assoc, List.append_assoc,
        spelled.skipSpace_append leading]
      apply readMembers?_more
      · refine spelled.readsMember less (by omega) _
          (endsToken_append trailing ?_)
        simp [EndsToken]
      · rw [skipSpace_append trailing]
        rfl
      · exact later.readMembers? less (by omega) rest

theorem SpellsMember.readsMember : {name : String} → {value : Json} →
    {spelling : List Char} → SpellsMember name value spelling →
      (fuel : Nat) → 2 * spelling.length ≤ fuel + 1 →
      (rest : List Char) → EndsToken rest →
        ReadsMember (fuel + 1) (spelling ++ rest) name value rest
  | _, _, _, .colon named leading trailing spelled, fuel, enough, rest,
      ends => by
      rename_i before after text
      have notEmpty := spelled.length_pos
      simp only [List.length_append, List.length_cons] at enough
      refine ⟨before ++ ':' :: (after ++ (text ++ rest)),
        after ++ (text ++ rest), ?_, ?_, ?_⟩
      · have read := readText?_append named
          (before ++ ':' :: (after ++ (text ++ rest)))
        simpa using read
      · rw [skipSpace_append leading]
        rfl
      · rw [spelled.skipSpace_append trailing]
        exact spelled.readValue? fuel (by omega) rest ends

end

/-! ## Complete texts -/

/-- The reader reads every text of the grammar as what it stands for. -/
theorem IsText.read? {value : Json} {text : List Char}
    (isText : IsText value text) :
    Json.read? (String.ofList text) = some value := by
  cases isText with
  | padded leading spelled trailing =>
      rename_i before text after
      have enough : 2 * text.length ≤
          2 * (before ++ text ++ after).length + 1 := by
        simp only [List.length_append]
        omega
      have ends : EndsToken after := by
        have nothing : EndsToken [] := by simp [EndsToken]
        simpa using endsToken_append trailing nothing
      have read := spelled.readValue? _ enough after ends
      have blank : skipSpace after = [] := by
        have skipped := skipSpace_append trailing []
        rwa [List.append_nil] at skipped
      have start : skipSpace (before ++ text ++ after) = text ++ after := by
        rw [List.append_assoc, spelled.skipSpace_append leading]
      rw [Json.read?, String.toList_ofList]
      simp only [start, read]
      simp [blank]

/-- A text stands for one value at most. -/
theorem IsText.unique {first second : Json} {text : List Char}
    (ofFirst : IsText first text) (ofSecond : IsText second text) :
    first = second :=
  Option.some.inj (ofFirst.read?.symm.trans ofSecond.read?)

theorem isText_render (layout : Layout) (value : Json) :
    IsText value (value.render layout).toList := by
  have written := IsText.padded isBlank_nil (spells_print layout 0 value)
    isBlank_nil
  simpa [render] using written

theorem read?_render (layout : Layout) (value : Json) :
    read? (value.render layout) = some value := by
  simpa using (isText_render layout value).read?

end ModalKeymap.Json

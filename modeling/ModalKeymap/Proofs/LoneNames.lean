import ModalKeymap.Proofs.ChordReading
import ModalKeymap.Proofs.LayerTables

/-!
# Chords that are a key alone

A text without a separator in it is one piece, so a chord written by it has
one name, and that name is the key whether or not it is a modifier as well
(`Chord.writtenBy_singleton_iff`).  Where no modifier alias is for it, the
name stands for what it stands for as the name of a key.  So such a text is
read as a chord exactly if it is read as a key, and then as that key with no
modifiers held; the same holds of what is written behind `key:`.
-/

namespace ModalKeymap

/-! ## Names that no modifier alias is for -/

/-- No alias for a modifier is for the name that a text writes. -/
def Aliases.KeepsName (aliases : Aliases) (text : String) : Prop :=
  ∀ entry ∈ aliases.modifiers, Text.normalize entry.1 ≠ Text.normalize text

namespace Aliases.KeepsName

variable {aliases : Aliases} {text : String}

theorem resolve_eq (keeps : aliases.KeepsName text) :
    aliases.resolve text = aliases.keys.resolve (Text.normalize text) := by
  rw [resolve, AliasTable.resolve_eq_self keeps]

theorem trim (keeps : aliases.KeepsName text) :
    aliases.KeepsName (Text.trim text) := by
  intro entry listed
  rw [Text.normalize_trim]
  exact keeps entry listed

end Aliases.KeepsName

theorem Text.mem_of_mem_trim {text : String} {character : Char}
    (listed : character ∈ (trim text).toList) : character ∈ text.toList := by
  rw [toList_trim, trimmed, List.mem_reverse] at listed
  have inFront := (List.dropWhile_suffix _).subset listed
  rw [List.mem_reverse] at inFront
  exact (List.dropWhile_suffix _).subset inFront

theorem KeyCode.read?_text_eq_ok_iff {aliases : Aliases} {text : String}
    {key : KeyCode} :
    read? aliases (.text text) = .ok key ↔
      aliases.keys.resolve (Text.normalize text) = key.name :=
  read?_scalar_eq_ok_iff

namespace Chord

variable {aliases : Aliases} {expression name : String} {key : KeyCode}
  {chord : Chord}

/-! ## One name -/

theorem selectsKey_singleton_iff :
    SelectsKey [name] key ↔ name = key.name := by
  constructor
  · rintro (⟨parted, _, _⟩ | ⟨parted, _⟩)
    · have listed : key.name ∈ [name] := by simp [parted]
      exact (List.mem_singleton.mp listed).symm
    · have listed : key.name ∈ [name] := by simp [parted]
      exact (List.mem_singleton.mp listed).symm
  · rintro rfl
    by_cases named : Modifier.Named key.name
    · exact @SelectsKey.last _ _ [] rfl (List.forall_mem_singleton.mpr named)
    · exact @SelectsKey.single _ _ [] [] rfl named nofun

/-- One name writes the key that it names, and no modifier besides. -/
theorem writtenBy_singleton_iff :
    WrittenBy [name] chord ↔
      name = chord.key.name ∧ chord.modifiers = [] := by
  rw [writtenBy_iff, selectsKey_singleton_iff]
  refine and_congr_right ?_
  rintro rfl
  have none : (modifiersOf [chord.key.name]).filter
      (·.name ≠ chord.key.name) = [] := by
    rw [List.filter_eq_nil_iff]
    intro modifier listed
    have own := (mem_modifiersOf_iff.mp listed).2
    simpa using own
  rw [none]

/-- A text that is not blank and has no separator in it has one name. -/
theorem names_of_no_separator (notBlank : Text.trim expression ≠ "")
    (whole : '+' ∉ expression.toList) :
    Names plus aliases expression [aliases.resolve expression] := by
  have uncut : plus.Cuts expression.toList [expression.toList] := by
    apply Text.Separator.Cuts.whole
    rintro before _ after ⟨⟩ same
    exact whole (by simp [same])
  have visible : expression.toList.any (!Text.isBlank ·) := by
    rw [← not_isEmpty_trim, String.ofList_toList]
    simpa using notBlank
  refine ⟨_, uncut, ?_⟩
  simp [visible]

/-- As a chord, such a text is read as it is read as a key. -/
theorem read?_eq_ok_iff_of_keepsName
    (notBlank : Text.trim expression ≠ "")
    (whole : '+' ∉ expression.toList)
    (keeps : aliases.KeepsName expression) :
    read? plus aliases expression = .ok chord ↔
      ∃ key, KeyCode.read? aliases (.text expression) = .ok key ∧
        chord = ⟨key, []⟩ := by
  rw [read?_eq_ok_iff (by decide) (names_of_no_separator notBlank whole),
    writtenBy_singleton_iff, keeps.resolve_eq]
  simp only [KeyCode.read?_text_eq_ok_iff]
  constructor
  · rintro ⟨names, noModifiers⟩
    refine ⟨chord.key, names, ?_⟩
    rw [← noModifiers]
  · rintro ⟨key, names, rfl⟩
    exact ⟨names, rfl⟩

end Chord

/-- What stands behind `key:` is a chord. -/
theorem Command.read?_key_eq_ok_iff {aliases : Aliases}
    {expression : String} {command : Command}
    (notBlank : Text.trim expression ≠ "") :
    read? aliases ("key:" ++ expression) = .ok command ↔
      ∃ chord, Chord.read? Chord.plus aliases (Text.trim expression) =
          .ok chord ∧ command = press chord.key chord.modifiers := by
  have kind : Text.normalize "key" = "key" := by decide
  have parts : parts? ("key:" ++ expression) = some ("key", expression) :=
    @parts?_append "key" (by decide) expression
  simp only [read?, parts, kind, String.isEmpty_iff, notBlank, if_false,
    if_true]
  split <;> simp [*, eq_comm]

/--
A text that is not blank, has no separator in it and is no name that a
modifier alias is for is read as a chord exactly if it is read as a key, and
then as that key with no modifiers.  Behind `key:` it is read exactly in the
same case, as the command that sends the key with no modifiers.
-/
theorem Chord.key_readings_agree {aliases : Aliases} {expression : String}
    (notBlank : Text.trim expression ≠ "")
    (whole : '+' ∉ expression.toList)
    (keeps : aliases.KeepsName expression) :
    (∀ chord, read? plus aliases expression = .ok chord ↔
      ∃ key, KeyCode.read? aliases (.text expression) = .ok key ∧
        chord = ⟨key, []⟩) ∧
    ∀ command, Command.read? aliases ("key:" ++ expression) = .ok command ↔
      ∃ key, KeyCode.read? aliases (.text expression) = .ok key ∧
        command = Command.press key [] := by
  refine ⟨fun _ => read?_eq_ok_iff_of_keepsName notBlank whole keeps, ?_⟩
  intro command
  have trimmedNotBlank : Text.trim (Text.trim expression) ≠ "" := by
    rwa [Text.trim_trim]
  have trimmedWhole : '+' ∉ (Text.trim expression).toList :=
    fun listed => whole (Text.mem_of_mem_trim listed)
  have sameKey : ∀ key,
      KeyCode.read? aliases (.text (Text.trim expression)) = .ok key ↔
        KeyCode.read? aliases (.text expression) = .ok key := by
    intro key
    rw [KeyCode.read?_text_eq_ok_iff, KeyCode.read?_text_eq_ok_iff,
      Text.normalize_trim]
  simp only [Command.read?_key_eq_ok_iff notBlank,
    read?_eq_ok_iff_of_keepsName trimmedNotBlank trimmedWhole keeps.trim,
    sameKey]
  constructor
  · rintro ⟨_, ⟨key, read, rfl⟩, rfl⟩
    exact ⟨key, read, rfl⟩
  · rintro ⟨key, read, rfl⟩
    exact ⟨_, ⟨key, read, rfl⟩, rfl⟩

/-- An alias, capitals, blanks, and a key that is a modifier as well. -/
theorem Chord.key_readings_agree_on_alias :
    let aliases : Aliases :=
      { keys := [("Caps", "caps_lock")]
        modifiers := [("hyper", "left_control")] }
    let expression := " CAPS "
    Text.trim expression ≠ "" ∧ '+' ∉ expression.toList ∧
      aliases.KeepsName expression ∧
      KeyCode.read? aliases (.text expression) = .ok .capsLock ∧
      read? plus aliases expression = .ok ⟨.capsLock, []⟩ ∧
      Command.read? aliases ("key:" ++ expression) =
        .ok (Command.press .capsLock []) := by
  intro aliases expression
  have notBlank : Text.trim expression ≠ "" := by decide
  have whole : '+' ∉ expression.toList := by decide
  have keeps : aliases.KeepsName expression :=
    List.forall_mem_singleton.mpr (by decide)
  have key : KeyCode.read? aliases (.text expression) = .ok .capsLock :=
    Except.eq_ok_of_toOption (by decide)
  rcases key_readings_agree notBlank whole keeps with ⟨asChord, asCommand⟩
  exact ⟨notBlank, whole, keeps, key, (asChord _).mpr ⟨_, key, rfl⟩,
    (asCommand _).mpr ⟨_, key, rfl⟩⟩

end ModalKeymap

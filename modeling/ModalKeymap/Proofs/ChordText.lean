import ModalKeymap.Proofs.ChordReading
import ModalKeymap.Rule.Leader

/-!
# Chords written back

A chord is written with its modifiers first and its key last.  Names of keys
and of modifiers are made of few characters (`Text.isNameCharacter`), which
neither trimming nor lower case changes and among which there is no
separator, so the names of what is written are the names that it was written
with (`Chord.names_text`).  Read again they yield the same chord exactly if
that chord is canonical (`Chord.read?_text_iff`), as every chord is that was
read from whatever text under whatever aliases.
-/

namespace ModalKeymap

/-! ## The characters of names -/

namespace Text

/-- The small letters, the digits and the underscore. -/
def isNameCharacter (character : Char) : Bool :=
  let code := character.toNat
  (0x61 ≤ code && code ≤ 0x7A) || (0x30 ≤ code && code ≤ 0x39) ||
    code == 0x5F

/-- A text of such characters alone, and of one at least. -/
structure IsName (text : String) : Prop where
  notEmpty : text.toList ≠ []
  plain : ∀ character ∈ text.toList, isNameCharacter character

/-- Such a character is not blank and is its own lower-case form. -/
theorem plain_of_isNameCharacter {character : Char}
    (named : isNameCharacter character) :
    isBlank character = false ∧ Lowercase.ofChar character = [character] := by
  have every : ∀ code < 0x80, isNameCharacter (Char.ofNat code) →
      isBlank (Char.ofNat code) = false ∧
        Lowercase.ofChar (Char.ofNat code) = [Char.ofNat code] := by
    decide +kernel
  have bounded : character.toNat < 0x80 := by
    simp only [isNameCharacter, Bool.or_eq_true, Bool.and_eq_true,
      decide_eq_true_eq, beq_iff_eq] at named
    omega
  have found := every character.toNat bounded
  rw [Char.ofNat_toNat] at found
  exact found named

namespace IsName

variable {text : String} (name : IsName text)
include name

theorem not_mem (character : Char)
    (foreign : isNameCharacter character = false) :
    character ∉ text.toList := by
  intro listed
  rw [name.plain character listed] at foreign
  cases foreign

theorem any_visible : text.toList.any (!isBlank ·) := by
  rcases List.exists_mem_of_ne_nil _ name.notEmpty with ⟨character, listed⟩
  rw [List.any_eq_true]
  refine ⟨character, listed, ?_⟩
  rw [(plain_of_isNameCharacter (name.plain character listed)).1]
  rfl

/-- A name is compared as it stands. -/
theorem normalize_eq : normalize text = text := by
  have visible : ∀ character ∈ text.toList, isBlank character = false :=
    fun character listed =>
      (plain_of_isNameCharacter (name.plain character listed)).1
  have trimmed : trim text = text := by
    rw [trim, trimmed_eq_self, String.ofList_toList]
    constructor
    · exact fun character isHead =>
        visible character (List.mem_of_mem_head? isHead)
    · exact fun character isLast =>
        visible character (List.mem_of_getLast? isLast)
  have lowered : text.toList.flatMap Lowercase.ofChar = text.toList := by
    rw [List.flatMap_congr fun character listed =>
      (plain_of_isNameCharacter (name.plain character listed)).2]
    exact List.flatMap_singleton' _
  rw [normalize, trimmed, lower,
    Lowercase.following_eq_flatMap (name.not_mem 'Σ' rfl), lowered,
    String.ofList_toList]

end IsName

end Text

theorem KeyCode.isName_name (key : KeyCode) : Text.IsName key.name := by
  have every : ∀ listed ∈ all,
      listed.name.toList.all Text.isNameCharacter := by
    decide +kernel
  constructor
  · exact String.toList_eq_nil_iff.not.mpr key.name_ne_empty
  · exact List.all_eq_true.mp (every key (mem_all key))

theorem Modifier.isName_name (modifier : Modifier) :
    Text.IsName modifier.name := by
  constructor
  · cases modifier <;> decide
  · apply List.all_eq_true.mp
    cases modifier <;> decide

/-! ## Names with separators between them -/

/-- A name is cut off at the separator behind it. -/
theorem Text.Separator.Cuts.name {name : String} {rest : List Char}
    {pieces : List (List Char)} (isName : Text.IsName name)
    (later : Chord.plus.Cuts rest pieces) :
    Chord.plus.Cuts (name.toList ++ ['+'] ++ rest)
      (name.toList :: pieces) := by
  refine .first (.text "+") ?_ later
  rintro before _ after ⟨⟩ same
  by_contra early
  -- otherwise a separator would stand inside the name
  have inside : before ++ ['+'] <+: name.toList := by
    have ofWhole : before ++ ['+'] <+: name.toList ++ ['+'] ++ rest :=
      ⟨after, same.symm⟩
    rw [List.append_assoc] at ofWhole
    apply List.prefix_of_prefix_length_le ofWhole (List.prefix_append _ _)
    rw [List.length_append, List.length_singleton]
    omega
  exact isName.not_mem '+' rfl (inside.subset (by simp))

theorem Text.Separator.cuts_name {name : String}
    (isName : Text.IsName name) :
    Chord.plus.Cuts name.toList [name.toList] := by
  apply Cuts.whole
  rintro before _ after ⟨⟩ same
  exact isName.not_mem '+' rfl (by simp [same])

/-- Names joined by separators are cut into the same names. -/
theorem Text.Separator.cuts_intercalate {names : List String}
    (notEmpty : names ≠ []) (areNames : ∀ name ∈ names, Text.IsName name) :
    Chord.plus.Cuts ("+".intercalate names).toList
      (names.map String.toList) := by
  induction names with
  | nil => exact absurd rfl notEmpty
  | cons first rest ih =>
      rcases List.forall_mem_cons.mp areNames with ⟨firstIs, restAre⟩
      cases rest with
      | nil => simpa using cuts_name firstIs
      | cons second others =>
          have later := (ih (List.cons_ne_nil _ _) restAre).name firstIs
          simpa [String.intercalate_cons_cons] using later

namespace Chord

variable {chord : Chord}

/-- The names that a chord is written with. -/
def names (chord : Chord) : List String :=
  chord.modifiers.map Modifier.name ++ [chord.key.name]

theorem isName_of_mem_names {name : String} (listed : name ∈ chord.names) :
    Text.IsName name := by
  rcases List.mem_append.mp listed with ofModifier | ofKey
  · rcases List.mem_map.mp ofModifier with ⟨modifier, _, rfl⟩
    exact modifier.isName_name
  · rw [List.mem_singleton.mp ofKey]
    exact chord.key.isName_name

/-- Without aliases, what is written has the names it was written with. -/
theorem names_text (chord : Chord) :
    Names plus {} chord.text chord.names := by
  have cuts : plus.Cuts chord.text.toList (chord.names.map String.toList) :=
    Text.Separator.cuts_intercalate (List.concat_ne_nil _ _)
      fun _ => isName_of_mem_names
  refine ⟨_, cuts, ?_⟩
  have visible : ∀ piece ∈ chord.names.map String.toList,
      piece.any (!Text.isBlank ·) := by
    intro piece listed
    rcases List.mem_map.mp listed with ⟨name, member, rfl⟩
    exact (isName_of_mem_names member).any_visible
  have resolved : ∀ name ∈ chord.names,
      ({} : Aliases).resolve (String.ofList name.toList) = name := by
    intro name member
    rw [String.ofList_toList, Aliases.resolve_empty,
      (isName_of_mem_names member).normalize_eq]
  rw [List.filter_eq_self.mpr visible, List.map_map]
  exact ((List.map_congr_left resolved).trans (List.map_id _)).symm

/-! ## Canonical chords -/

/-- In a list without repetition every item occurs first where it stands. -/
theorem pairwise_idxOf_of_nodup {α : Type} [DecidableEq α] {items : List α}
    (nodup : items.Nodup) :
    items.Pairwise fun first second =>
      items.idxOf first < items.idxOf second := by
  rw [List.pairwise_iff_getElem]
  intro early late earlyBound lateBound earlier
  rwa [nodup.idxOf_getElem, nodup.idxOf_getElem]

theorem IsCanonical.selectsKey_names (canonical : chord.IsCanonical) :
    SelectsKey chord.names chord.key := by
  have modifiers : ∀ name ∈ chord.modifiers.map Modifier.name,
      Modifier.Named name := by
    intro name listed
    rcases List.mem_map.mp listed with ⟨modifier, member, rfl⟩
    exact ⟨modifier, fun same => canonical.noCatchAll (same ▸ member), rfl⟩
  by_cases keyIs : Modifier.Named chord.key.name
  · refine .last rfl (List.forall_mem_append.mpr ⟨modifiers, ?_⟩)
    exact List.forall_mem_singleton.mpr keyIs
  · refine .single rfl keyIs ?_
    rwa [List.append_nil]

theorem IsCanonical.writtenBy_names (canonical : chord.IsCanonical) :
    WrittenBy chord.names chord where
  key := canonical.selectsKey_names
  mem_modifiers_iff := by
    intro modifier
    rw [names, List.mem_append, List.mem_singleton,
      List.mem_map_of_injective fun _ _ => Modifier.name_injective]
    constructor
    · intro listed
      have notAny : modifier ≠ .any := fun same =>
        canonical.noCatchAll (same ▸ listed)
      exact ⟨notAny, .inl listed, canonical.apart modifier listed⟩
    · rintro ⟨_, listed | isKey, apart⟩
      · exact listed
      · exact absurd isKey apart
  ordered := by
    have nodup : (chord.modifiers.map Modifier.name).Nodup :=
      canonical.nodup.map fun _ _ => Modifier.name_injective
    have ordered := List.pairwise_map.mp (pairwise_idxOf_of_nodup nodup)
    refine ordered.imp_of_mem fun firstListed secondListed earlier => ?_
    rwa [names, List.idxOf_append_of_mem (List.mem_map_of_mem firstListed),
      List.idxOf_append_of_mem (List.mem_map_of_mem secondListed)]

/-- What is written is read back exactly if the chord is canonical. -/
theorem read?_text_iff :
    read? plus {} chord.text = .ok chord ↔ chord.IsCanonical := by
  rw [read?_eq_ok_iff (by decide) chord.names_text]
  exact ⟨WrittenBy.isCanonical, IsCanonical.writtenBy_names⟩

end Chord

/-- The modifiers that a trigger requires. -/
def Trigger.mandatory (trigger : Trigger) : List Modifier :=
  (trigger.modifiers.bind TriggerModifiers.mandatory).getD []

/-- The one manipulator that enters leader mode says what it waits for. -/
theorem Rule.exists_manipulator_activation (leader : String)
    (chord : Chord) :
    ∃ manipulator,
      (activation leader chord).manipulators = [manipulator] ∧
        manipulator.description =
          some (chord.text ++ " -> Activate Leader Key") ∧
        chord =
          ⟨manipulator.trigger.key, manipulator.trigger.mandatory⟩ := by
  refine ⟨_, rfl, rfl, ?_⟩
  rcases chord with ⟨key, _ | ⟨first, rest⟩⟩
  · rfl
  · rfl

/--
A chord that was read is written by the names of its modifiers and then of
its key, and read back without aliases.  So what the rule that enters leader
mode by this chord is described by reads as the key and the modifiers that
its trigger waits for.
-/
theorem Chord.reads_back {separator : Text.Separator} {aliases : Aliases}
    {expression : String} {chord : Chord}
    (read : read? separator aliases expression = .ok chord)
    (leader : String) :
    read? plus {} ("+".intercalate
        (chord.modifiers.map Modifier.name ++ [chord.key.name])) =
      .ok chord ∧
    ∃ manipulator,
      (Rule.activation leader chord).manipulators = [manipulator] ∧
      ∃ text, manipulator.description =
          some (text ++ " -> Activate Leader Key") ∧
        read? plus {} text =
          .ok ⟨manipulator.trigger.key, manipulator.trigger.mandatory⟩ := by
  have back : read? plus {} chord.text = .ok chord :=
    read?_text_iff.mpr (isCanonical_of_read? read)
  rcases Rule.exists_manipulator_activation leader chord with
    ⟨manipulator, only, described, waits⟩
  refine ⟨back, manipulator, only, chord.text, described, ?_⟩
  rw [← waits]
  exact back

/-- Modifiers under an alias, one of them twice, and a key that is one too. -/
theorem Chord.reads_back_all_modifiers :
    let aliases : Aliases :=
      { keys := [("caps", "caps_lock")]
        modifiers := [("hyper", "left_control")] }
    let chord : Chord := ⟨.capsLock, [.leftControl, .fn]⟩
    read? plus aliases "Hyper+fn+ +HYPER+Caps" = .ok chord ∧
      read? plus {} "left_control+fn+caps_lock" = .ok chord ∧
      (Rule.activation "leader" chord).manipulators.map
          Manipulator.description =
        [some "left_control+fn+caps_lock -> Activate Leader Key"] := by
  intro aliases chord
  have read : read? plus aliases "Hyper+fn+ +HYPER+Caps" = .ok chord :=
    Except.eq_ok_of_toOption (by decide +kernel)
  exact ⟨read, (reads_back read "leader").1, by decide⟩

end ModalKeymap

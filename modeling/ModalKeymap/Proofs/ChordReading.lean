import ModalKeymap.Chord
import Mathlib.Data.List.Basic
import Mathlib.Data.List.Induction
import Mathlib.Data.List.TakeWhile
import Mathlib.Data.List.Sort

/-!
# Which texts write a chord

An expression is cut into pieces at the leftmost separator, then behind it,
and so on (`Text.Separator.Cuts`); its names are what the pieces that are not
blank stand for (`Chord.Names`).  Names write a chord if one of them alone is
no modifier and is a key, or if all are modifiers and the last is also a key
(`Chord.SelectsKey`); the modifiers of the chord are the others, ordered by
where they occur first (`Chord.WrittenBy`).  Reading yields just the chord
that the names of an expression write.
-/

namespace ModalKeymap

theorem Except.eq_ok_of_toOption {ε α : Type} {result : Except ε α}
    {value : α} (found : result.toOption = some value) :
    result = .ok value := by
  cases result with
  | error fault => cases found
  | ok other => rw [Option.some.inj found]

/-! ## Pieces between separators -/

namespace Text.Separator

/-- The texts that part two pieces. -/
inductive Marks : Separator → List Char → Prop
  | blank {character : Char} (blank : isBlank character) :
      Marks .blanks [character]
  | text (separator : String) : Marks (.text separator) separator.toList

/--
A text is cut into pieces at its leftmost mark, and what is behind the mark
again, until there is no mark left.
-/
inductive Cuts (separator : Separator) :
    List Char → List (List Char) → Prop
  | whole {piece : List Char}
      (uncut : ∀ before mark after, separator.Marks mark →
        piece ≠ before ++ mark ++ after) :
      Cuts separator piece [piece]
  | first {piece mark rest : List Char} {pieces : List (List Char)}
      (isMark : separator.Marks mark)
      (leftmost : ∀ before other after, separator.Marks other →
        piece ++ mark ++ rest = before ++ other ++ after →
          piece.length ≤ before.length)
      (later : Cuts separator rest pieces) :
      Cuts separator (piece ++ mark ++ rest) (piece :: pieces)

variable {separator : Separator} {mark other rest piece : List Char}
  {pieces : List (List Char)}

theorem Marks.length_eq (isMark : separator.Marks mark)
    (otherIsMark : separator.Marks other) : mark.length = other.length := by
  cases isMark <;> cases otherIsMark <;> rfl

/-- Behind a mark in front there is one piece more, which is empty. -/
theorem Cuts.behind (isMark : separator.Marks mark)
    (later : separator.Cuts rest pieces) :
    separator.Cuts (mark ++ rest) ([] :: pieces) := by
  have cuts : separator.Cuts ([] ++ mark ++ rest) ([] :: pieces) :=
    .first isMark (fun _ _ _ _ _ => Nat.zero_le _) later
  exact cuts

/-- A character that begins no mark belongs to the first piece. -/
theorem Cuts.cons {character : Char}
    (noMark : ∀ mark, separator.Marks mark →
      ¬mark <+: character :: rest)
    (cuts : separator.Cuts rest (piece :: pieces)) :
    separator.Cuts (character :: rest) ((character :: piece) :: pieces) := by
  cases cuts with
  | whole uncut =>
      apply Cuts.whole
      intro before mark after isMark same
      cases before with
      | nil => exact noMark mark isMark ⟨after, same.symm⟩
      | cons first before =>
          rw [List.cons_append, List.cons_append, List.cons.injEq] at same
          exact uncut before mark after isMark same.2
  | @first _ mark rest _ isMark leftmost later =>
      show separator.Cuts ((character :: piece) ++ mark ++ rest) _
      refine .first isMark ?_ later
      intro before other after otherIsMark same
      cases before with
      | nil => exact absurd ⟨after, same.symm⟩ (noMark other otherIsMark)
      | cons first before =>
          rw [List.cons_append, List.cons_append, List.cons_append,
            List.cons_append, List.cons.injEq] at same
          exact Nat.succ_le_succ
            (leftmost before other after otherIsMark same.2)

/-- There is one way at most to cut a text. -/
theorem Cuts.unique {text : List Char} {others : List (List Char)}
    (cuts : separator.Cuts text pieces)
    (cutsOther : separator.Cuts text others) : pieces = others := by
  induction cuts generalizing others with
  | whole uncut =>
      cases cutsOther with
      | whole => rfl
      | first isMark => exact absurd rfl (uncut _ _ _ isMark)
  | @first piece mark rest pieces isMark leftmost later ih =>
      generalize whole : piece ++ mark ++ rest = text at cutsOther
      cases cutsOther with
      | whole uncut => exact absurd whole.symm (uncut _ _ _ isMark)
      | @first piece' mark' rest' _ isMark' leftmost' later' =>
          have sameLength : piece.length = piece'.length :=
            Nat.le_antisymm (leftmost _ _ _ isMark' whole)
              (leftmost' _ _ _ isMark whole.symm)
          rw [List.append_assoc, List.append_assoc] at whole
          rcases List.append_inj whole sameLength with ⟨rfl, behind⟩
          rcases List.append_inj behind (isMark.length_eq isMark') with
            ⟨rfl, rfl⟩
          rw [ih later']

theorem cuts_pieces {first : Char} {more : List Char}
    (isMark : separator.Marks (first :: more))
    (onlyMark : ∀ mark, separator.Marks mark → mark = first :: more)
    (text : List Char) :
    separator.Cuts text (Text.pieces first more text) := by
  fun_induction Text.pieces first more text with
  | case1 =>
      apply Cuts.whole
      intro before mark after isMark same
      rw [onlyMark mark isMark] at same
      simp at same
  | case2 character rest starts ih =>
      rcases List.isPrefixOf_iff_prefix.mp starts with ⟨tail, joined⟩
      rw [List.cons_append, List.cons.injEq] at joined
      rcases joined with ⟨rfl, rfl⟩
      rw [List.drop_left] at ih ⊢
      exact ih.behind isMark
  | case3 character rest noStart empty ih =>
      exact absurd empty (pieces_ne_nil first more rest)
  | case4 character rest noStart piece others shape ih =>
      rw [shape] at ih
      apply ih.cons
      intro mark isMark starts
      rw [onlyMark mark isMark] at starts
      exact noStart (List.isPrefixOf_iff_prefix.mpr starts)

theorem cuts_splitOnP (text : List Char) :
    blanks.Cuts text (text.splitOnP isBlank) := by
  induction text with
  | nil =>
      apply Cuts.whole
      intro before mark after isMark same
      cases isMark
      simp at same
  | cons character rest ih =>
      rw [List.splitOnP_cons_eq_if_modifyHead]
      split
      · next isMark => exact ih.behind (.blank isMark)
      · next noMark =>
          cases shape : rest.splitOnP isBlank with
          | nil => exact absurd shape (List.splitOnP_ne_nil _ _)
          | cons piece others =>
              rw [shape] at ih
              apply ih.cons
              rintro _ ⟨blank⟩ ⟨tail, same⟩
              cases same
              exact noMark blank

/-- A separator that can be used cuts every text into the pieces it has. -/
theorem exists_cuts (usable : separator ≠ .text "") (text : String) :
    ∃ pieces, separator.pieces? text = some (pieces.map String.ofList) ∧
      separator.Cuts text.toList pieces := by
  cases separator with
  | blanks => exact ⟨_, rfl, cuts_splitOnP text.toList⟩
  | text separator =>
      rw [pieces?]
      cases spelled : separator.toList with
      | nil =>
          exact absurd (congrArg _ (String.toList_eq_nil_iff.mp spelled)) usable
      | cons first more =>
          have isMark := Marks.text separator
          rw [spelled] at isMark
          refine ⟨_, rfl, cuts_pieces isMark ?_ _⟩
          rintro _ ⟨⟩
          exact spelled

end Text.Separator

/-! ## Names -/

/-- A text names a modifier that a chord can have. -/
def Modifier.Named (name : String) : Prop :=
  ∃ modifier : Modifier, modifier ≠ .any ∧ modifier.name = name

namespace Chord

/-- What the pieces of an expression that are not blank stand for. -/
def Names (separator : Text.Separator) (aliases : Aliases)
    (expression : String) (names : List String) : Prop :=
  ∃ pieces, separator.Cuts expression.toList pieces ∧
    names = (pieces.filter (·.any (!Text.isBlank ·))).map fun piece =>
      aliases.resolve (String.ofList piece)

/-- The key among names, where there is just one that they can write. -/
inductive SelectsKey (names : List String) (key : KeyCode) : Prop
  /-- All names but one are modifiers, and that one is the key. -/
  | single {before after : List String}
      (parted : names = before ++ key.name :: after)
      (noModifier : ¬Modifier.Named key.name)
      (others : ∀ name ∈ before ++ after, Modifier.Named name)
  /-- All names are modifiers, and the last one is the key too. -/
  | last {before : List String} (parted : names = before ++ [key.name])
      (modifiers : ∀ name ∈ names, Modifier.Named name)

/-- A chord of the key and the modifiers that names write. -/
structure WrittenBy (names : List String) (chord : Chord) : Prop where
  key : SelectsKey names chord.key
  mem_modifiers_iff : ∀ modifier, modifier ∈ chord.modifiers ↔
    modifier ≠ .any ∧ modifier.name ∈ names ∧
      modifier.name ≠ chord.key.name
  /-- What occurs first among the names comes first. -/
  ordered : chord.modifiers.Pairwise fun first second =>
    names.idxOf first.name < names.idxOf second.name

/-! ## What reading makes of an expression -/

variable {separator : Text.Separator} {aliases : Aliases}
  {expression name : String} {names : List String} {chord : Chord}
  {key : KeyCode} {modifier : Modifier}

/-- Trimming leaves nothing just of what is blank throughout. -/
theorem not_isEmpty_trim (piece : List Char) :
    (!(Text.trim (String.ofList piece)).isEmpty) =
      piece.any (!Text.isBlank ·) := by
  have empty : Text.trimmed piece = [] ↔
      ∀ character ∈ piece, Text.isBlank character := by
    rw [Text.trimmed, List.reverse_eq_nil_iff, List.dropWhile_eq_nil_iff]
    simp only [List.mem_reverse]
    constructor
    · intro blank
      rw [← List.dropWhile_eq_nil_iff]
      by_contra visible
      have head := List.head_dropWhile_not Text.isBlank visible
      rw [blank _ (List.head_mem visible)] at head
      cases head
    · intro blank character listed
      exact blank character ((List.dropWhile_suffix _).subset listed)
  rw [Bool.eq_iff_iff, Bool.not_eq_true', ← Bool.not_eq_true,
    String.isEmpty_iff, ← String.toList_eq_nil_iff, Text.toList_trim,
    String.toList_ofList, empty]
  simp

theorem names_iff_tokens? (usable : separator ≠ .text "") :
    Names separator aliases expression names ↔
      tokens? separator aliases expression = some names := by
  rcases Text.Separator.exists_cuts usable expression with
    ⟨pieces, listed, cuts⟩
  have read : tokens? separator aliases expression =
      some ((pieces.filter (·.any (!Text.isBlank ·))).map fun piece =>
        aliases.resolve (String.ofList piece)) := by
    simp [tokens?, listed, List.filter_map, Function.comp_def, not_isEmpty_trim]
  rw [read, Option.some.injEq]
  constructor
  · rintro ⟨others, cutsOther, rfl⟩
    rw [cuts.unique cutsOther]
  · rintro rfl
    exact ⟨pieces, cuts, rfl⟩

theorem named_iff :
    Modifier.Named name ↔ ¬(Modifier.ofChordName? name).isNone := by
  rw [Bool.not_eq_true, Option.isNone_eq_false_iff,
    Option.isSome_iff_exists]
  exact exists_congr fun modifier =>
    and_comm.trans Modifier.ofChordName?_eq_some_iff.symm

theorem keyNames_eq_nil_iff :
    keyNames names = [] ↔ ∀ name ∈ names, Modifier.Named name := by
  simp only [keyNames, List.filter_eq_nil_iff, named_iff]

theorem keyNames_eq_singleton_iff :
    keyNames names = [name] ↔ ∃ before after,
      names = before ++ name :: after ∧ ¬Modifier.Named name ∧
        ∀ other ∈ before ++ after, Modifier.Named other := by
  simp only [keyNames, List.filter_eq_cons_iff, List.filter_eq_nil_iff,
    List.forall_mem_append, named_iff, not_not]
  refine exists₂_congr fun before after => and_congr_right fun _ => ?_
  exact and_left_comm

/-! ### Modifiers -/

theorem mem_modifiersOf_iff :
    modifier ∈ modifiersOf names ↔
      modifier ≠ .any ∧ modifier.name ∈ names := by
  simp [modifiersOf, List.mem_eraseDups, Modifier.ofChordName?_eq_some_iff,
    and_comm]

/-- A name behind the others adds its modifier where that is new. -/
theorem modifiersOf_concat (names : List String) (name : String) :
    modifiersOf (names ++ [name]) = modifiersOf names ++
      (Modifier.ofChordName? name).toList.filter
        (· ∉ modifiersOf names) := by
  rw [modifiersOf, List.filterMap_append, List.eraseDups_append]
  cases found : Modifier.ofChordName? name with
  | none => simp [found, modifiersOf]
  | some modifier =>
      by_cases seen : modifier ∈ names.filterMap Modifier.ofChordName?
      all_goals
        simp only [found, modifiersOf, List.removeAll, List.filter_cons,
          List.filterMap_cons, List.filterMap_nil, List.mem_eraseDups,
          List.elem_eq_mem, Option.toList_some, seen]
        rfl

theorem pairwise_modifiersOf (names : List String) :
    (modifiersOf names).Pairwise fun first second =>
      names.idxOf first.name < names.idxOf second.name := by
  induction names using List.reverseRecOn with
  | nil => exact .nil
  | append_singleton names name ih =>
      have early : ∀ modifier ∈ modifiersOf names,
          (names ++ [name]).idxOf modifier.name =
            names.idxOf modifier.name := fun modifier listed =>
        List.idxOf_append_of_mem (mem_modifiersOf_iff.mp listed).2
      rw [modifiersOf_concat, List.pairwise_append]
      refine ⟨?_, ?_, ?_⟩
      · refine ih.imp_of_mem fun first second earlier => ?_
        rw [early _ first, early _ second]
        exact earlier
      · apply List.Pairwise.filter
        cases Modifier.ofChordName? name <;> simp
      · intro first listed second new
        rw [List.mem_filter, Option.mem_toList, decide_eq_true_iff] at new
        rcases Modifier.ofChordName?_eq_some_iff.mp new.1 with ⟨rfl, known⟩
        have absent : second.name ∉ names := fun member =>
          new.2 (mem_modifiersOf_iff.mpr ⟨known, member⟩)
        rw [early first listed, List.idxOf_append_of_notMem absent]
        have present := (mem_modifiersOf_iff.mp listed).2
        exact Nat.lt_add_right _ (List.idxOf_lt_length_of_mem present)

/-- Modifiers are determined by which they are and how they are ordered. -/
theorem eq_of_ordered {first second : List Modifier}
    (firstOrdered : first.Pairwise fun modifier later =>
      names.idxOf modifier.name < names.idxOf later.name)
    (secondOrdered : second.Pairwise fun modifier later =>
      names.idxOf modifier.name < names.idxOf later.name)
    (same : ∀ modifier, modifier ∈ first ↔ modifier ∈ second) :
    first = second := by
  have : Std.Irrefl fun modifier later : Modifier =>
      names.idxOf modifier.name < names.idxOf later.name :=
    ⟨fun _ => Nat.lt_irrefl _⟩
  have : Std.Antisymm fun modifier later : Modifier =>
      names.idxOf modifier.name < names.idxOf later.name :=
    ⟨fun _ _ earlier later => absurd later (Nat.lt_asymm earlier)⟩
  exact firstOrdered.eq_of_mem_iff secondOrdered same

/-! ### Chords -/

theorem writtenBy_iff :
    WrittenBy names chord ↔ SelectsKey names chord.key ∧ chord.modifiers =
      (modifiersOf names).filter (·.name ≠ chord.key.name) := by
  have ordered := (pairwise_modifiersOf names).filter
    (·.name ≠ chord.key.name)
  have mem_iff : ∀ modifier : Modifier,
      modifier ∈ (modifiersOf names).filter (·.name ≠ chord.key.name) ↔
        modifier ≠ .any ∧ modifier.name ∈ names ∧
          modifier.name ≠ chord.key.name := by
    simp [mem_modifiersOf_iff, and_assoc]
  constructor
  · intro written
    refine ⟨written.key, eq_of_ordered written.ordered ordered ?_⟩
    intro modifier
    rw [written.mem_modifiers_iff, mem_iff]
  · rintro ⟨key, modifiers⟩
    exact ⟨key, modifiers ▸ mem_iff, modifiers ▸ ordered⟩

/-- Which key is selected is told by the names that are no modifiers. -/
theorem selectsKey_iff :
    SelectsKey names key ↔ keyNames names = [key.name] ∨
      keyNames names = [] ∧ names.getLast? = some key.name := by
  rw [keyNames_eq_singleton_iff, keyNames_eq_nil_iff,
    List.getLast?_eq_some_iff]
  constructor
  · rintro (⟨parted, noModifier, others⟩ | ⟨parted, modifiers⟩)
    · exact .inl ⟨_, _, parted, noModifier, others⟩
    · exact .inr ⟨modifiers, _, parted⟩
  · rintro (⟨before, after, parted, noModifier, others⟩ |
      ⟨modifiers, before, parted⟩)
    · exact .single parted noModifier others
    · exact .last parted modifiers

/-- A name that is no modifier is the name of none of the modifiers. -/
theorem filter_modifiersOf_of_single (single : keyNames names = [name]) :
    (modifiersOf names).filter (·.name ≠ name) = modifiersOf names := by
  rcases keyNames_eq_singleton_iff.mp single with ⟨_, _, _, noModifier, _⟩
  rw [List.filter_eq_self]
  intro modifier listed
  apply decide_eq_true
  rintro rfl
  exact noModifier ⟨modifier, (mem_modifiersOf_iff.mp listed).1, rfl⟩

theorem SelectsKey.ofTokens? (selects : SelectsKey names key)
    (expression : String) :
    Chord.ofTokens? expression names =
      .ok ⟨key, (modifiersOf names).filter (·.name ≠ key.name)⟩ := by
  rcases selectsKey_iff.mp selects with single | ⟨none, isLast⟩
  · simp only [Chord.ofTokens?, single, KeyCode.ofName?_name,
      filter_modifiersOf_of_single single]
  · simp only [Chord.ofTokens?, none, isLast, Option.bind_some,
      KeyCode.ofName?_name]

theorem selectsKey_of_ofTokens?
    (read : ofTokens? expression names = .ok chord) :
    SelectsKey names chord.key := by
  rw [selectsKey_iff]
  unfold ofTokens? at read
  split at read
  · next none =>
      split at read
      · next key found =>
          cases read
          rcases Option.bind_eq_some_iff.mp found with ⟨name, isLast, known⟩
          rw [KeyCode.name_of_ofName? known]
          exact .inr ⟨none, isLast⟩
      · cases read
  · next name single =>
      split at read
      · next key known =>
          cases read
          rw [KeyCode.name_of_ofName? known]
          exact .inl single
      · cases read
  · cases read

theorem ofTokens?_eq_ok_iff (expression : String) :
    ofTokens? expression names = .ok chord ↔ WrittenBy names chord := by
  rw [writtenBy_iff]
  constructor
  · intro read
    have selects := selectsKey_of_ofTokens? read
    rw [selects.ofTokens? expression] at read
    exact ⟨selects, congrArg modifiers (Except.ok.inj read).symm⟩
  · rintro ⟨selects, others⟩
    rw [selects.ofTokens? expression, ← others]

/-- What is read is the chord that the names of the expression write. -/
theorem read?_eq_ok_iff (usable : separator ≠ .text "")
    (named : Names separator aliases expression names) :
    read? separator aliases expression = .ok chord ↔
      WrittenBy names chord := by
  rw [← ofTokens?_eq_ok_iff expression, read?,
    (names_iff_tokens? usable).mp named]
  clear named
  match names with
  | [] => simp [ofTokens?, keyNames]
  | first :: rest => rfl

/-- Each modifier once, none that stands for all, and not the key. -/
structure IsCanonical (chord : Chord) : Prop where
  noCatchAll : .any ∉ chord.modifiers
  nodup : chord.modifiers.Nodup
  apart : ∀ modifier ∈ chord.modifiers, modifier.name ≠ chord.key.name

theorem WrittenBy.isCanonical (written : WrittenBy names chord) :
    chord.IsCanonical where
  noCatchAll listed := ((written.mem_modifiers_iff _).mp listed).1 rfl
  nodup := written.ordered.imp fun earlier same => by
    rw [same] at earlier
    exact Nat.lt_irrefl _ earlier
  apart modifier listed :=
    ((written.mem_modifiers_iff modifier).mp listed).2.2

theorem exists_names (usable : separator ≠ .text "") (aliases : Aliases)
    (expression : String) : ∃ names, ∀ others,
      Names separator aliases expression others ↔ others = names := by
  rcases Text.Separator.exists_cuts usable expression with ⟨pieces, _, cuts⟩
  have named : ∃ names, tokens? separator aliases expression = some names :=
    ⟨_, (names_iff_tokens? usable).mp ⟨pieces, cuts, rfl⟩⟩
  rcases named with ⟨names, listed⟩
  refine ⟨names, fun others => ?_⟩
  rw [names_iff_tokens? usable, listed, Option.some.injEq, eq_comm]

/-- Every chord that is read from some text is canonical. -/
theorem isCanonical_of_read?
    (read : read? separator aliases expression = .ok chord) :
    chord.IsCanonical := by
  have usable : separator ≠ .text "" := by
    rintro rfl
    cases read
  rcases exists_names usable aliases expression with ⟨names, unique⟩
  have named := (unique names).mpr rfl
  exact ((read?_eq_ok_iff usable named).mp read).isCanonical

/--
An expression has one list of names, and reading yields just the chord that
they write, which they do exactly if there are names and they select a key.
No chord that names write has a modifier twice, the catch-all, or its own key
among its modifiers.
-/
theorem reads_language (usable : separator ≠ .text "") (aliases : Aliases)
    (expression : String) :
    ∃ names,
      (∀ others, Names separator aliases expression others ↔
        others = names) ∧
      ((∃ chord, read? separator aliases expression = .ok chord) ↔
        names ≠ [] ∧ ∃ key, SelectsKey names key) ∧
      (∀ chord, read? separator aliases expression = .ok chord ↔
        WrittenBy names chord) ∧
      ∀ chord, WrittenBy names chord → chord.IsCanonical := by
  rcases exists_names usable aliases expression with ⟨names, unique⟩
  have reads : ∀ chord, read? separator aliases expression = .ok chord ↔
      WrittenBy names chord := fun chord =>
    read?_eq_ok_iff usable ((unique names).mpr rfl)
  refine ⟨names, unique, ?_, reads, fun _ => WrittenBy.isCanonical⟩
  constructor
  · rintro ⟨chord, read⟩
    have selects := ((reads chord).mp read).key
    refine ⟨?_, _, selects⟩
    rcases selects with ⟨parted, _, _⟩ | ⟨parted, _⟩
    all_goals simp [parted]
  · rintro ⟨_, key, selects⟩
    let chord : Chord :=
      ⟨key, (modifiersOf names).filter (·.name ≠ key.name)⟩
    exact ⟨chord, (reads chord).mpr (writtenBy_iff.mpr ⟨selects, rfl⟩)⟩

/--
A modifier that is written twice, under an alias and in capitals, a blank
piece, and a last name that is a modifier like all others and thus the key.
-/
theorem reads_language_all_modifiers :
    let aliases : Aliases :=
      { keys := [("caps", "caps_lock")]
        modifiers := [("hyper", "left_control")] }
    let expression := "Hyper+fn+ +HYPER+Caps"
    let names := ["left_control", "fn", "left_control", "caps_lock"]
    let chord : Chord := ⟨.capsLock, [.leftControl, .fn]⟩
    plus ≠ .text "" ∧ Names plus aliases expression names ∧
      (read? plus aliases expression).toOption = some chord ∧
      WrittenBy names chord ∧ chord.IsCanonical := by
  intro aliases expression names chord
  have usable : plus ≠ .text "" := by decide
  have named : Names plus aliases expression names :=
    (names_iff_tokens? usable).mpr (by decide +kernel)
  have read : (read? plus aliases expression).toOption = some chord := by
    decide +kernel
  rcases reads_language usable aliases expression with
    ⟨others, unique, _, reads, canonical⟩
  rcases (unique names).mp named with rfl
  have written := (reads chord).mp (Except.eq_ok_of_toOption read)
  exact ⟨usable, named, read, written, canonical chord written⟩

end Chord

end ModalKeymap

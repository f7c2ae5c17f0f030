import ModalKeymap.Command.Expression
import ModalKeymap.Text.ShellWord
import Mathlib.Algebra.Ring.Parity
import Mathlib.Data.List.Count

/-!
# The words of commands that open applications

Quotes in a command open and close in turn, so it has words exactly if their
number is even (`Text.isSome_shellWords?_iff`).  What stands between two of
them is taken as it is, whatever else it holds
(`Text.shellWordsFrom?_quoted`), but no word ever has a quote in it
(`Text.not_mem_of_mem_shellWords?`).  The command that opens an application
puts its name between quotes as it stands; so the name arrives as one word
exactly if there is no quote in it (`Command.app_name_is_one_word_iff`).
-/

namespace ModalKeymap

namespace Text

/-! ## Quotes and words -/

variable {quoted : Bool} {word : Option (List Char)}
  {characters rest stretch : List Char} {words : List (List Char)}

/-- Inside quotes everything up to the next quote is added to the word. -/
theorem shellWordsFrom?_quoted (begun : List Char)
    (literal : '\'' ∉ stretch) :
    shellWordsFrom? true (some begun) (stretch ++ rest) =
      shellWordsFrom? true (some (begun ++ stretch)) rest := by
  induction stretch generalizing begun with
  | nil => simp
  | cons character others ih =>
      rcases not_or.mp (List.mem_cons.not.mp literal) with
        ⟨other, following⟩
      rw [List.cons_append, shellWordsFrom?, if_neg (Ne.symm other),
        if_neg (by simp), ih _ following, Option.getD_some,
        List.append_assoc, List.singleton_append]

theorem not_mem_of_shellWordsFrom?
    (split : shellWordsFrom? quoted word characters = some words)
    (begun : ∀ part ∈ word, '\'' ∉ part) :
    ∀ part ∈ words, '\'' ∉ part := by
  have grown (character : Char) (other : character ≠ '\'')
      (word : Option (List Char)) (begun : ∀ part ∈ word, '\'' ∉ part) :
      ∀ part ∈ some (word.getD [] ++ [character]), '\'' ∉ part := by
    cases word <;> simp_all [Ne.symm other]
  fun_induction shellWordsFrom? quoted word characters
    generalizing words with
  | case1 => cases split
  | case2 quoted word closed =>
      cases split
      simpa using begun
  | case3 quoted word rest ih =>
      apply ih split
      cases word <;> simp_all
  | case4 quoted word character rest other isBreak ih =>
      rcases Option.map_eq_some_iff.mp split with ⟨later, laterSplit, rfl⟩
      rw [List.forall_mem_append]
      exact ⟨by simpa using begun, ih laterSplit nofun⟩
  | case5 quoted word character rest other taken ih =>
      exact ih split (grown character other word begun)

/-- Each quote opens a stretch or closes the one that is open. -/
theorem isSome_shellWordsFrom?_iff :
    (shellWordsFrom? quoted word characters).isSome ↔
      Even (characters.count '\'' + quoted.toNat) := by
  fun_induction shellWordsFrom? quoted word characters with
  | case1 => simp
  | case2 quoted word closed => simp_all
  | case3 quoted word rest ih =>
      rw [ih, List.count_cons_self]
      cases quoted <;> simp [Nat.even_add_one]
  | case4 quoted word character rest other isBreak ih =>
      have closed : quoted = false := by simp_all
      rw [Option.isSome_map, ih, closed, List.count_cons_of_ne other]
  | case5 quoted word character rest other taken ih =>
      rw [ih, List.count_cons_of_ne other]

variable {command : String}

/-- A command has words exactly if its quotes pair up. -/
theorem isSome_shellWords?_iff :
    (shellWords? command).isSome ↔ Even (command.toList.count '\'') := by
  rw [shellWords?, Option.isSome_map, isSome_shellWordsFrom?_iff]
  rfl

theorem not_mem_of_mem_shellWords? {words : List String}
    (split : shellWords? command = some words) :
    ∀ word ∈ words, '\'' ∉ word.toList := by
  rcases Option.map_eq_some_iff.mp split with ⟨lists, listSplit, rfl⟩
  rw [List.forall_mem_map]
  simpa using not_mem_of_shellWordsFrom? listSplit nofun

end Text

namespace Command

/-! ## Opening an application -/

/-- The line that opens a target with `-a`, the target between quotes. -/
def launchLine (target : String) : String :=
  "open -a '" ++ target ++ "'"

theorem toList_launchLine (target : String) :
    (launchLine target).toList =
      "open -a '".toList ++ (target.toList ++ ['\'']) := by
  simp [launchLine]

theorem effects_launch (application : String) :
    (launch application).effects =
      [.shell (launchLine (application ++ ".app"))] := by
  have spelled : "open " ++ ("-a '" ++ application ++ ".app'") =
      launchLine (application ++ ".app") := by
    rw [← String.toList_inj]
    simp [launchLine]
  rw [launch, openTarget, run, spelled]

theorem shellWords?_launchLine {target : String}
    (literal : '\'' ∉ target.toList) :
    Text.shellWords? (launchLine target) = some ["open", "-a", target] := by
  have front (rest : List Char) :
      Text.shellWordsFrom? false none ("open -a '".toList ++ rest) =
        (Text.shellWordsFrom? true (some []) rest).map
          (["open".toList, "-a".toList] ++ ·) := by
    simp [Text.shellWordsFrom?, Text.isWordBreak, Function.comp_def]
  rw [Text.shellWords?, toList_launchLine, front,
    Text.shellWordsFrom?_quoted _ literal]
  simp [Text.shellWordsFrom?]

theorem shellWords?_launchLine_iff {target : String} :
    Text.shellWords? (launchLine target) = some ["open", "-a", target] ↔
      '\'' ∉ target.toList := by
  constructor
  · intro split
    exact Text.not_mem_of_mem_shellWords? split target (by simp)
  · exact shellWords?_launchLine

theorem shellWords?_launchLine_eq_none_iff {target : String} :
    Text.shellWords? (launchLine target) = none ↔
      Odd (target.toList.count '\'') := by
  have quotes : (launchLine target).toList.count '\'' =
      target.toList.count '\'' + 1 + 1 := by
    rw [toList_launchLine, List.count_append, List.count_append]
    have front : "open -a '".toList.count '\'' = 1 := by decide
    rw [front, List.count_singleton_self]
    omega
  rw [← Option.not_isSome_iff_eq_none, Text.isSome_shellWords?_iff, quotes,
    Nat.even_add_one, Nat.even_add_one, not_not, Nat.not_even_iff_odd]

/-- What stands behind `app:` is the name of an application. -/
theorem read?_app {name : String} (aliases : Aliases)
    (notEmpty : name ≠ "") (trimmed : Text.trim name = name) :
    read? aliases ("app:" ++ name) = .ok (launch name) := by
  have kind : Text.normalize "app" = "app" := by decide
  have parts : parts? ("app:" ++ name) = some ("app", name) :=
    @parts?_append "app" (by decide) name
  simp [read?, parts, kind, trimmed, notEmpty, ofKind?]

/--
Behind `app:`, a name that is not empty and has no blanks around it is read as
a command that runs one line.  The words of that line are `open`, `-a` and the
name followed by `.app` exactly if there is no quote in the name.  Otherwise
the words are others, or, where the number of quotes is odd, there are none,
for one quote stays open.
-/
theorem app_name_is_one_word_iff {name : String} (notEmpty : name ≠ "")
    (trimmed : Text.trim name = name) (aliases : Aliases) :
    ∃ command line, read? aliases ("app:" ++ name) = .ok command ∧
      command.effects = [.shell line] ∧
      (Text.shellWords? line = some ["open", "-a", name ++ ".app"] ↔
        '\'' ∉ name.toList) ∧
      (Text.shellWords? line = none ↔
        Odd (name.toList.count '\'')) := by
  have noQuote : '\'' ∉ ".app".toList := by decide
  refine ⟨launch name, launchLine (name ++ ".app"),
    read?_app aliases notEmpty trimmed, effects_launch name, ?_, ?_⟩
  · rw [shellWords?_launchLine_iff, String.toList_append,
      List.mem_append, or_iff_left noQuote]
  · rw [shellWords?_launchLine_eq_none_iff, String.toList_append,
      List.count_append, List.count_eq_zero.mpr noQuote, Nat.add_zero]

/-- A colon, blanks, double quotes and marks that a shell acts on. -/
theorem app_name_is_one_word_with_marks :
    let name := "Arc: \"A\" & B; $HOME #1"
    name ≠ "" ∧ Text.trim name = name ∧
      ∃ command line, read? {} ("app:" ++ name) = .ok command ∧
        command.effects = [.shell line] ∧
        Text.shellWords? line = some ["open", "-a", name ++ ".app"] := by
  intro name
  have notEmpty : name ≠ "" := by decide
  have trimmed : Text.trim name = name := by decide
  rcases app_name_is_one_word_iff notEmpty trimmed {} with
    ⟨command, line, read, effects, words, _⟩
  exact ⟨notEmpty, trimmed, command, line, read, effects,
    words.mpr (by decide)⟩

/--
With one quote in the name the line has no words; with two it has, but others
than the name.
-/
theorem app_name_with_quote_is_not_one_word :
    Text.trim "Bob's" = "Bob's" ∧
      (read? {} "app:Bob's").toOption.map Command.effects =
        some [.shell "open -a 'Bob's.app'"] ∧
      Text.shellWords? "open -a 'Bob's.app'" = none ∧
    Text.trim "A' -g 'B" = "A' -g 'B" ∧
      (read? {} "app:A' -g 'B").toOption.map Command.effects =
        some [.shell "open -a 'A' -g 'B.app'"] ∧
      Text.shellWords? "open -a 'A' -g 'B.app'" =
        some ["open", "-a", "A", "-g", "B.app"] := by
  decide

end Command

end ModalKeymap

/-!
# Words of a shell command

How a POSIX shell splits a command into words, as far as blanks and single
quotes go: unquoted blanks separate words, everything between two single
quotes is taken as it stands, and a quote that is not closed is an error.
-/

namespace ModalKeymap.Text

/-- A character that separates words of a command. -/
def isWordBreak (character : Char) : Bool :=
  character = ' ' || character = '\t' || character = '\n'

/--
The words of a command, given whether a quote is open and the part of the
current word that has been read, if a word has begun.
-/
def shellWordsFrom? (quoted : Bool) (word : Option (List Char)) :
    List Char → Option (List (List Char))
  | [] => if quoted then none else some word.toList
  | character :: rest =>
      if character = '\'' then
        shellWordsFrom? (!quoted) (some (word.getD [])) rest
      else if !quoted && isWordBreak character then
        (shellWordsFrom? false none rest).map (word.toList ++ ·)
      else
        shellWordsFrom? quoted (some (word.getD [] ++ [character])) rest

/-- The words of a command, if every quote is closed. -/
def shellWords? (command : String) : Option (List String) :=
  (shellWordsFrom? false none command.toList).map fun words =>
    words.map String.ofList

example : shellWords? "open  -a 'a b'c" = some ["open", "-a", "a bc"] :=
  rfl

example : shellWords? "echo ''" = some ["echo", ""] := rfl

example : shellWords? "it's" = none := rfl

end ModalKeymap.Text

import ModalKeymap.Text.DecimalDigit
import ModalKeymap.Text.IntegerText
import ModalKeymap.Text.Pieces

/-!
# Arguments of the command line

The program takes two arguments, the settings file and the document file, and
three options.  Options may stand anywhere before a `--`, may be abbreviated
as long as they stay unambiguous, and take their value from behind an equals
sign or from the next argument; short options may share one dash.  Things
that look like negative numbers, and things with a space, are arguments.
-/

namespace ModalKeymap.CommandLine

/-- The options of the program. -/
inductive Switch where
  | help
  | indent
  | verbose
  deriving DecidableEq, Repr

/-- Whether an option has a value. -/
def Switch.takesValue : Switch → Bool
  | .indent => true
  | _ => false

/-- Every spelling of every option. -/
def spellings : List (String × Switch) :=
  [("-h", .help), ("--help", .help), ("--indent", .indent),
    ("-v", .verbose), ("--verbose", .verbose)]

/-- An argument as it looks on its own. -/
inductive Token where
  | argument (text : String)
  /-- The `--` that ends the options. -/
  | marker
  /-- An option, and what stands behind it in the same argument. -/
  | option (switch : Switch) (isShort : Bool) (attached : Option (List Char))
  | unknownOption
  deriving DecidableEq, Repr

/-- Whether an argument looks like a negative number. -/
def looksNegative (text : List Char) : Bool :=
  let isDigit := fun character => (Text.decimalDigit? character).isSome
  match text with
  | '-' :: rest =>
      let body := if rest.getLast? = some '\n' then rest.dropLast else rest
      match body.dropWhile isDigit with
      | [] => !body.isEmpty
      | '.' :: fraction => !fraction.isEmpty && fraction.all isDigit
      | _ => false
  | _ => false

/-- The option tokens that an argument may be read as. -/
def candidates (text : List Char) : List Token :=
  match text with
  | '-' :: '-' :: _ =>
      let parts := Text.cutAt? '=' text
      let name := (parts.map Prod.fst).getD text
      (spellings.filter fun spelling =>
        name.isPrefixOf spelling.1.toList).map fun spelling =>
          .option spelling.2 (spelling.1.length = 2) (parts.map Prod.snd)
  | '-' :: letter :: rest =>
      spellings.filterMap fun spelling =>
        if spelling.1.toList = ['-', letter] then
          some (.option spelling.2 true (some rest))
        else if text.isPrefixOf spelling.1.toList then
          some (.option spelling.2 (spelling.1.length = 2) none)
        else
          none
  | _ => []

/-- How an argument before any `--` is read; none if it is ambiguous. -/
def classify? (argument : String) : Option Token :=
  let text := argument.toList
  let exactly := fun name => (spellings.find? fun spelling =>
    spelling.1.toList = name).map fun spelling =>
      (spelling.2, decide (spelling.1.length = 2))
  if text.head? ≠ some '-' then
    some (.argument argument)
  else
    match exactly text with
    | some (switch, isShort) => some (.option switch isShort none)
    | none =>
        if text.length = 1 then
          some (.argument argument)
        else
          let named := (Text.cutAt? '=' text).bind fun parts =>
            (exactly parts.1).map fun found => (found, parts.2)
          match named with
          | some ((switch, isShort), value) =>
              some (.option switch isShort (some value))
          | none =>
              match candidates text with
              | [token] => some token
              | _ :: _ :: _ => none
              | [] =>
                  if looksNegative text || text.contains ' ' then
                    some (.argument argument)
                  else
                    some .unknownOption

/-- The tokens of a list of arguments; none if one is ambiguous. -/
def tokens? : List String → Option (List Token)
  | [] => some []
  | "--" :: rest => some (.marker :: rest.map .argument)
  | argument :: rest => do
      let token ← classify? argument
      return token :: (← tokens? rest)

/-- Why the arguments do not start a run. -/
inductive Exit where
  | help
  | usage
  deriving DecidableEq, Repr

/-- The exit code of a program that does not run. -/
def Exit.code : Exit → Nat
  | .help => 0
  | .usage => 2

/-- What the arguments have said so far. -/
structure Progress where
  /-- The arguments in order; one that was only a marker is none. -/
  arguments : List (Option String) := []
  /-- The indent; none if its value was only a marker. -/
  indent : Option Int := some 2
  verbose : Bool := false
  /-- Whether something was left over. -/
  surplus : Bool := false
  deriving DecidableEq, Repr

/-- The number of arguments that the program takes. -/
def arity : Nat := 2

/-- Carry out an option. -/
def Progress.apply (progress : Progress) (switch : Switch)
    (value : String) : Except Exit Progress :=
  match switch with
  | .help => .error .help
  | .verbose => .ok { progress with verbose := true }
  | .indent =>
      if value = "--" then
        .ok { progress with indent := none }
      else
        match Text.IntegerText.read? value with
        | some indent => .ok { progress with indent := some indent }
        | none => .error .usage

/--
The options of one argument, given the first of them and what stands behind
it: in order, each with its value.  Behind a short option without a value
there may be further letters, each of them such an option.
-/
def cluster? (switch : Switch) (isShort : Bool) (attached : List Char) :
    Option (List (Switch × String)) :=
  if switch.takesValue then
    some [(switch, String.ofList attached)]
  else if !isShort then
    none
  else
    match attached with
    | [] => none
    | letter :: rest => do
        let next ← spellings.lookup (String.ofList ['-', letter])
        let others ←
          match rest with
          | [] => some [(next, "")]
          | other :: behind => cluster? next true (other :: behind)
        return (switch, "") :: others

/-- Carry out options in order. -/
def Progress.applyAll (progress : Progress) :
    List (Switch × String) → Except Exit Progress
  | [] => .ok progress
  | (switch, value) :: rest => do
      applyAll (← progress.apply switch value) rest

/-- Whether a token is not an option. -/
def Token.isPlain : Token → Bool
  | .argument _ => true
  | .marker => true
  | _ => false

/-- The text of a plain token. -/
def Token.text : Token → String
  | .argument text => text
  | _ => "--"

/--
The tokens of one argument, with a marker on either side, and the tokens
behind them.
-/
def nextArgument? (tokens : List Token) : Option (List Token × List Token) :=
  let before := tokens.takeWhile (· = .marker)
  match tokens.dropWhile (· = .marker) with
  | .argument text :: rest =>
      some (before ++ .argument text :: rest.takeWhile (· = .marker),
        rest.dropWhile (· = .marker))
  | _ => none

/-- The argument that tokens stand for: one marker is left out. -/
def argumentOf (tokens : List Token) : Option String :=
  match (tokens.map Token.text).erase "--" with
  | [text] => some text
  | _ => none

/-- Take as many arguments as there are and as are still wanted. -/
def Progress.takeArguments (progress : Progress) (fuel : Nat)
    (tokens : List Token) : Progress × List Token :=
  match fuel with
  | 0 => (progress, tokens)
  | fuel + 1 =>
      if progress.arguments.length < arity then
        match nextArgument? tokens with
        | some (taken, rest) =>
            { progress with
              arguments := progress.arguments ++ [argumentOf taken] }
              |>.takeArguments fuel rest
        | none => (progress, tokens)
      else
        (progress, tokens)

/-- Go through the tokens, plain ones up to the next option at a time. -/
def Progress.follow (progress : Progress) (fuel : Nat)
    (tokens : List Token) : Except Exit Progress :=
  match fuel with
  | 0 => .ok progress
  | fuel + 1 =>
      let (taken, rest) := progress.takeArguments arity tokens
      let surplus := rest.takeWhile Token.isPlain
      let current :=
        { taken with surplus := taken.surplus || !surplus.isEmpty }
      match rest.dropWhile Token.isPlain with
      | .option switch isShort attached :: behind =>
          match attached with
          | none =>
              if switch.takesValue then
                match behind with
                | .argument value :: others => do
                    (← current.apply switch value).follow fuel others
                | _ => .error .usage
              else do
                (← current.apply switch "").follow fuel behind
          | some value =>
              match cluster? switch isShort value with
              | none => .error .usage
              | some options => do
                  (← current.applyAll options).follow fuel behind
      | _ :: behind => { current with surplus := true }.follow fuel behind
      | [] => .ok current

/-- What the program is asked to do. -/
structure Request where
  /-- The settings file; none if its argument was only a marker. -/
  input : Option String
  /-- The document file; none if its argument was only a marker. -/
  output : Option String
  /-- The indent; none if its value was only a marker. -/
  indent : Option Int
  verbose : Bool
  deriving DecidableEq, Repr

/-- The request that arguments make. -/
def request? (arguments : List String) : Except Exit Request :=
  match tokens? arguments with
  | none => .error .usage
  | some tokens => do
      let progress ← Progress.follow {} (tokens.length + 1) tokens
      match progress.arguments, progress.surplus with
      | [input, output], false =>
          return {
            input := input
            output := output
            indent := progress.indent
            verbose := progress.verbose }
      | _, _ => throw .usage

end ModalKeymap.CommandLine

import Clausal.CommandLine.Flag
import Clausal.Text.Whole

/-!
# Arguments

How the words of a command line become settings. Every word is judged first, before any of them takes
effect: it is a flag, perhaps with a value attached to it, or it looks like a flag and is none, or it is
plain. A word `--` makes all words after it plain. Then the words are read from left to right. The first
plain word that is not the value of a flag names the file; what nothing asked for is left over and
refused at the end, after the file has been found missing or not.

Long flags may be cut short as long as one flag is meant, and may carry a value after `=`. Short flags may
be written together, the last of them with its value. An attached value `--` is no value: the flag is
given, and nothing with it.

These are the rules of release 3.11.2 of the argument parser. Two of them changed by 3.11.10 and 3.12.3: an
attached `--` is now a value like any other, so `--variant=--` is refused as no choice, and where short flags
stand in front of a letter that is none, they take effect and the rest of the word is left over, so `-vh5`
shows the help.
-/

namespace Clausal.CommandLine

/-- Why a command line is refused. -/
inductive ArgumentFault where
  /-- A flag is cut so short that several are meant. -/
  | ambiguous (word : String) (candidates : List String)
  /-- A value is attached to a flag that takes none. -/
  | ignoredValue (flag : Flag) (value : String)
  /-- A flag lacks its value. -/
  | missingValue (flag : Flag)
  /-- A value is not among the choices. -/
  | invalidChoice (flag : Flag) (value : String) (choices : List String)
  /-- A value is neither on nor off. -/
  | notASwitch (value : String)
  /-- A value is not a whole number. -/
  | notWhole (value : String)
  /-- There is no file. -/
  | noFile
  /-- Words are left over. -/
  | leftOver (words : List String)
  /-- The timeout is negative. -/
  | negativeTimeout
deriving DecidableEq

namespace ArgumentFault

/-- The sentence that refuses a word for a switch. -/
def switchText (value : String) : String :=
  s!"expected boolean `on|true|off|false`, got `{value}`"

/-- A sentence about a flag. -/
def about (flag : Flag) (sentence : String) : String :=
  s!"argument {flag.title}: {sentence}"

/-- The sentence that reports a fault. -/
def message : ArgumentFault → String
  | ambiguous word candidates =>
    s!"ambiguous option: {word} could match " ++ ", ".intercalate candidates
  | ignoredValue flag value => about flag ("ignored explicit argument " ++ Text.quoted value)
  | missingValue flag => about flag "expected one argument"
  | invalidChoice flag value choices =>
    about flag ("invalid choice: " ++ Text.quoted value ++ " (choose from " ++
      ", ".intercalate (choices.map Text.quoted) ++ ")")
  | notASwitch value => about .check (switchText value)
  | notWhole value => about .timeout ("invalid int value: " ++ Text.quoted value)
  | noFile => "the following arguments are required: FILE"
  | leftOver words => "unrecognized arguments: " ++ " ".intercalate words
  | negativeTimeout => "timeout must be >= 0"

end ArgumentFault

/-- The truth value that a word for a switch stands for. -/
def switch? (word : String) : Option Bool :=
  if ["on", "true", "On", "True"].contains word then some true
  else if ["off", "false", "Off", "False"].contains word then some false
  else none

/-! ## Judging words -/

/-- What a word is. -/
inductive Word where
  /-- A value or a file. -/
  | plain
  /-- The word after which all words are plain. -/
  | separator
  /-- A flag under one of its spellings, and the value attached to it. -/
  | flag (flag : Flag) (long : Bool) (attached : Option String)
  /-- A word that looks like a flag and is none. -/
  | unknown
deriving DecidableEq

/-- A word cut at its first equals sign, if it has one. -/
def cutAtEquals? (word : String) : Option (String × String) :=
  let characters := word.toList
  if characters.contains '=' then
    some (String.ofList (characters.takeWhile (· ≠ '=')),
      String.ofList ((characters.dropWhile (· ≠ '=')).drop 1))
  else none

/-- The characters are digits, and there is at least one. -/
def areDigits (characters : List Char) : Bool :=
  !characters.isEmpty && characters.all Text.isDecimalDigit

/-- The list without a line end at its end. -/
def dropFinalNewline (characters : List Char) : List Char :=
  if characters.getLast? = some '\n' then characters.dropLast else characters

/-- The characters write a number without exponent, the minus sign apart. -/
def isPlainNumber (characters : List Char) : Bool :=
  let given := dropFinalNewline characters
  let fraction := given.dropWhile Text.isDecimalDigit
  areDigits given || (fraction.head? == some '.' && areDigits (fraction.drop 1))

/-- The spellings that a cut flag may stand for, with the flags. -/
def candidates (start : String) : List (String × Flag) :=
  Flag.table.filter fun entry => start.toList.isPrefixOf entry.1.toList

/-- Judges a word that starts with a minus sign, is longer than that, and is no spelling of a flag, nor
one with a value after `=`. -/
def judgeInexact (word : String) : Except ArgumentFault Word :=
  let otherwise : Except ArgumentFault Word :=
    if isPlainNumber (word.toList.drop 1) || word.toList.contains ' ' then .ok .plain
    else .ok .unknown
  match word.toList with
  | '-' :: '-' :: _ =>
    let (start, attached) : String × Option String := match cutAtEquals? word with
      | some (start, value) => (start, some value)
      | none => (word, none)
    match candidates start with
    | [] => otherwise
    | [(_, flag)] => .ok (.flag flag true attached)
    | several => .error (.ambiguous word (several.map (·.1)))
  | '-' :: letter :: rest =>
    match Flag.ofLetter? letter with
    | some flag => .ok (.flag flag false (some (String.ofList rest)))
    | none => otherwise
  | _ => .ok .plain

/-- The spelling is a long one. -/
def isLong (spelling : String) : Bool :=
  spelling.startsWith "--"

/-- Judges a word that is not the separator. -/
def judge (word : String) : Except ArgumentFault Word :=
  if !word.startsWith "-" then .ok .plain
  else match Flag.ofSpelling? word with
    | some flag => .ok (.flag flag (isLong word) none)
    | none =>
      if word = "-" then .ok .plain
      else match cutAtEquals? word with
        | none => judgeInexact word
        | some (spelling, value) =>
          match Flag.ofSpelling? spelling with
          | some flag => .ok (.flag flag (isLong spelling) (some value))
          | none => judgeInexact word

/-- Judges words in order. -/
def judgeAll : List String → Except ArgumentFault (List (String × Word))
  | [] => .ok []
  | "--" :: rest => .ok (("--", .separator) :: rest.map fun word => (word, .plain))
  | word :: rest => do
    let judged ← judge word
    return (word, judged) :: (← judgeAll rest)

/-! ## Reading words -/

/-- The flags of one word, all but the last without a value. The value attached to the last is given
with it. -/
def unbundle (flag : Flag) (long : Bool) : Option (List Char) →
    Except ArgumentFault (List Flag × Flag × Option String)
  | none => .ok ([], flag, none)
  | some value =>
    if flag.takesValue then .ok ([], flag, some (String.ofList value))
    else match long, value with
      | false, letter :: rest =>
        match Flag.ofLetter? letter with
        | none => .error (.ignoredValue flag (String.ofList value))
        | some next =>
          match rest with
          | [] => .ok ([flag], next, none)
          | other :: others => do
            let (front, last, attached) ← unbundle next false (some (other :: others))
            return (flag :: front, last, attached)
      | _, _ => .error (.ignoredValue flag (String.ofList value))

/-- What has been read so far. -/
structure Progress where
  /-- The file, once it has been named. -/
  file : Option String
  /-- The settings so far; their file is not looked at, nor is their timeout. -/
  settings : Settings
  /-- The timeout so far, which may be negative. -/
  timeout : Option (Given Int)
  /-- The words left over, latest first. -/
  leftOver : List String

namespace Progress

/-- Nothing has been read. -/
def start : Progress where
  file := none
  settings := ⟨"", 0, .value (.one .cdcl), .value .ordered, .value .watched, none, .value false, none,
    false⟩
  timeout := none
  leftOver := []

/-- The progress with changed settings. -/
def adjust (progress : Progress) (change : Settings → Settings) : Progress :=
  { progress with settings := change progress.settings }

/-- The file is named, or the word is left over when there is one already. -/
def takePlain (progress : Progress) (word : String) : Progress :=
  if progress.file.isNone then { progress with file := some word }
  else { progress with leftOver := word :: progress.leftOver }

/-- The word is left over. -/
def leave (progress : Progress) (word : String) : Progress :=
  { progress with leftOver := word :: progress.leftOver }

end Progress

/-- Why reading stops before the last word. -/
inductive Stop where
  /-- Help was asked for. -/
  | help
  /-- The command line is refused. -/
  | refused (fault : ArgumentFault)
  /-- The flag of the timeout was given without a value, which has no place among the numbers. -/
  | timeoutWithoutValue
deriving DecidableEq

/-- The choice that a value names. -/
def choose {α : Type} (flag : Flag) (name : α → String) (choices : List α) (value : String) :
    Except Stop α :=
  match choices.find? fun choice => name choice == value with
  | some choice => .ok choice
  | none => .error (.refused (.invalidChoice flag value (choices.map name)))

/-- Lets a flag without a value take effect. A flag that wants one changes nothing. -/
def applyFlag (progress : Progress) : Flag → Except Stop Progress
  | .help => .error .help
  | .verbose => .ok (progress.adjust fun settings =>
      { settings with verbosity := settings.verbosity + 1 })
  | .model => .ok (progress.adjust fun settings => { settings with showModel := true })
  | _ => .ok progress

/-- Reads the value of a flag, unless it is the word that ends the flags. -/
def given {α : Type} (read : String → Except Stop α) (value : String) : Except Stop (Given α) :=
  if value = "--" then .ok .nothing else (read value).map .value

/-- The truth value of a switch. -/
def switchValue (value : String) : Except Stop Bool :=
  match switch? value with
  | some on => .ok on
  | none => .error (.refused (.notASwitch value))

/-- The milliseconds of a timeout. -/
def timeoutValue (value : String) : Except Stop Int :=
  match Text.wholeNumber? value with
  | some milliseconds => .ok milliseconds
  | none => .error (.refused (.notWhole value))

/-- Lets a flag with a value take effect. -/
def applyValue (progress : Progress) (flag : Flag) (value : String) : Except Stop Progress :=
  match flag with
  | .variant => do
    let choice ← given (choose flag VariantChoice.name VariantChoice.choices) value
    return progress.adjust fun settings => { settings with variant := choice }
  | .strategy => do
    let choice ← given (choose flag Strategy.name Strategy.all) value
    return progress.adjust fun settings => { settings with strategy := choice }
  | .propagation => do
    let choice ← given (choose flag Propagation.name Propagation.all) value
    return progress.adjust fun settings => { settings with propagation := choice }
  | .expect => do
    let choice ← given (choose flag Expectation.name [.sat, .unsat]) value
    return progress.adjust fun settings => { settings with expect := some choice }
  | .check => do
    let choice ← given switchValue value
    return progress.adjust fun settings => { settings with check := choice }
  | .timeout => do
    let choice ← given timeoutValue value
    return { progress with timeout := some choice }
  | .help | .verbose | .model => applyFlag progress flag

/-- Reads judged words from left to right. -/
def readWords (progress : Progress) : List (String × Word) → Except Stop Progress
  | [] => .ok progress
  | (word, .plain) :: (mark, .separator) :: rest =>
    if progress.file.isNone then readWords (progress.takePlain word) rest
    else readWords ((progress.leave word).leave mark) rest
  | (word, .plain) :: rest => readWords (progress.takePlain word) rest
  | (mark, .separator) :: (word, .plain) :: rest =>
    if progress.file.isNone then readWords (progress.takePlain word) rest
    else readWords ((progress.leave mark).leave word) rest
  | (mark, .separator) :: rest => readWords (progress.leave mark) rest
  | (word, .unknown) :: rest => readWords (progress.leave word) rest
  | (_, .flag flag long attached) :: rest =>
    match unbundle flag long (attached.map String.toList) with
    | .error fault => .error (.refused fault)
    | .ok (front, last, value) =>
      if !last.takesValue then do
        let applied ← (front ++ [last]).foldlM applyFlag progress
        readWords applied rest
      else match value with
        | some given => do
          let applied ← front.foldlM applyFlag progress
          readWords (← applyValue applied last given) rest
        | none =>
          match rest with
          | (given, .plain) :: others => do
            let applied ← front.foldlM applyFlag progress
            readWords (← applyValue applied last given) others
          | _ => .error (.refused (.missingValue last))

/-- The settings of what has been read. -/
def settle (progress : Progress) : Except Stop Settings :=
  match progress.file with
  | none => .error (.refused .noFile)
  | some file =>
    if !progress.leftOver.isEmpty then
      .error (.refused (.leftOver progress.leftOver.reverse))
    else match progress.timeout with
      | none => .ok { progress.settings with file := file, timeout := none }
      | some .nothing => .error .timeoutWithoutValue
      | some (.value milliseconds) =>
        if milliseconds < 0 then .error (.refused .negativeTimeout)
        else .ok { progress.settings with file := file, timeout := some milliseconds.toNat }

/-- The settings that a command line asks for, by the rules of release 3.11.2. -/
def readArguments (words : List String) : Except Stop Settings :=
  match judgeAll words with
  | .error fault => .error (.refused fault)
  | .ok judged => readWords .start judged >>= settle

end Clausal.CommandLine

import Carryover.Entries
import Carryover.Text.Digit

/-!
# Words of a command line

A command takes a fixed number of values, and options that take a value each. Every command also
has the options `-h` and `--help`, which ask for help.

| word | taken as |
| --- | --- |
| the first `--` | the stop: every word after it is a value |
| one without a leading `-`, `-` alone, a negative number | a value |
| an option, or the beginning of one option alone, and a text after `=` | the option |
| `-h` and more letters | a question for help |
| the beginning of two options | refused |
| any other one with a space | a value |
| any other one | an option that is not known |

The value of an option is the text after `=`, or the next word. An option given twice has the
value given last. The values and the options come in any order.
-/

namespace Carryover
namespace Command

/-- A word of a command line. -/
inductive Word where
  | value (text : String)
  | stop
  | option (name : String) (attached : Option String)
  /-- A question for help, which is well formed or not. -/
  | help (wellFormed : Bool)
  | unknown
  deriving DecidableEq

/-- Whether a word without its `-` is a number: digits, with a point among or before them. -/
def isNumeral (cs : List Char) : Bool :=
  let isDigit (c : Char) : Bool := (Text.digit? c).isSome
  let cs := if cs.getLast? = some '\n' then cs.dropLast else cs
  match cs.dropWhile isDigit with
  | [] => !cs.isEmpty
  | '.' :: decimals => !decimals.isEmpty && decimals.all isDigit
  | _ => false

/-- Whether the letters after `-h` leave it a question for help. -/
def asksForHelp : List Char → Bool
  | [] => true
  | 'h' :: rest => asksForHelp rest
  | c :: _ => c != '=' && c != '-'

/-- The option that asks for help. -/
def helpName : String := "--help"

/-- An option that is written in full or by its beginning. -/
def optionWord (name : String) (attached : Option String) : Word :=
  if name = helpName then .help attached.isNone else .option name attached

/-- The word for a text with two leading dashes, or none if it begins two options. -/
def longWord (options : List String) (text : List Char) : Option Word :=
  let name := text.takeWhile (· != '=')
  let attached := (text.drop name.length).tail?.map String.ofList
  let names := helpName :: options
  match names.find? fun o => o.toList == name with
  | some o => some (optionWord o attached)
  | none =>
    match names.filter fun o => name.isPrefixOf o.toList with
    | [o] => some (optionWord o attached)
    | [] => some (if text.contains ' ' then .value (String.ofList text) else .unknown)
    | _ => none

/-- The word for a text before the stop, or none if it is refused. -/
def wordOf (options : List String) (text : String) : Option Word :=
  match text.toList with
  | '-' :: '-' :: rest => longWord options ('-' :: '-' :: rest)
  | '-' :: 'h' :: rest => some (.help (asksForHelp rest))
  | '-' :: rest =>
    some (if rest.isEmpty || isNumeral rest || rest.contains ' ' then .value text else .unknown)
  | _ => some (.value text)

/-- The words for the texts of a command line. -/
def wordsOf (options : List String) : List String → Option (List Word)
  | [] => some []
  | t :: ts =>
    if t = "--" then some (.stop :: ts.map .value)
    else do
      let w ← wordOf options t
      let ws ← wordsOf options ts
      some (w :: ws)

/-- Why a command line is not carried out. -/
inductive Refusal where
  | help
  | misuse
  deriving DecidableEq

/-- What the word before left behind. -/
inductive Before where
  | nothing
  /-- It was a value of the command. -/
  | value
  /-- It was the stop, and no value stood before it. -/
  | stop
  /-- It was an option that waits for its value. -/
  | option (name : String)
  deriving DecidableEq

/-- What has been read of a command line. -/
structure Line where
  /-- The values so far. A value `--` that follows a stop behind another value is dropped, and
  leaves an empty place. -/
  values : List (Option String) := []
  options : Entries String String := []
  before : Before := .nothing
  /-- Whether there are words that nothing takes. -/
  hasRest : Bool := false

namespace Line

/-- Reads one more word of a command with `count` values. -/
def step (count : Nat) (l : Line) (w : Word) : Except Refusal Line :=
  match l.before, w with
  | .option name, .value text =>
    .ok { l with options := Entries.put l.options name text, before := .nothing }
  | .option _, _ => .error .misuse
  | before, .value text =>
    if count ≤ l.values.length then .ok { l with before := .nothing, hasRest := true }
    else
      let taken := if text = "--" && before ≠ .stop then none else some text
      .ok { l with values := l.values ++ [taken], before := .value }
  | .value, .stop => .ok { l with before := .nothing }
  | _, .stop =>
    .ok { l with before := .stop, hasRest := l.hasRest || decide (count ≤ l.values.length) }
  | _, .option name (some text) =>
    .ok { l with options := Entries.put l.options name text, before := .nothing }
  | _, .option name none => .ok { l with before := .option name }
  | _, .help true => .error .help
  | _, .help false => .error .misuse
  | _, .unknown => .ok { l with before := .nothing, hasRest := true }

/-- Whether a command line has all that a command with `count` values takes, and no more. -/
def isComplete (count : Nat) (l : Line) : Bool :=
  let waits := match l.before with
    | .option _ => true
    | _ => false
  l.values.length == count && !l.hasRest && !waits

end Line

/-- Reads the words of a command with `count` values and some options. -/
def readLine (count : Nat) (options : List String) (texts : List String) : Except Refusal Line :=
  match wordsOf options texts with
  | none => .error .misuse
  | some ws =>
    match ws.foldlM (Line.step count) {} with
    | .error e => .error e
    | .ok l => if l.isComplete count then .ok l else .error .misuse

end Command
end Carryover

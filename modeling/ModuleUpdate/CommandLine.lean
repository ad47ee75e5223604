import ModuleUpdate.FilePath
import ModuleUpdate.Request

namespace ModuleUpdate

/-!
# The command line

Options may stand before and behind the name of the command.  An option that takes a value is
settled only when the next option or the end is met, so a fault of its value shows there.  Of an
option given before and behind the command the later value counts; given twice on one side it is
refused.
-/

/-- Why a timeout is refused. -/
inductive TimeoutFault where
  | empty
  | notNumber (text : Text)
  | zero
  deriving Repr, DecidableEq

namespace TimeoutFault

/-- The wording of a fault. -/
def message : TimeoutFault → Text
  | empty => "empty timeout".toList
  | notNumber text => "invalid number in timeout: ".toList ++ text
  | zero => "timeout must be greater than zero".toList

end TimeoutFault

/-- Why a command line has no command to run. -/
inductive UsageError where
  | nothingGiven
  | commandMissing
  | unknownCommand
  | unknownArgument
  | invalidValue
  | repeatedOption
  | superfluousValue
  | invalidTimeout (fault : TimeoutFault)
  | helpRequested
  | versionRequested
  deriving Repr, DecidableEq

namespace UsageError

/-- The wording of an error. -/
def message : UsageError → Text
  | nothingGiven | commandMissing => "a command is missing".toList
  | unknownCommand => "unknown command".toList
  | unknownArgument => "unknown argument".toList
  | invalidValue => "an option has no valid value".toList
  | repeatedOption => "an option is given twice".toList
  | superfluousValue => "an option takes no value".toList
  | invalidTimeout fault => fault.message
  | helpRequested => "help requested".toList
  | versionRequested => "version requested".toList

end UsageError

/-- The options that take a value. -/
inductive ValueOption where
  | directory
  | proxy
  | timeout
  | payload
  deriving Repr, DecidableEq

/-- The options that take none. -/
inductive Flag where
  | verbose
  | progress
  | pretty
  deriving Repr, DecidableEq

/-- A command: a task of its own, or the one that the payload names. -/
inductive Command where
  | perform (task : Task)
  | dispatch
  deriving Repr, DecidableEq

namespace Command

/-- The command that a word names. -/
def ofName? (word : Text) : Option Command :=
  [("update-dependency-file".toList, perform .updateDependencies),
    ("get-updated-version".toList, perform .selectVersion),
    ("edit-json".toList, perform .summarize),
    ("run".toList, dispatch)].lookup word

/-- The task of a command that has one of its own. -/
def task? : Command → Option Task
  | perform task => some task
  | dispatch => none

/-- The word that asks for help. -/
def helpName : Text :=
  "help".toList

/-- A word that names a command or asks for help. -/
def isName (word : Text) : Bool :=
  word == helpName || (ofName? word).isSome

end Command

/-- The number of seconds of a timeout, in seconds or minutes. -/
def parseTimeout (text : Text) : Except TimeoutFault Nat :=
  let trimmed := Text.trim text
  if trimmed = [] then
    .error .empty
  else
    let (digits, factor) :=
      match Text.before? ['s'] trimmed, Text.before? ['m'] trimmed with
      | some seconds, _ => (seconds, 1)
      | none, some minutes => (minutes, 60)
      | none, none => (trimmed, 1)
    match Text.word? (Text.dropOpening ['+'] digits) with
    | none => .error (.notNumber digits)
    | some 0 => .error .zero
    | some number => .ok (number * factor)

/-- The options given on one side of the command's name. -/
structure Given where
  directory : Option Text := none
  proxy : Option Text := none
  timeout : Option Nat := none
  payload : Option Text := none
  verbose : Bool := false
  progress : Bool := false
  pretty : Bool := false
  deriving Repr, DecidableEq

namespace ValueOption

/-- The option that a name behind two hyphens means. -/
def ofName? (name : Text) : Option ValueOption :=
  [("dir".toList, directory), ("goproxy".toList, proxy), ("timeout".toList, timeout),
    ("args".toList, payload)].lookup name

end ValueOption

namespace Flag

/-- The flag that a name behind two hyphens means. -/
def ofName? (name : Text) : Option Flag :=
  [("verbose".toList, verbose), ("progress".toList, progress), ("pretty".toList, pretty)].lookup
    name

end Flag

namespace Given

/-- Whether an option has its value. -/
def has (given : Given) : ValueOption → Bool
  | .directory => given.directory.isSome
  | .proxy => given.proxy.isSome
  | .timeout => given.timeout.isSome
  | .payload => given.payload.isSome

/-- Give an option its value; paths must not be empty. -/
def settle
    (given : Given)
    (option : ValueOption)
    (value : Option Text) :
    Except UsageError Given :=
  match value with
  | none => .error .invalidValue
  | some text =>
      if given.has option then
        .error .repeatedOption
      else
        match option with
        | .directory =>
            if text = [] then .error .invalidValue else .ok { given with directory := text }
        | .payload =>
            if text = [] then .error .invalidValue else .ok { given with payload := text }
        | .proxy => .ok { given with proxy := text }
        | .timeout =>
            match parseTimeout text with
            | .error fault => .error (.invalidTimeout fault)
            | .ok seconds => .ok { given with timeout := seconds }

/-- Set a flag. -/
def raise (given : Given) : Flag → Except UsageError Given
  | .verbose =>
      if given.verbose then .error .repeatedOption else .ok { given with verbose := true }
  | .progress =>
      if given.progress then .error .repeatedOption else .ok { given with progress := true }
  | .pretty =>
      if given.pretty then .error .repeatedOption else .ok { given with pretty := true }

end Given

/-- The shape of a word. -/
inductive WordShape where
  | separator
  | long (name : Text) (attached : Option Text)
  | short (letter : Char)
  | plain
  deriving Repr, DecidableEq

namespace WordShape

/-- The shape of a word: behind two hyphens a name and possibly a value behind an equals sign. -/
def ofWord : Text → WordShape
  | ['-', '-'] => separator
  | '-' :: '-' :: rest =>
      let name := rest.takeWhile (· ≠ '=')
      long name (Text.after? ['='] (rest.drop name.length))
  | '-' :: letter :: _ => short letter
  | _ => plain

end WordShape

/-- One side of the command's name while it is read: an option may wait to be settled. -/
structure Side where
  isFront : Bool
  given : Given := {}
  waiting : Option (ValueOption × Option Text) := none
  deriving Repr, DecidableEq

namespace Side

/-- The options of a side once the waiting one is settled. -/
def settled (side : Side) : Except UsageError Given :=
  match side.waiting with
  | none => .ok side.given
  | some (option, value) => side.given.settle option value

/-- The option that waits for its value. -/
def expecting? (side : Side) : Option ValueOption :=
  match side.waiting with
  | some (option, none) => some option
  | _ => none

/-- Read a long option. -/
def readLong (side : Side) (name : Text) (attached : Option Text) : Except UsageError Side :=
  let request := fun (error : UsageError) =>
    if attached.isSome then
      .error .superfluousValue
    else
      match side.settled with
      | .error earlier => .error earlier
      | .ok _ => .error error
  match ValueOption.ofName? name, Flag.ofName? name with
  | some option, _ =>
      match side.settled, attached with
      | .error error, _ => .error error
      | .ok given, none => .ok { side with given, waiting := some (option, none) }
      | .ok given, some value =>
          (given.settle option value).map fun given => { side with given, waiting := none }
  | none, some flag =>
      if attached.isSome then
        .error .superfluousValue
      else
        match side.settled with
        | .error error => .error error
        | .ok given => (given.raise flag).map fun given => { side with given, waiting := none }
  | none, none =>
      if name = "help".toList then
        request .helpRequested
      else if name = "version".toList ∧ side.isFront then
        request .versionRequested
      else
        .error .unknownArgument

/-- Read a short option, which never leads on. -/
def readShort (side : Side) (letter : Char) : UsageError :=
  let request := fun (error : UsageError) =>
    match side.settled with
    | .error earlier => earlier
    | .ok _ => error
  if letter = 'h' then
    request .helpRequested
  else if letter = 'V' ∧ side.isFront then
    request .versionRequested
  else
    .unknownArgument

end Side

namespace CommandLine

/-- Read the words behind the command's name. -/
def readBack (side : Side) : List Text → Except UsageError Given
  | [] => side.settled
  | word :: following =>
      match WordShape.ofWord word with
      | .separator => if following = [] then side.settled else .error .unknownArgument
      | .long name attached =>
          match side.readLong name attached with
          | .error error => .error error
          | .ok extended => readBack extended following
      | .short letter => .error (side.readShort letter)
      | .plain =>
          match side.expecting? with
          | some option => readBack { side with waiting := some (option, some word) } following
          | none => .error .unknownArgument

/-- What the words behind the request for help ask for. -/
def readHelp : List Text → UsageError
  | [] => .helpRequested
  | [word] => if Command.isName word then .helpRequested else .unknownCommand
  | _ => .unknownCommand

/-- The options in front of a command's name, the command, and those behind it. -/
structure Reading where
  front : Given
  command : Command
  back : Given
  deriving Repr, DecidableEq

/-- Read the command's name and the words behind it; then the last option in front is settled. -/
def readCommand (side : Side) (word : Text) (following : List Text) : Except UsageError Reading :=
  if word = Command.helpName then
    .error (readHelp following)
  else
    match Command.ofName? word with
    | none => .error .unknownCommand
    | some command =>
        match readBack { isFront := false } following with
        | .error error => .error error
        | .ok back => side.settled.map fun front => { front, command, back }

/-- The error of a command line without a command. -/
def withoutCommand (proxySetting : Option Text) (side : Side) : UsageError :=
  match side.settled with
  | .error error => error
  | .ok given =>
      if given = {} ∧ proxySetting = none then .nothingGiven else .commandMissing

/-- Read all words. -/
def readFront
    (proxySetting : Option Text)
    (side : Side) :
    List Text → Except UsageError Reading
  | [] => .error (withoutCommand proxySetting side)
  | word :: following =>
      match side.expecting?, WordShape.ofWord word with
      | _, .separator =>
          match following with
          | [] => .error (withoutCommand proxySetting side)
          | next :: _ =>
              .error (if Command.isName next then .unknownArgument else .unknownCommand)
      | _, .long name attached =>
          match side.readLong name attached with
          | .error error => .error error
          | .ok extended => readFront proxySetting extended following
      | _, .short letter => .error (side.readShort letter)
      | some option, .plain =>
          readFront proxySetting { side with waiting := some (option, some word) } following
      | none, .plain => readCommand side word following

/-- The proxy setting where none is given. -/
def defaultProxy : Text :=
  "https://proxy.golang.org".toList

/-- The number of seconds after which a lookup is given up where no timeout is given. -/
def defaultTimeout : Nat :=
  30

end CommandLine

/-- A command with all its options. -/
structure Invocation where
  command : Command
  directory : Text
  proxy : Text
  timeout : Nat
  payload : Option Text
  verbose : Bool
  progress : Bool
  pretty : Bool
  deriving Repr, DecidableEq

namespace Invocation

/-- The options of both sides; those behind the command count first, then the environment. -/
def ofReading (proxySetting : Option Text) (reading : CommandLine.Reading) : Invocation :=
  let front := reading.front
  let back := reading.back
  { command := reading.command
    directory := (back.directory.or front.directory).getD FilePath.here
    proxy := ((back.proxy.or front.proxy).or proxySetting).getD CommandLine.defaultProxy
    timeout := (back.timeout.or front.timeout).getD CommandLine.defaultTimeout
    payload := back.payload.or front.payload
    verbose := front.verbose || back.verbose
    progress := front.progress || back.progress
    pretty := front.pretty || back.pretty }

/-- Read a command line; the proxy setting is what the environment holds. -/
def ofWords (proxySetting : Option Text) (words : List Text) : Except UsageError Invocation :=
  (CommandLine.readFront proxySetting { isFront := true } words).map (ofReading proxySetting)

end Invocation

end ModuleUpdate

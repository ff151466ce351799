import SwitchDialects.Text

/-!
# Arguments of the command line

A command is named by the first argument that is no option. Options have long names after two
hyphens and some have letters after one; a value follows as the next argument, after an equals sign
or, after a letter, right away. Letters without values may be joined. Two hyphens alone end the
options. No option may be given twice, and what follows an option that needs a value must not look
like an option itself.
-/

namespace SwitchDialects.Command

/-- Where the dialect of the source comes from. -/
inductive SourceChoice where
  | auto
  | ios
  | proCurve
deriving DecidableEq, Repr

inductive TargetChoice where
  | aosCx
  | proCurve
deriving DecidableEq, Repr

inductive Format where
  | text
  | json
deriving DecidableEq, Repr

inductive Request where
  | convert (input : Text) (output : Option Text) (source : SourceChoice) (target : TargetChoice)
      (profile : Option Text) (summary : Bool)
  | inspect (file : Text) (source : SourceChoice) (format : Format)
  | detect (file : Text)
deriving DecidableEq, Repr

/-- Why arguments make no request. -/
inductive Refusal where
  /-- Help was asked for. -/
  | help
  /-- The arguments are wrong. -/
  | usage
deriving DecidableEq, Repr

inductive OptionName where
  | help
  | verbose
  | output
  | source
  | target
  | profile
  | summary
  | format
deriving DecidableEq, Repr

namespace OptionName

def long : OptionName → Text
  | help => "help".toList
  | verbose => "verbose".toList
  | output => "output".toList
  | source => "from".toList
  | target => "to".toList
  | profile => "profile".toList
  | summary => "summary".toList
  | format => "format".toList

def letter? : OptionName → Option Char
  | help => some 'h'
  | verbose => some 'v'
  | output => some 'o'
  | _ => none

/-- Whether a value has to follow. -/
def takesValue : OptionName → Bool
  | help | verbose | summary => false
  | _ => true

end OptionName

def SourceChoice.ofName? (name : Text) : Option SourceChoice :=
  if name = "auto".toList then some auto
  else if name = "cisco".toList then some ios
  else if name = "hp".toList then some proCurve
  else none

def TargetChoice.ofName? (name : Text) : Option TargetChoice :=
  if name = "aruba6100".toList then some aosCx
  else if name = "hp".toList then some proCurve
  else none

def Format.ofName? (name : Text) : Option Format :=
  if name = "text".toList then some text
  else if name = "json".toList then some json
  else none

/-- Whether an option can have a value: a name it knows, or a path that is not empty. -/
def OptionName.accepts : OptionName → Text → Bool
  | output, value | profile, value => !value.isEmpty
  | source, value => (SourceChoice.ofName? value).isSome
  | target, value => (TargetChoice.ofName? value).isSome
  | format, value => (Format.ofName? value).isSome
  | help, _ | verbose, _ | summary, _ => false

/-- What an argument is, or a part of it. -/
inductive Item where
  | flag (option : OptionName)
  | setting (option : OptionName) (value : Text)
  | operand (value : Text)
  /-- Something that looks like an option and is none here. -/
  | unknown
deriving DecidableEq, Repr

/-- The items of joined letters, and the option whose value is the next argument. -/
def letterItems (known : List OptionName) : Text → List Item × Option OptionName
  | [] => ([], none)
  | c :: rest =>
    match known.find? (·.letter? == some c) with
    | none => ([.unknown], none)
    | some option =>
      if option.takesValue then
        match rest with
        | [] => ([], some option)
        | '=' :: value => ([.setting option value], none)
        | value => ([.setting option value], none)
      else
        let (items, pending) := letterItems known rest
        (.flag option :: items, pending)

def longItem (known : List OptionName) (t : Text) : List Item × Option OptionName :=
  let (name, attached) :=
    match Text.cut? '=' t with
    | some (name, value) => (name, some value)
    | none => (t, none)
  match known.find? (·.long == name), attached with
  | none, _ => ([.unknown], none)
  | some option, none =>
    if option.takesValue then ([], some option) else ([.flag option], none)
  | some option, some value =>
    if option.takesValue then ([.setting option value], none) else ([.unknown], none)

def argumentItems (known : List OptionName) : Text → List Item × Option OptionName
  | '-' :: '-' :: name => longItem known name
  | '-' :: c :: letters => letterItems known (c :: letters)
  | value => ([.operand value], none)

def looksLikeOption : Text → Bool
  | '-' :: _ :: _ => true
  | _ => false

def items (known : List OptionName) : List Text → List Item
  | [] => []
  | argument :: rest =>
    if argument = "--".toList then rest.map .operand
    else
      let (items', pending) := argumentItems known argument
      match pending, rest with
      | none, rest => items' ++ items known rest
      | some option, value :: rest =>
        if looksLikeOption value then items' ++ [.unknown]
        else items' ++ .setting option value :: items known rest
      | some _, [] => items' ++ [.unknown]

/-- What the items of a command have said so far. -/
structure Given where
  options : List (OptionName × Text) := []
  operand : Option Text := none

namespace Given

def add (given : Given) : Item → Except Refusal Given
  | .flag .help => .error .help
  | .flag option =>
    if (given.options.lookup option).isSome then .error .usage
    else .ok { given with options := (option, []) :: given.options }
  | .setting option value =>
    if (given.options.lookup option).isSome || !option.accepts value then .error .usage
    else .ok { given with options := (option, value) :: given.options }
  | .operand value =>
    if given.operand.isSome || value.isEmpty then .error .usage
    else .ok { given with operand := some value }
  | .unknown => .error .usage

def ofArguments (known : List OptionName) (arguments : List Text) : Except Refusal Given :=
  (items known arguments).foldlM add {}

def value? (given : Given) (option : OptionName) : Option Text := given.options.lookup option

def has (given : Given) (option : OptionName) : Bool := (given.value? option).isSome

/-- The one operand that every command needs. -/
def file (given : Given) : Except Refusal Text :=
  match given.operand with
  | some file => .ok file
  | none => .error .usage

def sourceChoice (given : Given) : SourceChoice :=
  ((given.value? .source).bind SourceChoice.ofName?).getD .auto

def formatChoice (given : Given) : Format :=
  ((given.value? .format).bind Format.ofName?).getD .text

def targetChoice (given : Given) : Except Refusal TargetChoice :=
  match (given.value? .target).bind TargetChoice.ofName? with
  | some target => .ok target
  | none => .error .usage

end Given

inductive Name where
  | convert
  | inspect
  | detect
deriving DecidableEq, Repr

def Name.ofText? (t : Text) : Option Name :=
  if t = "convert".toList then some convert
  else if t = "inspect".toList then some inspect
  else if t = "detect".toList then some detect
  else none

def Name.options : Name → List OptionName
  | convert => [.help, .verbose, .output, .source, .target, .profile, .summary]
  | inspect => [.help, .verbose, .source, .format]
  | detect => [.help, .verbose]

def Name.request (name : Name) (arguments : List Text) : Except Refusal Request := do
  let given ← Given.ofArguments name.options arguments
  match name with
  | convert =>
    return .convert (← given.file) (given.value? .output) given.sourceChoice
      (← given.targetChoice) (given.value? .profile) (given.has .summary)
  | inspect => return .inspect (← given.file) given.sourceChoice given.formatChoice
  | detect => return .detect (← given.file)

def helpOn : List Text → Refusal
  | [] => .help
  | [name] => if (Name.ofText? name).isSome || name = "help".toList then .help else .usage
  | _ => .usage

/-- The request that arguments make, given what the options before the command have said. -/
def requestAfter (given : Given) : List Text → Except Refusal Request
  | [] => .error .usage
  | argument :: rest =>
    match Name.ofText? argument with
    | some name => name.request rest
    | none =>
      if argument = "help".toList then .error (helpOn rest)
      else if looksLikeOption argument && argument != "--".toList then do
        let (items, _) := argumentItems [.help, .verbose] argument
        requestAfter (← items.foldlM Given.add given) rest
      else .error .usage

def request (arguments : List Text) : Except Refusal Request := requestAfter {} arguments

end SwitchDialects.Command

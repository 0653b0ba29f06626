import MessageHarvest.Text.Basic

namespace MessageHarvest.Command

inductive OptionName where
  | config
  | logLevel
  | output
  | locale
  | valuePrefix
  | defaultDomain
  | parallel
  | force
  | version
  | help
  deriving Repr, DecidableEq

namespace OptionName

def longName : OptionName → Text
  | .config => "config".toList
  | .logLevel => "log-level".toList
  | .output => "output".toList
  | .locale => "locale".toList
  | .valuePrefix => "prefix".toList
  | .defaultDomain => "default-domain".toList
  | .parallel => "parallel".toList
  | .force => "force".toList
  | .version => "version".toList
  | .help => "help".toList

def shortName? : OptionName → Option Char
  | .config => some 'c'
  | .output => some 'o'
  | .version => some 'V'
  | .help => some 'h'
  | _ => none

def takesValue : OptionName → Bool
  | .parallel | .force | .version | .help => false
  | _ => true

def isPath : OptionName → Bool
  | .config | .output => true
  | _ => false

def forProgram : List OptionName := [.config, .logLevel, .version, .help]

def forExtract : List OptionName :=
  [.config, .logLevel, .output, .locale, .valuePrefix, .defaultDomain, .parallel, .help]

def forInit : List OptionName := [.config, .logLevel, .force, .help]

end OptionName

structure Given where
  options : List (OptionName × Text)
  operands : List Text
  deriving Repr, DecidableEq

namespace Given

def empty : Given := ⟨[], []⟩

def value? (given : Given) (name : OptionName) : Option Text :=
  (given.options.find? (fun option => option.1 = name)).map (·.2)

def has (given : Given) (name : OptionName) : Bool := (given.value? name).isSome

/-- An option stands once at most, and no path is empty. -/
def add? (given : Given) (name : OptionName) (value : Text) : Option Given :=
  if given.has name || (name.isPath && value.isEmpty) then none
  else some { given with options := given.options ++ [(name, value)] }

end Given

inductive Reading where
  | finished (given : Given)
  | subcommand (given : Given) (name : Text) (rest : List Text)
  | version
  | help
  | refused
  deriving Repr, DecidableEq

inductive Argument where
  | flag (name : OptionName)
  | valued (name : OptionName) (value : Text)
  | awaiting (name : OptionName)
  | separator
  | operand (text : Text)
  | unknown
  deriving Repr, DecidableEq

def splitEquals : Text → Text × Option Text
  | [] => ([], none)
  | c :: rest =>
      if c = '=' then ([], some rest)
      else
        let (name, value) := splitEquals rest
        (c :: name, value)

def longArgument (allowed : List OptionName) (text : Text) : Argument :=
  let (written, value) := splitEquals text
  match allowed.find? (fun name => name.longName = written) with
  | none => .unknown
  | some name =>
      match value with
      | some value => if name.takesValue then .valued name value else .unknown
      | none => if name.takesValue then .awaiting name else .flag name

def shortArgument (allowed : List OptionName) (letter : Char) (rest : Text) : Argument :=
  match allowed.find? (fun name => name.shortName? = some letter) with
  | none => .unknown
  | some name =>
      if name.takesValue then
        match rest with
        | [] => .awaiting name
        | '=' :: value => .valued name value
        | value => .valued name value
      else .flag name

def classify (allowed : List OptionName) (argument : Text) : Argument :=
  match argument with
  | ['-', '-'] => .separator
  | '-' :: '-' :: text => longArgument allowed text
  | ['-'] => .operand ['-']
  | '-' :: letter :: rest => shortArgument allowed letter rest
  | text => .operand text

def looksLikeOption (argument : Text) : Bool :=
  match argument with
  | '-' :: _ :: _ => true
  | _ => false

def takeOperands (given : Given) (operands : List Text) : Reading :=
  if operands.any List.isEmpty then .refused
  else .finished { given with operands := given.operands ++ operands }

/-- Reads the arguments of a command. `pending` is an option whose value comes next; `subcommands` tells
that the first operand begins a subcommand. -/
def readArguments (allowed : List OptionName) (subcommands : Bool) :
    (pending : Option OptionName) → Given → List Text → Reading
  | none, given, [] => .finished given
  | some _, _, [] => .refused
  | some name, given, argument :: rest =>
      if looksLikeOption argument then .refused
      else match given.add? name argument with
        | some given => readArguments allowed subcommands none given rest
        | none => .refused
  | none, given, argument :: rest =>
      match classify allowed argument with
      | .flag .version => .version
      | .flag .help => .help
      | .flag name =>
          match given.add? name [] with
          | some given => readArguments allowed subcommands none given rest
          | none => .refused
      | .valued name value =>
          match given.add? name value with
          | some given => readArguments allowed subcommands none given rest
          | none => .refused
      | .awaiting name => readArguments allowed subcommands (some name) given rest
      | .separator => if subcommands then .refused else takeOperands given rest
      | .operand text =>
          if subcommands then .subcommand given text rest
          else if text.isEmpty then .refused
          else
            readArguments allowed subcommands none
              { given with operands := given.operands ++ [text] } rest
      | .unknown => .refused

structure ExtractOptions where
  paths : List Text
  output : Option Text
  locale : Text
  valuePrefix : Option Text
  defaultDomain : Option Text
  parallel : Bool
  deriving Repr, DecidableEq

inductive Request where
  | version
  | help
  | extract (config : Option Text) (logLevel : Text) (options : ExtractOptions)
  | init (config : Option Text) (logLevel : Text) (force : Bool)
  deriving Repr, DecidableEq

/-- The value given behind the subcommand, else the one before it. -/
def inner? (outer given : Given) (name : OptionName) : Option Text :=
  (given.value? name).or (outer.value? name)

def logLevelOf (outer given : Given) : Text := (inner? outer given .logLevel).getD "info".toList

def extractRequest? (outer : Given) (arguments : List Text) : Option Request :=
  match readArguments OptionName.forExtract false none .empty arguments with
  | .finished given =>
      if given.operands.isEmpty then none
      else some (.extract (inner? outer given .config) (logLevelOf outer given) {
        paths := given.operands
        output := given.value? .output
        locale := (given.value? .locale).getD "en".toList
        valuePrefix := given.value? .valuePrefix
        defaultDomain := given.value? .defaultDomain
        parallel := given.has .parallel })
  | .help => some .help
  | _ => none

def initRequest? (outer : Given) (arguments : List Text) : Option Request :=
  match readArguments OptionName.forInit false none .empty arguments with
  | .finished given =>
      if given.operands.isEmpty then
        some (.init (inner? outer given .config) (logLevelOf outer given) (given.has .force))
      else none
  | .help => some .help
  | _ => none

def Request.ofArguments? (arguments : List Text) : Option Request :=
  match readArguments OptionName.forProgram true none .empty arguments with
  | .version => some .version
  | .help => some .help
  | .subcommand outer name rest =>
      if name = "extract".toList then extractRequest? outer rest
      else if name = "init".toList then initRequest? outer rest
      else if name = "help".toList then some .help
      else none
  | _ => none

end MessageHarvest.Command

import VoiceMatch.Number.Decimal
import VoiceMatch.Service.Extractor
import VoiceMatch.Service.Settings

/-! The command line. Every option may stand in the environment instead, and an argument wins over
the environment. -/

namespace VoiceMatch

/-- What the arguments ask for. -/
structure Arguments where
  config : Option String := none
  overrides : Overrides := {}
  printConfig : Bool := false
  verbose : Bool := false

/-- How reading the arguments ends. -/
inductive ArgumentOutcome where
  | usageFault
  | help
  | version
  | arguments (a : Arguments)

/-- An option that takes a value: its long name, its one letter, its variable in the environment
and how a value is taken in. -/
structure ValueOption where
  long : String
  short : Option Char
  variableName : String
  set : Arguments → String → Option Arguments

namespace ValueOption

def word64? (s : String) : Option UInt64 :=
  ((parseNatural (UInt64.size - 1) s.toList).toOption).map UInt64.ofNat

def single? (s : String) : Option Single :=
  ((Numeral.parse s.toList).toOption).map Numeral.toSingle

/-- A path is not empty. -/
def path? (s : String) : Option String := if s = "" then none else some s

/-- An option whose value goes to the settings. -/
def override {α : Type} (long variableName : String) (read : String → Option α)
    (put : Overrides → α → Overrides) : ValueOption :=
  ⟨long, none, variableName, fun a s =>
    (read s).map fun v => { a with overrides := put a.overrides v }⟩

def all : List ValueOption :=
  [⟨"config", some 'c', "VOICEGATE_CONFIG", fun a s =>
      (path? s).map fun v => { a with config := some v }⟩,
    override "listen" "VOICEGATE_LISTEN" some fun o v => { o with listen := some v },
    override "registry-dir" "VOICEGATE_REGISTRY_DIR" path?
      fun o v => { o with registryPath := some v },
    override "threshold" "VOICEGATE_THRESHOLD" single? fun o v => { o with threshold := some v },
    override "min-seconds" "VOICEGATE_MIN_SECONDS" single?
      fun o v => { o with minSeconds := some v },
    override "model" "VOICEGATE_MODEL" ExtractorKind.ofName?
      fun o v => { o with extractor := some v },
    override "model-url" "VOICEGATE_MODEL_URL" some fun o v => { o with remoteUrl := some v },
    override "model-api-key" "VOICEGATE_MODEL_API_KEY" some
      fun o v => { o with remoteApiKey := some v },
    override "ffmpeg" "VOICEGATE_FFMPEG" some fun o v => { o with converterPath := some v },
    override "extract-timeout" "VOICEGATE_EXTRACT_TIMEOUT" word64?
      fun o v => { o with timeoutSeconds := some v },
    override "max-upload-bytes" "VOICEGATE_MAX_UPLOAD_BYTES" word64?
      fun o v => { o with maxUploadBytes := some v }]

def ofLong? (name : String) : Option ValueOption := all.find? (·.long = name)

def ofShort? (c : Char) : Option ValueOption := all.find? (·.short = some c)

end ValueOption

/-- What the command says about itself. -/
def usageText : String :=
  let line := fun (o : ValueOption) => s!"  --{o.long} <VALUE>  [env: {o.variableName}]"
  "Speaker verification HTTP service\n\nUsage: voicegate [OPTIONS]\n\nOptions:\n"
    ++ "\n".intercalate (ValueOption.all.map line
      ++ ["  --print-config", "  --verbose", "  --help", "  --version"])

/-- Arguments read so far, and the long names of the options among them. -/
structure ArgumentState where
  arguments : Arguments := {}
  given : List String := []

namespace ArgumentState

/-- Takes the value of an option, which must not come twice. -/
def setOption (st : ArgumentState) (o : ValueOption) (value : String) : Option ArgumentState :=
  if o.long ∈ st.given then none
  else (o.set st.arguments value).map fun a => ⟨a, o.long :: st.given⟩

/-- Takes a switch, which must not come twice. -/
def setSwitch (st : ArgumentState) (long : String) : Option ArgumentState :=
  if long ∈ st.given then none
  else if long = "print-config" then
    some ⟨{ st.arguments with printConfig := true }, long :: st.given⟩
  else if long = "verbose" then
    some ⟨{ st.arguments with verbose := true }, long :: st.given⟩
  else none

/-- Fills in options that are not among the arguments from the environment. -/
def fill (environment : Environment) (st : ArgumentState) (o : ValueOption) :
    Option ArgumentState :=
  if o.long ∈ st.given then some st
  else match environment o.variableName with
    | some value => st.setOption o value
    | none => some st

end ArgumentState

/-- One argument cut into what it asks for. -/
inductive ArgumentStep where
  | fault
  | help
  | version
  | next (st : ArgumentState)
  /-- The value is the next argument. -/
  | wantsValue (st : ArgumentState) (o : ValueOption)

/-- Letters behind a single dash. A letter with a value takes all that follows it. -/
def readLetters (st : ArgumentState) : List Char → ArgumentStep
  | [] => .next st
  | c :: rest =>
    if c = 'h' then .help
    else if c = 'V' then .version
    else if c = 'v' then
      match st.setSwitch "verbose" with
      | some st => readLetters st rest
      | none => .fault
    else
      match ValueOption.ofShort? c, rest with
      | none, _ => .fault
      | some o, [] => .wantsValue st o
      | some o, value =>
        let value := if value.head? = some '=' then value.drop 1 else value
        match st.setOption o (String.ofList value) with
        | some st => .next st
        | none => .fault

/-- A name behind two dashes, with a value after an equals sign or without one. -/
def readLong (st : ArgumentState) (text : List Char) : ArgumentStep :=
  let name := text.takeWhile (· ≠ '=')
  let value := if name.length = text.length then none else some (text.drop (name.length + 1))
  let long := String.ofList name
  match ValueOption.ofLong? long, value with
  | some o, none => .wantsValue st o
  | some o, some value =>
    match st.setOption o (String.ofList value) with
    | some st => .next st
    | none => .fault
  | none, some _ => .fault
  | none, none =>
    if long = "help" then .help
    else if long = "version" then .version
    else match st.setSwitch long with
      | some st => .next st
      | none => .fault

/-- Arguments without a dash, and a dash alone, are not expected. -/
def readArgument (st : ArgumentState) (argument : String) : ArgumentStep :=
  match argument.toList with
  | '-' :: '-' :: name => readLong st name
  | '-' :: c :: letters => readLetters st (c :: letters)
  | _ => .fault

/-- Whether an argument can be the value of an option that stands before it. -/
def isValueArgument (argument : String) : Bool :=
  match argument.toList with
  | '-' :: _ :: _ => false
  | _ => true

/-- Reads the arguments from the left, and then the environment. -/
def readArguments (environment : Environment) (st : ArgumentState) :
    List String → ArgumentOutcome
  | [] =>
    match ValueOption.all.foldlM (·.fill environment) st with
    | some st => .arguments st.arguments
    | none => .usageFault
  | argument :: rest =>
    if argument = "--" then
      if rest = [] then readArguments environment st [] else .usageFault
    else match readArgument st argument with
      | .fault => .usageFault
      | .help => .help
      | .version => .version
      | .next st => readArguments environment st rest
      | .wantsValue st o =>
        match rest with
        | [] => .usageFault
        | value :: rest =>
          if isValueArgument value then
            match st.setOption o value with
            | some st => readArguments environment st rest
            | none => .usageFault
          else .usageFault

end VoiceMatch

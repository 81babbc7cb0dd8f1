/-!
Arguments of the command line. Options may stand before and after the command, and everywhere among
its arguments up to `--`. An option that takes a value waits for it; what waits is settled by the
next option, or at the end. Arguments are read in order, and the first that asks for help or cannot
be read decides.
-/
namespace ClassForge.Console

inductive Command where
  | check
  | scan (archive : String)
  | plan (archive : String) (output : Option String) (selected : List String)
  deriving DecidableEq, Repr

structure Invocation where
  config : Option String
  plain : Bool
  command : Command
  deriving DecidableEq, Repr

inductive Stop where
  | usage
  | help
  | version
  deriving DecidableEq, Repr

namespace Arguments

inductive Key where
  | config
  | plain
  | output
  | plugin
  | archive
  | help
  | version
  deriving DecidableEq, Repr

inductive Level where
  | top
  | check
  | scan
  | plan
  deriving DecidableEq, Repr

namespace Level

def ofName? : String → Option Level
  | "check" => some .check
  | "scan" => some .scan
  | "plan" => some .plan
  | _ => none

def helpName : String := "help"

def isCommand (l : Level) (name : String) : Bool :=
  l = .top && (name == helpName || (ofName? name).isSome)

def takesArchive : Level → Bool
  | .scan | .plan => true
  | .top | .check => false

def long? (l : Level) : String → Option Key
  | "config" => some .config
  | "plain" => some .plain
  | "help" => some .help
  | "version" => if l = .top then some .version else none
  | "output" => if l = .plan then some .output else none
  | "plugin" => if l = .plan then some .plugin else none
  | _ => none

def short? (l : Level) : Char → Option Key
  | 'h' => some .help
  | 'V' => if l = .top then some .version else none
  | 'o' => if l = .plan then some .output else none
  | _ => none

end Level

structure Draft where
  config : Option String := none
  plain : Bool := false
  output : Option String := none
  plugins : List String := []
  archive : Option String := none
  deriving DecidableEq, Repr

/-- What waits: an option, and its value if that was read already. -/
structure Waiting where
  key : Key
  value : Option String
  deriving DecidableEq, Repr

/-- A path must not be empty, and is given once. -/
def once (old : Option String) (path : String) : Except Stop (Option String) :=
  if old.isSome || path.isEmpty then .error .usage else .ok (some path)

def Draft.assign (d : Draft) (value : String) : Key → Except Stop Draft
  | .config => (once d.config value).map fun c => { d with config := c }
  | .output => (once d.output value).map fun o => { d with output := o }
  | .archive => (once d.archive value).map fun a => { d with archive := a }
  | .plugin => .ok { d with plugins := d.plugins ++ [value] }
  | .plain | .help | .version => .error .usage

def Draft.settle (d : Draft) : Option Waiting → Except Stop Draft
  | none => .ok d
  | some ⟨_, none⟩ => .error .usage
  | some ⟨key, some value⟩ => d.assign value key

def Draft.bare (d : Draft) : Key → Except Stop (Draft × Option Waiting)
  | .help => .error .help
  | .version => .error .version
  | .plain => if d.plain then .error .usage else .ok ({ d with plain := true }, none)
  | key => .ok (d, some ⟨key, none⟩)

inductive Token where
  | endOfOptions
  | long (name : String) (value : Option String)
  | short (letter : Char) (rest : List Char)
  | word (text : String)
  deriving DecidableEq, Repr

def splitValue : List Char → List Char × Option (List Char)
  | [] => ([], none)
  | '=' :: cs => ([], some cs)
  | c :: cs =>
    let (name, value) := splitValue cs
    (c :: name, value)

def Token.ofArgument (argument : String) : Token :=
  match argument.toList with
  | ['-', '-'] => .endOfOptions
  | '-' :: '-' :: cs =>
    let (name, value) := splitValue cs
    .long (String.ofList name) (value.map String.ofList)
  | '-' :: c :: cs => .short c cs
  | _ => .word argument

/-- The value that follows an option's letter, with or without `=`. -/
def attached : List Char → Option String
  | [] => none
  | '=' :: cs => some (String.ofList cs)
  | cs => some (String.ofList cs)

def Draft.option (d : Draft) (level : Level) : Token → Except Stop (Draft × Option Waiting)
  | .long name none =>
    match level.long? name with
    | some key => d.bare key
    | none => .error .usage
  | .long name (some value) =>
    match level.long? name with
    | some key => (d.assign value key).map (·, none)
    | none => .error .usage
  | .short letter rest =>
    match level.short? letter, attached rest with
    | some .output, some value => (d.assign value .output).map (·, none)
    | some key, _ => d.bare key
    | none, _ => .error .usage
  | .endOfOptions | .word _ => .ok (d, none)

structure Reading where
  draft : Draft
  waiting : Option Waiting := none
  command : Option (String × List String) := none

def word (level : Level) (d : Draft) (waiting : Option Waiting) (text : String) :
    Except Stop (Draft × Option Waiting) := do
  let d ← d.settle waiting
  if level.takesArchive && d.archive.isNone then return (d, some ⟨.archive, some text⟩)
  else .error .usage

def readWords (level : Level) (d : Draft) (waiting : Option Waiting) :
    List String → Except Stop Reading
  | [] => .ok { draft := d, waiting }
  | text :: rest => do
    let (d, waiting) ← word level d waiting text
    readWords level d waiting rest

def read (level : Level) (d : Draft) (waiting : Option Waiting) :
    List String → Except Stop Reading
  | [] => .ok { draft := d, waiting }
  | argument :: rest =>
    match Token.ofArgument argument, waiting with
    | .endOfOptions, _ => readWords level d waiting rest
    | .word text, some ⟨key, none⟩ => read level d (some ⟨key, some text⟩) rest
    | .word text, _ =>
      if level.isCommand text then .ok { draft := d, waiting, command := some (text, rest) }
      else do
        let (d, waiting) ← word level d waiting text
        read level d waiting rest
    | token, _ => do
      let (d, waiting) ← (← d.settle waiting).option level token
      read level d waiting rest

def helpOn : List String → Stop
  | [] => .help
  | [name] => if Level.top.isCommand name then .help else .usage
  | _ => .usage

def Draft.command (d : Draft) : Level → Except Stop Command
  | .top => .error .usage
  | .check => .ok .check
  | .scan =>
    match d.archive with
    | some a => .ok (.scan a)
    | none => .error .usage
  | .plan =>
    match d.archive with
    | some a => .ok (.plan a d.output d.plugins)
    | none => .error .usage

/-- What is said after the command goes before what is said in front of it. -/
def parse (arguments : List String) : Except Stop Invocation := do
  let outer ← read .top {} none arguments
  match outer.command with
  | none => .error .usage
  | some (name, rest) =>
    match Level.ofName? name with
    | none => .error (helpOn rest)
    | some level =>
      let inner ← read level {} none rest
      let d ← inner.draft.settle inner.waiting
      let command ← d.command level
      let o ← outer.draft.settle outer.waiting
      return { config := d.config <|> o.config, plain := d.plain || o.plain, command }

end Arguments
end ClassForge.Console

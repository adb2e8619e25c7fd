import Amalgam.Terminal

/-! The command line. Words are read from left to right, and the first problem, or a
request for help or version, ends the reading. What an option is given is checked
when the next one starts. -/
namespace Amalgam

inductive Opt where
  | includePath | srcFile | outputFile | pipeline | config | lineLength | report
  deriving DecidableEq, Repr

inductive Flag where
  | verbose | listPipelines | help | version
  deriving DecidableEq, Repr

structure Options where
  includePaths : List Text := []
  srcFile : Option Text := none
  outputFile : Option Text := none
  pipeline : Option Text := none
  config : Option Text := none
  lineLength : Option Nat := none
  report : Option Text := none
  verbosity : Nat := 0
  listPipelines : Bool := false
  deriving DecidableEq, Repr

def Opt.name : Opt → String
  | .includePath => "include-path"
  | .srcFile => "src-file"
  | .outputFile => "output-file"
  | .pipeline => "pipeline"
  | .config => "config"
  | .lineLength => "line-length"
  | .report => "report"

def Opt.usage (o : Opt) : String :=
  match o with
  | .includePath => "--include-path [<include-path>...]"
  | o => s!"--{o.name} <{o.name}>"

def Flag.usage : Flag → String
  | .verbose => "--verbose..."
  | .listPipelines => "--list-pipelines"
  | .help => "--help"
  | .version => "--version"

inductive UsageError where
  | noArguments
  | unexpected (word : Text)
  | missingRequired
  | valueRequired (o : Opt)
  | repeated (usage : String)
  | unexpectedValue (value : Text) (f : Flag)
  | invalidValue (value : Text) (o : Opt) (why : String)
  deriving DecidableEq, Repr

def about : String := "Merges a C/C++ translation unit and applies instrumentation rewrites"

def shownWord (word : Text) : String := String.ofList (Terminal.plain (Terminal.highlighted word))

def UsageError.text : UsageError → String
  | .noArguments => about
  | .unexpected word => s!"error: unexpected argument '{shownWord word}' found"
  | .missingRequired => "error: the following required arguments were not provided:"
  | .valueRequired o => s!"error: a value is required for '{o.usage}' but none was supplied"
  | .repeated usage => s!"error: the argument '{usage}' cannot be used multiple times"
  | .unexpectedValue value f =>
    s!"error: unexpected value '{shownWord value}' for '{f.usage}' found; no more were expected"
  | .invalidValue value o why =>
    s!"error: invalid value '{shownWord value}' for '{o.usage}': {why}"

def UsageError.message (e : UsageError) : String :=
  String.ofList ((Text.lines e.text.toList).headD [])

inductive Halt where
  | usage (e : UsageError)
  | help
  | version
  deriving DecidableEq, Repr

namespace CommandLine

def opts : List Opt :=
  [.includePath, .srcFile, .outputFile, .pipeline, .config, .lineLength, .report]

inductive Known where
  | opt (o : Opt)
  | flag (f : Flag)

def long? (name : Text) : Option Known :=
  match opts.find? fun o => o.name.toList == name with
  | some o => some (.opt o)
  | none =>
    ([("verbose", Flag.verbose), ("list-pipelines", .listPipelines), ("help", .help),
      ("version", .version)].find? fun (n, _) => n.toList == name).map fun (_, f) => .flag f

def short? : Char → Option Known
  | 'p' => some (.opt .pipeline)
  | 'c' => some (.opt .config)
  | 'v' => some (.flag .verbose)
  | 'h' => some (.flag .help)
  | 'V' => some (.flag .version)
  | _ => none

/-- Where the reading stands. `pending` holds the last option and the values it was
given so far, `wants` whether it takes more. -/
structure State where
  options : Options := {}
  given : Bool := false
  pending : Option (Opt × List Text) := none
  wants : Bool := false
  trailing : Bool := false

/-- Reads a signed decimal of 64 bits; the text tells what is wrong with it. -/
def integer (t : Text) : Except String Int :=
  let (negative, digits) := match t with
    | '-' :: rest => (true, rest)
    | '+' :: rest => (false, rest)
    | t => (false, t)
  if t.isEmpty then .error "cannot parse integer from empty string"
  else if digits.isEmpty then .error "invalid digit found in string"
  else
    digits.foldlM (fun (n : Int) c =>
      if c.isDigit then
        let d : Int := c.toNat - '0'.toNat
        let n := if negative then 10 * n - d else 10 * n + d
        if n < -9223372036854775808 then .error "number too small to fit in target type"
        else if 9223372036854775807 < n then .error "number too large to fit in target type"
        else .ok n
      else .error "invalid digit found in string") 0

def maxLength : Int := 4294967295

def lineLength (t : Text) : Except String Nat := do
  let n ← integer t
  if 0 ≤ n && n ≤ maxLength then .ok n.toNat else .error s!"{n} is not in 0..={maxLength}"

def once {α : Type} (o : Opt) (old : Option α) (new : α) : Except Halt (Option α) :=
  if old.isSome then .error (.usage (.repeated o.usage)) else .ok (some new)

/-- Takes an option with its values. All but the include path have exactly one. -/
def accept (options : Options) (o : Opt) (values : List Text) : Except Halt Options :=
  match o, values with
  | .includePath, values => .ok { options with includePaths := options.includePaths ++ values }
  | o, [] => .error (.usage (.valueRequired o))
  | .srcFile, v :: _ => do return { options with srcFile := ← once o options.srcFile v }
  | .outputFile, v :: _ => do return { options with outputFile := ← once o options.outputFile v }
  | .pipeline, v :: _ => do return { options with pipeline := ← once o options.pipeline v }
  | .config, v :: _ => do return { options with config := ← once o options.config v }
  | .report, v :: _ => do return { options with report := ← once o options.report v }
  | .lineLength, v :: _ => do
    if options.lineLength.isSome then throw (.usage (.repeated o.usage))
    match lineLength v with
    | .ok n => return { options with lineLength := some n }
    | .error why => throw (.usage (.invalidValue v o why))

def settle (s : State) : Except Halt State :=
  match s.pending with
  | none => .ok s
  | some (o, values) => do
    let options ← accept s.options o values
    return { s with options, pending := none, wants := false }

def takeFlag (s : State) (f : Flag) : Except Halt State := do
  let s ← settle s
  match f with
  | .help => throw .help
  | .version => throw .version
  | .verbose =>
    return { s with options.verbosity := s.options.verbosity + 1, given := true }
  | .listPipelines =>
    if s.options.listPipelines then throw (.usage (.repeated f.usage))
    return { s with options.listPipelines := true, given := true }

/-- Takes an option. A value that is attached is all it gets. -/
def takeOpt (s : State) (o : Opt) (attached : Option Text) : Except Halt State := do
  let s ← settle s
  match attached with
  | some v => settle { s with pending := some (o, [v]), given := true }
  | none => return { s with pending := some (o, []), wants := true, given := true }

def takeLong (s : State) (word : Text) : Except Halt State :=
  let name := word.takeWhile (· != '=')
  let attached := match word.drop name.length with
    | [] => none
    | _ :: v => some v
  match long? name, attached with
  | none, _ => .error (.usage (.unexpected ('-' :: '-' :: name)))
  | some (.opt o), attached => takeOpt s o attached
  | some (.flag f), some v => .error (.usage (.unexpectedValue v f))
  | some (.flag f), none => takeFlag s f

def takeShort : State → Text → Except Halt State
  | s, [] => .ok s
  | s, c :: rest =>
    match short? c with
    | none => .error (.usage (.unexpected ['-', c]))
    | some (.flag f) => do
      let s ← takeFlag s f
      takeShort s rest
    | some (.opt o) =>
      match rest with
      | [] => takeOpt s o none
      | '=' :: v => takeOpt s o (some v)
      | v => takeOpt s o (some v)

def takeWord (s : State) (word : Text) : Except Halt State :=
  let asValue : Except Halt State :=
    match s.pending, s.wants && !s.trailing with
    | some (o, values), true =>
      .ok { s with pending := some (o, values ++ [word]), wants := o == .includePath }
    | _, _ => .error (.usage (.unexpected word))
  if s.trailing then asValue
  else match word with
    | ['-', '-'] => .ok { s with trailing := true }
    | '-' :: '-' :: rest => takeLong s rest
    | ['-'] => asValue
    | '-' :: rest => takeShort s rest
    | _ => asValue

def parse (words : List Text) : Except Halt Options := do
  let s ← words.foldlM takeWord {}
  let s ← settle s
  if !s.given then throw (.usage .noArguments)
  if !s.options.listPipelines && (s.options.srcFile.isNone || s.options.outputFile.isNone) then
    throw (.usage .missingRequired)
  return s.options

end CommandLine

def versionText : String := "precompiler 0.1.0\n"

def helpText : String := about ++ "

Usage: precompiler [OPTIONS]

Options:
      --include-path [<include-path>...]
          Include search directories, probed in order
      --src-file <src-file>
          Root source file to process
      --output-file <output-file>
          Where to write the processed translation unit
  -p, --pipeline <pipeline>
          Pipeline to run (e.g., 'full', 'source-under-test') [default: full]
  -c, --config <config>
          TOML file layered over the built-in settings and ./precompiler.toml
      --line-length <line-length>
          Width used for doc-comment wrapping and separator rules
      --report <report>
          Also write a JSON merge report to this file
  -v, --verbose...
          Trace include resolution (-vv for stage details)
      --list-pipelines
          List available pipelines
  -h, --help
          Print help
  -V, --version
          Print version
"

end Amalgam

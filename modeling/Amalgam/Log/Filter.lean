import Amalgam.Log.Record
import Amalgam.Pattern.Parser

/-! Which records are shown. A filter is a list of levels separated by commas, each for
all sources or for those whose name starts in a given way. Behind a slash may follow a
pattern for the message. What makes no sense is left out, with a warning. -/
namespace Amalgam

/-- The most detailed level that is shown, nothing if none is. -/
abbrev Threshold := Option Level

namespace Threshold

def parse? (t : Text) : Option Threshold :=
  match String.ofList (t.map Char.toLower) with
  | "off" => some none
  | "error" => some (some .error)
  | "warn" => some (some .warn)
  | "info" => some (some .info)
  | "debug" => some (some .debug)
  | "trace" => some (some .trace)
  | _ => none

def shows (t : Threshold) (r : Record) : Bool :=
  match t with
  | none => false
  | some level => r.level.rank ≤ level.rank

def ofVerbosity : Nat → Threshold
  | 0 => some .warn
  | 1 => some .info
  | _ => some .debug

end Threshold

inductive FilterFault where
  | tooManyParts (spec : Text)
  | unknown (part : Text)
  | pattern (text : Text) (e : PatternError)
  | patternTooLarge
  deriving DecidableEq, Repr

def FilterFault.message : FilterFault → String
  | .tooManyParts spec => s!"invalid logging spec '{String.ofList spec}' (too many '/'s)"
  | .unknown part => s!"invalid logging spec '{String.ofList part}'"
  | .pattern text e => s!"invalid regex filter - {e.message text}"
  | .patternTooLarge =>
    "invalid regex filter - Compiled regex exceeds size limit of 10485760 bytes."

/-- A level, and the start of the names it is for. -/
structure Rule where
  name : Option Text
  threshold : Threshold
  deriving DecidableEq, Repr

structure Filter where
  rules : List Rule := []
  pattern : Option Pattern := none
  deriving DecidableEq, Repr

namespace Rule

def fits (r : Rule) (source : Source) : Bool :=
  r.name.all (·.isPrefixOf source.name.toList)

def rank (r : Rule) : Nat := r.name.elim 0 (·.length + 1)

/-- A name alone shows everything. -/
def parse (t : Text) : Except FilterFault Rule :=
  match Text.splitWhen (· == '=') t with
  | [name] =>
    match Threshold.parse? name with
    | some threshold => .ok ⟨none, threshold⟩
    | none => .ok ⟨some name, some .trace⟩
  | [name, level] =>
    if level.trim.isEmpty then .ok ⟨some name, some .trace⟩
    else match Threshold.parse? level.trim with
      | some threshold => .ok ⟨some name, threshold⟩
      | none => .error (.unknown level.trim)
  | _ => .error (.unknown t)

end Rule

namespace Filter

def rulesOf (t : Text) : List (Except FilterFault Rule) :=
  (((Text.splitWhen (· == ',') t).map Text.trim).filter (!·.isEmpty)).map Rule.parse

def maxWeight : Nat := 436906

def patternOf (t : Text) : Except FilterFault Pattern :=
  match Pattern.parse t with
  | .error e => .error (.pattern t e)
  | .ok p => if maxWeight < p.weight then .error .patternTooLarge else .ok p

def parse (t : Text) : Filter × List FilterFault :=
  match Text.splitWhen (· == '/') t with
  | [] => ({}, [])
  | [rules] => ofParts (rulesOf rules) none
  | [rules, pattern] => ofParts (rulesOf rules) (some pattern)
  | _ => ({}, [.tooManyParts t])
where
  ofParts (rules : List (Except FilterFault Rule)) (pattern : Option Text) :
      Filter × List FilterFault :=
    let faults := rules.filterMap fun
      | .error e => some e
      | .ok _ => none
    let rules := rules.filterMap Except.toOption
    match pattern.map patternOf with
    | none => ({ rules }, faults)
    | some (.ok p) => ({ rules, pattern := some p }, faults)
    | some (.error e) => ({ rules }, faults ++ [e])

/-- What holds for a source: the rule that fits and is bound closest decides, of equal ones
the last. -/
def threshold (f : Filter) (otherwise : Threshold) (source : Source) : Threshold :=
  ((f.rules.filter (·.fits source)).foldl (fun best r => if best.rank ≤ r.rank then r else best)
    ⟨none, otherwise⟩).threshold

def shows (f : Filter) (otherwise : Threshold) (r : Record) : Bool :=
  (f.threshold otherwise r.source).shows r && f.pattern.all (·.found r.message.toList)

end Filter
end Amalgam

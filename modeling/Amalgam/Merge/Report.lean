import Amalgam.Json
import Amalgam.Merge.Event

/-! The report of a merge: which files were put in, and which includes were
dropped or left, each list in the order in which it happened. -/
namespace Amalgam

structure Report where
  origin : Path
  inlined : List Path := []
  elided : List (Site × Path) := []
  external : List Site := []
  deriving DecidableEq, Repr

namespace Report

def ofEvents (origin : Path) (events : List Event) : Report where
  origin := origin
  inlined := events.filterMap fun
    | .inlined _ path => some path
    | _ => none
  elided := events.filterMap fun
    | .elided site resolved => some (site, resolved)
    | _ => none
  external := events.filterMap fun
    | .external site _ => some site
    | _ => none

def directiveJson (level : Nat) (d : Directive) : Text :=
  Json.object level [("target", Json.quoted d.target), ("form", Json.quoted d.form.name.toList),
    ("line", Json.number d.line)]

def siteJson (level : Nat) (site : Site) (resolved : Option Path) : Text :=
  Json.object level ([("file", Json.quoted site.file.text),
    ("directive", directiveJson (level + 1) site.directive)] ++
    resolved.toList.map fun p => ("resolved", Json.quoted p.text))

def json (r : Report) : Text :=
  Json.object 0 [
    ("origin", Json.quoted r.origin.text),
    ("inlined", Json.array 1 (r.inlined.map fun p => Json.quoted p.text)),
    ("elided", Json.array 1 (r.elided.map fun (site, p) => siteJson 2 site (some p))),
    ("external", Json.array 1 (r.external.map fun site => siteJson 2 site none))]

end Report
end Amalgam

import Amalgam.Pattern.CharSet
import Amalgam.Text.Script

/-! Sets of characters by the name of a property: a general category or a group of them, a
script, or one of a few others. -/
namespace Amalgam.CharSet

def categoryNames : List (String × String) := [
  ("letter", "l"), ("casedletter", "lc"), ("uppercaseletter", "lu"), ("lowercaseletter", "ll"),
  ("titlecaseletter", "lt"), ("modifierletter", "lm"), ("otherletter", "lo"), ("mark", "m"),
  ("combiningmark", "m"), ("nonspacingmark", "mn"), ("spacingmark", "mc"),
  ("enclosingmark", "me"), ("number", "n"), ("decimalnumber", "nd"), ("digit", "nd"),
  ("letternumber", "nl"), ("othernumber", "no"), ("punctuation", "p"), ("punct", "p"),
  ("connectorpunctuation", "pc"), ("dashpunctuation", "pd"), ("openpunctuation", "ps"),
  ("closepunctuation", "pe"), ("initialpunctuation", "pi"), ("finalpunctuation", "pf"),
  ("otherpunctuation", "po"), ("symbol", "s"), ("mathsymbol", "sm"), ("currencysymbol", "sc"),
  ("modifiersymbol", "sk"), ("othersymbol", "so"), ("separator", "z"), ("spaceseparator", "zs"),
  ("lineseparator", "zl"), ("paragraphseparator", "zp"), ("other", "c"), ("control", "cc"),
  ("cntrl", "cc"), ("format", "cf"), ("surrogate", "cs"), ("privateuse", "co"),
  ("unassigned", "cn")]

/-- Names are compared without case, blanks, dashes, and a leading `is`. -/
def plainName (name : Text) : Text :=
  let letters := (name.filter fun c => c != ' ' && c != '_' && c != '-').map Char.toLower
  (Text.after? "is".toList letters).getD letters

def assigned : CharSet := ofCategories Category.all

def ofCategory? (name : Text) : Option CharSet :=
  let name := String.ofList (plainName name)
  match (categoryNames.lookup name).getD name with
  | "any" => some any
  | "ascii" => some ascii
  | "assigned" => some assigned
  | "cn" => some (compl assigned)
  | "cs" => some empty
  | "c" => some (union (ofCategories (Category.group 'c')) (compl assigned))
  | "lc" => some (ofCategories [.upper, .lower, .title])
  | code =>
    match code.toList, Category.all.filter (·.code == code) with
    | [letter], _ =>
      let ks := Category.group letter
      if ks.isEmpty then none else some (ofCategories ks)
    | _, [k] => some (category k)
    | _, _ => none

def ofScript? (name : Text) : Option CharSet :=
  let name := String.ofList (plainName name)
  (Script.all.find? (·.names.contains name)).map fun s => .ranges s.ranges

def ofProperty? (name : Text) : Option CharSet :=
  match String.ofList (plainName name) with
  | "alphabetic" | "alpha" => some alphabetic
  | "whitespace" | "wspace" | "space" => some blank
  | "uppercase" | "upper" => some (union (category .upper) (.ranges Text.upperLikeRanges))
  | "lowercase" | "lower" => some (union (category .lower) (.ranges Text.lowerLikeRanges))
  | _ => (ofCategory? name) <|> ofScript? name

/-- Characters by the value of a property; the outer answer is whether there is such a
property. -/
def ofValue? (property value : Text) : Option (Option CharSet) :=
  match String.ofList (plainName property) with
  | "gc" | "generalcategory" => some (ofCategory? value)
  | "sc" | "script" => some (ofScript? value)
  | _ => none

end Amalgam.CharSet

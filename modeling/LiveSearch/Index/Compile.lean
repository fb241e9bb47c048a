import LiveSearch.Calendar
import LiveSearch.Condition
import LiveSearch.Failure
import LiveSearch.Index.Query

/-!
# From conditions to queries

* `Query.ofCondition` – **the query of one condition**.
* `Query.ofConditions` – the query of a list of conditions: the intersection or the union of the
  queries of those that carry a value.

A text is compared with a field by its words or as a whole. Fields that are only indexed by words
stand in for whole comparisons with *all words*. A comparison that looks for the opposite is the
complement of the whole query, so over several fields it means that none of them matches.
-/

namespace LiveSearch

open Text

/-! ### Affixes -/

/-- Which end of a value an affix stands at. -/
inductive End where
  | front
  | back
deriving DecidableEq, Inhabited

/-- The written pattern of the values that begin or end with a text. -/
def affixPattern (side : End) (text : Token) : List Char :=
  match side with
  | .front => Pattern.escape text ++ ['.', '*']
  | .back => ['.', '*'] ++ Pattern.escape text

/-- The failure of an affix whose pattern cannot be read. -/
def affixMalformed : Failure :=
  .invalidArgument "RegexQueryError: Syntax error"

/-- The number of states that the matcher of an affix may have. -/
def stateLimit : Nat := 1000

/-- The number of states that a matcher needs inside a character of several bytes. -/
def innerStates : Nat := 18

/-- Is the character written in UTF-8 with a first byte that no other length or block shares? These
are the first bytes `E0`, `ED`, `F0` and `F4`. -/
def hasLoneFirstByte (c : Char) : Bool :=
  let n := c.toNat
  (0x800 ≤ n && n < 0x1000) || (0xd000 ≤ n && n < 0xe000) || (0x10000 ≤ n && n < 0x40000) ||
    0x100000 ≤ n

/-- The number of states of the matcher of an affix: one for each position between the bytes of the
text, and those inside any character that may stand beside it. Looking for the end of a value, the
matcher has no state of its own for a first byte that already begins the text. -/
def affixStates (side : End) (text : Token) : Nat :=
  let shared := side = .back && text.head?.any hasLoneFirstByte
  byteLength text + 1 + if shared then innerStates - 1 else innerStates

/-- The failure of an affix that is too long to be looked for. -/
def affixTooLong : Failure :=
  .invalidArgument "RegexQueryError: Compiled regex exceeds size limit of 1000 states"

namespace Query

/-! ### Texts -/

/-- A typed text in the form in which it is compared with whole values. -/
def folded (s : String) : Token :=
  lowercase (trimChars s.toList)

/-- Finds the documents with some of the words of a text. -/
def someWord (field : WordField) (s : String) : Query :=
  .anyOf ((distinctWords s).map fun token => .term (.word field token))

/-- Finds the documents with all the words of a text, of which there has to be one. -/
def everyWord (field : WordField) (s : String) : Query :=
  .allOf ((distinctWords s).map fun token => .term (.word field token))

/-- Finds the documents with a value that is a text. -/
def isValue (field : ValueField) (s : String) : Query :=
  .term (.value field (folded s))

/-- Finds the documents with a value that begins or ends with a text. -/
def hasValueAffix (field : ValueField) (side : End) (s : String) : Except Failure Query :=
  let text := folded s
  match Pattern.parse? (affixPattern side text) with
  | none => .error affixMalformed
  | some p => if stateLimit < affixStates side text then .error affixTooLong else .ok (.pattern field p)

/-- The complement of a query if the comparison looks for the opposite. -/
def negatedIf (specifier : Specifier) (q : Query) : Query :=
  if specifier.isNegation then .except q else q

/-- A **target** of a comparison with a text: the field with its words, the field with its whole
values if there is one, and the factor of its scores. -/
structure Target where
  words : WordField
  whole : Option ValueField
  factor : Nat := 1
deriving DecidableEq, Inhabited

/-- The title as a target. -/
def titleTarget : Target := { words := .title, whole := some .title }

/-- The content as a target. It has no whole values. -/
def contentTarget : Target := { words := .content, whole := none }

/-- The author as a target. -/
def authorTarget : Target := { words := .author, whole := some .author }

/-- The targets of a comparison with all fields. A title counts twice. -/
def allTargets : List Target :=
  [{ titleTarget with factor := 2 }, contentTarget, authorTarget]

/-- The comparison of a text with one target. -/
def ofTarget (specifier : Specifier) (s : String) (target : Target) : Except Failure Query :=
  match specifier, target.whole with
  | .contains, _ | .containsNot, _ => .ok (someWord target.words s)
  | .containsAll, _ => .ok (everyWord target.words s)
  | .is, some field | .isNot, some field => .ok (isValue field s)
  | .beginsWith, some field => hasValueAffix field .front s
  | .endsWith, some field => hasValueAffix field .back s
  | .is, none | .isNot, none | .beginsWith, none | .endsWith, none => .ok (everyWord target.words s)
  | .isBefore, _ | .isAfter, _ =>
    .error (.invalidQuery (specifier.description ++ " is not a text comparison"))

/-- A query with its scores multiplied, unless the factor is one. -/
def scaled (factor : Nat) (q : Query) : Query :=
  if factor = 1 then q else .boosted factor q

/-- The comparison of a text with several targets. -/
def ofText (targets : List Target) (specifier : Specifier) (s : String) : Except Failure Query := do
  let parts ← targets.mapM fun target => do
    return scaled target.factor (← ofTarget specifier s target)
  return negatedIf specifier (match parts with | [q] => q | qs => .anyOf qs)

/-- The comparison of a text with the whole values of a field. -/
def ofKeyword (field : ValueField) (specifier : Specifier) (s : String) : Except Failure Query :=
  match specifier with
  | .is | .isNot => .ok (negatedIf specifier (isValue field s))
  | .beginsWith => hasValueAffix field .front s
  | .endsWith => hasValueAffix field .back s
  | other => .error (.invalidQuery (other.description ++ " is not supported on keyword fields"))

/-! ### Other values -/

/-- The comparison of a time with a field. To be at a time means to be on its day. -/
def ofTime (field : TimeField) (specifier : Specifier) (time : UInt64) : Query :=
  match specifier with
  | .isBefore => .between field .unbounded (.excluded time)
  | .isAfter => .between field (.excluded time) .unbounded
  | _ => .between field (.included (dayStart time)) ((dayEnd? time).elim .unbounded .excluded)

/-- Finds the documents in one of several states. -/
def ofStates (specifier : Specifier) (chosen : List State) : Query :=
  negatedIf specifier (.anyOf (chosen.map fun state => .term (.number .state state.code)))

/-- Finds the documents with a flag, or without. -/
def ofFlag (specifier : Specifier) (flagged : Bool) : Query :=
  negatedIf specifier (.term (.number .flagged (Document.codeOfFlag flagged)))

/-! ### Conditions -/

/-- **The query of a condition.** -/
def ofCondition (c : Condition) : Except Failure Query :=
  match c.value, c.field with
  | .text s, .allFields => ofText allTargets c.specifier s
  | .text s, .title => ofText [titleTarget] c.specifier s
  | .text s, .content => ofText [contentTarget] c.specifier s
  | .text s, .author => ofText [authorTarget] c.specifier s
  | .text s, .category => ofKeyword .category c.specifier s
  | .text s, .label => ofKeyword .label c.specifier s
  | .text s, .feed => ofKeyword .feed c.specifier s
  | .text s, .link => ofKeyword .link c.specifier s
  | .states chosen, .state => .ok (ofStates c.specifier chosen)
  | .bool flagged, .flagged => .ok (ofFlag c.specifier flagged)
  | .date time, .published => .ok (ofTime .published c.specifier time)
  | .date time, .received => .ok (ofTime .received c.specifier time)
  | value, field =>
    .error (.invalidQuery (field.description ++ " cannot be searched with " ++ value.description))

/-- The query of a list of conditions, of which those without a value are passed over. -/
def ofConditions (conditions : List Condition) (matchAll : Bool) : Except Failure Query := do
  let parts ← (conditions.filter Condition.isUsable).mapM ofCondition
  return if matchAll then .allOf parts else .anyOf parts

end Query

end LiveSearch

import NodePolicy.Duration.Error
import NodePolicy.Duration.Total
import NodePolicy.Text.DecimalDigit
import NodePolicy.Text.Lowercase

/-!
Durations as a sequence of counts and units without blanks, such as `1h20m` or `500ms`. Letter case
does not matter, units may come in any order and repeatedly, and the counts add up.
-/

namespace NodePolicy.Duration.Compact

structure Group where
  count : List Char
  unit : List Char
  deriving DecidableEq

/-- Cuts a text where a digit follows something else: every piece is a run of digits and the run
of other characters after it. -/
def groups : List Char → List Group
  | [] => []
  | c :: rest =>
    match Text.isDecimalDigit c, groups rest with
    | true, ⟨count, unit⟩ :: later => ⟨c :: count, unit⟩ :: later
    | true, [] => [⟨[c], []⟩]
    | false, ⟨[], unit⟩ :: later => ⟨[], c :: unit⟩ :: later
    | false, later => ⟨[], [c]⟩ :: later

/-- The names of the units. The third begins with the micro sign. -/
def unitNames : List (List Char × TimeUnit) :=
  [ (['n', 's'], .nanosecond), (['u', 's'], .microsecond), (['\u00b5', 's'], .microsecond),
    (['m', 's'], .millisecond), (['s'], .second), (['m'], .minute), (['h'], .hour),
    (['d'], .day), (['w'], .week), (['y'], .year) ]

/-- The representative of the characters that differ in letter case only: besides the ASCII
letters, the long s goes with s, and the two letters mu go with the micro sign. -/
def foldCase (c : Char) : Char :=
  if c = '\u017f' then 's'
  else if c = '\u03bc' ∨ c = '\u039c' then '\u00b5'
  else c.toLower

def Group.matches (group : Group) : Bool :=
  !group.count.isEmpty && (unitNames.lookup (group.unit.map foldCase)).isSome

/-- The unit that a spelling names once it is in lower case. The long s and the letters mu match
the pattern, but no lower-case name has them. -/
def unitOf? (spelling : List Char) : Option TimeUnit :=
  unitNames.lookup (Text.lowercaseAfter [] spelling)

def groups? (text : List Char) : Option (List Group) :=
  let found := groups text
  if found ≠ [] ∧ found.all Group.matches then some found else none

def addGroup (text : String) (total : Duration) (group : Group) : Except DurationError Duration :=
  match unitOf? group.unit with
  | none => .error (.invalidFormat text)
  | some unit =>
    match addTerm total ⟨group.count, unit⟩ with
    | some sum => .ok sum
    | none => .error (.outOfRange text)

def read (text : String) (found : List Group) : Except DurationError Duration :=
  found.foldlM (addGroup text) zero

end NodePolicy.Duration.Compact

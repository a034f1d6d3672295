/-!
# Names of loggers

Names are dotted, and a logger stands under the logger of a shorter name. Which one that is, is
found by looking at the dots of the name from the right, where the character left of a dot just
looked at is passed over: the text before a dot names the parent if it is the base logger's name
or that of a logger handed out before. A name whose own part begins with a dot may so pass the
base logger by; every other name is under it.

## Main definitions

- `Log.loggerName` — the full name of a logger
- `Log.isUnderBase` — the logger of a full name is the base logger or stands under it
-/

namespace MediaTypes

namespace Log

def baseName : String := "netmime"

/-- The full name of a logger: the base logger's name, or a name under it. -/
def loggerName (name : Option String) : String :=
  match name with
  | none => baseName
  | some name =>
    if name = "" ∨ name = baseName then baseName
    else if (baseName ++ ".").toList.isPrefixOf name.toList then name
    else baseName ++ "." ++ name

/-- A chain of parents leads from a name, written from its end, to the base logger. The names
that are `known` are those of the loggers handed out. -/
def leadsToBase (known : List String) : List Char → Bool
  | c :: d :: rest =>
    if c = '.' then
      if d :: rest = baseName.toList.reverse then true
      else if String.ofList (d :: rest).reverse ∈ known then leadsToBase known (d :: rest)
      else leadsToBase known rest
    else leadsToBase known (d :: rest)
  | _ => false

/-- The logger of a full name is the base logger or stands under it. -/
def isUnderBase (known : List String) (name : String) : Bool :=
  name = baseName || leadsToBase known name.toList.reverse

/-- A part that begins with no dot does not keep a name from the base logger. -/
theorem leadsToBase_append (known : List String) (part : List Char)
    (h : part.getLast? ≠ some '.') :
    leadsToBase known (part ++ '.' :: baseName.toList.reverse) = true := by
  match part with
  | [] => rfl
  | [c] =>
    have hc : c ≠ '.' := by simpa using h
    simp only [List.singleton_append, leadsToBase, hc, if_false]
    rfl
  | c :: d :: rest =>
    have tail : (d :: rest).getLast? ≠ some '.' := by simpa using h
    have next : rest.getLast? ≠ some '.' := by
      cases rest with
      | nil => simp
      | cons e more => simpa using tail
    have longer : d :: (rest ++ '.' :: baseName.toList.reverse) ≠ baseName.toList.reverse := by
      intro same
      have lengths := congrArg List.length same
      simp only [List.length_cons, List.length_append, List.length_reverse] at lengths
      omega
    simp only [List.cons_append, leadsToBase, longer, if_false]
    split
    · split
      · exact leadsToBase_append known (d :: rest) tail
      · exact leadsToBase_append known rest next
    · exact leadsToBase_append known (d :: rest) tail

/-- Only a name whose own part begins with a dot can miss the base logger. -/
theorem isUnderBase_of_head (known : List String) (part : String)
    (h : part.toList.head? ≠ some '.') :
    isUnderBase known (baseName ++ "." ++ part) = true := by
  have rev : part.toList.reverse.getLast? ≠ some '.' := by simpa using h
  have found := leadsToBase_append known part.toList.reverse rev
  simp only [isUnderBase, String.toList_append, List.reverse_append, Bool.or_eq_true]
  exact .inr (by simpa using found)

end Log

end MediaTypes

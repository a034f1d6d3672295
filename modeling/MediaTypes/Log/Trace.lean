import MediaTypes.Json.Writer
import MediaTypes.Text.Quoted

/-!
# Traces

A trace is a label with named values. Its text is one line: the label, and after it the values in
braces, unless there are none.

## Main definitions

- `Trace` — a label and its named values
- `Trace.text` — the line that shows a trace
-/

namespace MediaTypes

namespace Log

/-- The style of values in a trace: quoted texts, and capital names for the other constants. -/
def inlineStyle : Json.Style where
  null := ['N', 'o', 'n', 'e']
  yes := ['T', 'r', 'u', 'e']
  no := ['F', 'a', 'l', 's', 'e']
  text := Text.quoteChars

structure Trace where
  label : String
  /-- The values that belong to it, in order. -/
  context : List (String × Json)

namespace Trace

/-- The line that shows a trace. -/
def text (t : Trace) : String :=
  match t.context with
  | [] => t.label
  | context =>
    t.label ++ " | ctx=" ++ String.ofList (Json.writeChars inlineStyle (.object context))

/-- The named values as one value, or the missing value if there are none. -/
def contextValue (t : Trace) : Json :=
  match t.context with
  | [] => .null
  | context => .object context

end Trace

end Log

end MediaTypes

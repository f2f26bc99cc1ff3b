import RestClient.Interface.Violation

/-!
# Diagnostics

What is reported about a declaration: a kind, a text, and an anchor in the source. Of the places in
an anchor the most precise one is reported: a value before a mark before the element.

## Main definitions

- `Anchor` — where a diagnostic points
- `Diagnostic` — a report
- `Report` — what a diagnostic looks like outside: text and place
-/

namespace RestClient

open Code (Span SyntaxFault)

/-- Why something is reported. -/
inductive DiagnosticKind where
  | declaration
  | unimplemented
  | internal
  deriving DecidableEq, Repr

/-- The places that a diagnostic is about: an element, perhaps a mark on it, and perhaps a
value in that. -/
structure Anchor where
  element : Span
  mark : Option Span
  value : Option Span
  deriving DecidableEq, Repr

namespace Anchor

/-- An anchor at an element. -/
def on (element : Span) : Anchor :=
  ⟨element, none, none⟩

/-- The anchor with a mark. -/
def withMark (a : Anchor) (mark : Span) : Anchor :=
  { a with mark := some mark }

/-- The anchor with a value. -/
def withValue (a : Anchor) (value : Span) : Anchor :=
  { a with value := some value }

/-- The place that is reported. -/
def span (a : Anchor) : Span :=
  (a.value <|> a.mark).getD a.element

end Anchor

/-- A report about a declaration. -/
structure Diagnostic where
  kind : DiagnosticKind
  message : String
  anchor : Anchor
  deriving DecidableEq, Repr

/-- What the outside sees of a diagnostic: a text and a place. -/
structure Report where
  message : String
  span : Span
  deriving DecidableEq, Repr

namespace Diagnostic

/-- A broken rule. -/
def declaration (v : Violation) (anchor : Anchor) : Diagnostic :=
  ⟨.declaration, v.message, anchor⟩

/-- An unexpected failure, which points nowhere. -/
def internal (message : String) : Diagnostic :=
  ⟨.internal, message, .on .nowhere⟩

/-- A syntactic fault. -/
def ofFault (f : SyntaxFault) : Diagnostic :=
  declaration (.syntaxFault f.complaint f.atEnd) (.on f.span)

/-- The place that is reported. -/
def span (d : Diagnostic) : Span :=
  d.anchor.span

/-- The report of a diagnostic; an unexpected failure is marked as such. -/
def report (d : Diagnostic) : Report :=
  match d.kind with
  | .internal => ⟨"kite internal error: " ++ d.message, d.span⟩
  | _ => ⟨d.message, d.span⟩

/-- A report taken for a broken rule. -/
def ofReport (r : Report) : Diagnostic :=
  ⟨.declaration, r.message, .on r.span⟩

/-- A diagnostic as it comes back from the outside. -/
def reread (d : Diagnostic) : Diagnostic :=
  ofReport d.report

end Diagnostic

/-- A report as code: a compile error with the text. -/
def Report.code (r : Report) : Code.PlainCode :=
  [":", ":", "core", ":", ":", "compile_error", "!", "\x7b", Code.stringLiteral r.message, "\x7d"]

/-- Several reports as code. -/
def compileErrors (diagnostics : List Diagnostic) : Code.PlainCode :=
  diagnostics.flatMap fun d => d.report.code

end RestClient

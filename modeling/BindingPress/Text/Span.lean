/-! Ranges of code points, the form in which character classes and case maps are stored. -/

namespace BindingPress.Text

/-- The code points `first`, `first + step`, and so on up to `last`. -/
structure Span where
  first : Nat
  last : Nat
  step : Nat

namespace Span

def contains (span : Span) (code : Nat) : Bool :=
  span.first ≤ code && code ≤ span.last && (code - span.first) % span.step == 0

end Span

def inSpans (spans : List Span) (c : Char) : Bool :=
  spans.any fun span => span.contains c.toNat

/-- A range whose members keep their distance when they are mapped; `first` goes to `target`. -/
structure CaseSpan where
  span : Span
  target : Nat

/-- The image of a code point under the first range that holds it, or the code point itself. -/
def mapSpans (spans : List CaseSpan) (code : Nat) : Nat :=
  match spans.find? fun entry => entry.span.contains code with
  | some entry => entry.target + (code - entry.span.first)
  | none => code

end BindingPress.Text

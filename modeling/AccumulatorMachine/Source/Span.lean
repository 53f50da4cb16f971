/-!
# Spans

A span is a stretch of source text, counted in bytes of its UTF-8 encoding
because that is what an editor needs to point at it. `Text.byteLength` is the
measure: the bytes that a list of characters takes.
-/

namespace AccumulatorMachine

namespace Text

/-- The number of bytes that the characters take in UTF-8. -/
def byteLength (text : List Char) : Nat :=
  text.foldr (fun c length => c.utf8Size + length) 0

@[simp] theorem byteLength_nil : byteLength [] = 0 := rfl

@[simp] theorem byteLength_cons (c : Char) (text : List Char) :
    byteLength (c :: text) = c.utf8Size + byteLength text := rfl

@[simp] theorem byteLength_append (a b : List Char) :
    byteLength (a ++ b) = byteLength a + byteLength b := by
  induction a with
  | nil => exact (Nat.zero_add _).symm
  | cons c a ih => rw [List.cons_append, byteLength_cons, ih, byteLength_cons, Nat.add_assoc]

end Text

/-- A stretch of source text. -/
structure Span where
  /-- The bytes of the source before the stretch. -/
  start : Nat
  /-- The bytes of the stretch itself. -/
  length : Nat
  deriving DecidableEq

namespace Span

/-- The bytes of the source up to the end of the stretch. -/
def stop (span : Span) : Nat :=
  span.start + span.length

/-- Whether the stretch holds no text. -/
def isEmpty (span : Span) : Bool :=
  span.length == 0

/-- The empty stretch right behind a span. -/
def after (span : Span) : Span :=
  ⟨span.stop, 0⟩

end Span

end AccumulatorMachine

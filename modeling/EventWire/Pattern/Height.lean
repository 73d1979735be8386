namespace EventWire

/-!
# The height of patterns

How deep the parts of a pattern are nested is limited.  Atoms have no height;
a group, a repetition and a class are one higher than what they hold, and so
are several parts that stand together.
-/

namespace Pattern

/-- The height of parts that stand together: a lone one stands for itself. -/
def joinedHeight : List Nat → Nat
  | [] => 0
  | [height] => height
  | heights => heights.foldr max 0 + 1

/-- The greatest height of a pattern. -/
def maxHeight : Nat := 250

end Pattern

end EventWire

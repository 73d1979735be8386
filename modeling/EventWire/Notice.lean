namespace EventWire

universe u

/-!
# Notices

Every layer reports what it does: a severity, the part of the program that
speaks, a sentence, and details.  A computation that may report carries its
notices beside its value, so what it reports never influences what it returns.
-/

/-- How urgent a notice is, least urgent first. -/
inductive Level where
  | trace
  | debug
  | info
  | warn
  | error
  deriving DecidableEq

namespace Level

/-- The name under which a level is written. -/
def text : Level → String
  | trace => "TRACE"
  | debug => "DEBUG"
  | info => "INFO"
  | warn => "WARN"
  | error => "ERROR"

end Level

/-- One detail of a notice. -/
inductive Detail where
  | count (value : Nat)
  | text (value : String)
  deriving DecidableEq

/-- Something worth reporting. -/
structure Notice where
  level : Level
  target : String
  message : String
  details : List (String × Detail)
  deriving DecidableEq

/-- A value together with the notices given while it was computed, in order. -/
structure Noted (Value : Type u) where
  value : Value
  notices : List Notice

namespace Noted

variable {Value Result : Type u}

/-- A value reached without any notice. -/
def silent (value : Value) : Noted Value where
  value := value
  notices := []

/-- Give one notice. -/
def give (notice : Notice) : Noted Unit where
  value := ()
  notices := [notice]

/-- Give a notice only when a condition holds. -/
def giveIf (condition : Bool) (notice : Notice) : Noted Unit where
  value := ()
  notices := if condition then [notice] else []

/-- Put earlier notices in front of those of a computation. -/
def after (earlier : List Notice) (noted : Noted Value) : Noted Value where
  value := noted.value
  notices := earlier ++ noted.notices

instance : Monad Noted where
  pure := silent
  bind first next := (next first.value).after first.notices

@[simp] theorem value_pure (value : Value) : (pure value : Noted Value).value = value :=
  rfl

@[simp] theorem value_bind (first : Noted Value) (next : Value → Noted Result) :
    (first >>= next).value = (next first.value).value :=
  rfl

@[simp] theorem value_map (change : Value → Result) (noted : Noted Value) :
    (change <$> noted).value = change noted.value :=
  rfl

@[simp] theorem value_after (earlier : List Notice) (noted : Noted Value) :
    (noted.after earlier).value = noted.value :=
  rfl

@[simp] theorem value_silent (value : Value) : (silent value).value = value :=
  rfl

end Noted

end EventWire

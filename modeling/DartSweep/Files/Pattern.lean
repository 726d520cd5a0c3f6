import DartSweep.Text.Basic

/-!
# Name patterns

In a pattern a question mark stands for any character, a star for any characters, and brackets for
one character of a class, or with an exclamation mark for one outside it. Two stars stand for any
directories and must be a whole segment. Errors tell the index of the character that is at fault.
-/
namespace DartSweep

inductive Token
  | char (c : Char)
  | anyChar
  | anyText
  | anyDirectories
  /-- A character in one of the inclusive ranges. -/
  | oneOf (ranges : List (Char × Char))
  | noneOf (ranges : List (Char × Char))
deriving DecidableEq, Repr

inductive PatternFault
  /-- More than two stars in a row. -/
  | stars
  /-- Two stars with more in their segment. -/
  | directories
  /-- A class that is not closed or is empty. -/
  | characterClass
deriving DecidableEq, Repr

/-- A fault and the index of the character at which it lies. -/
structure PatternError where
  position : Nat
  fault : PatternFault
deriving DecidableEq, Repr

def PatternFault.reason : PatternFault → String
  | stars => "wildcards are either regular `*` or recursive `**`"
  | directories => "recursive wildcards must form a single path component"
  | characterClass => "invalid range pattern"

def PatternError.message (error : PatternError) : String :=
  "Pattern syntax error near position " ++ toString error.position ++ ": " ++ error.fault.reason

namespace Pattern

/-- The ranges that the inside of a class lists: two characters with a dash between them, or one
character. -/
def ranges : Text → List (Char × Char)
  | first :: '-' :: last :: rest => (first, last) :: ranges rest
  | c :: rest => (c, c) :: ranges rest
  | [] => []

/-- The inside of a class and what follows its closing bracket. The first character belongs to the
class whatever it is. -/
def inside? : Text → Option (Text × Text)
  | [] => none
  | c :: rest =>
    match rest.dropWhile (· ≠ ']') with
    | [] => none
    | _ :: after => some (c :: rest.takeWhile (· ≠ ']'), after)

def class? : Text → Option (Token × Text)
  | '!' :: rest => (inside? rest).map fun (inside, after) => (.noneOf (ranges inside), after)
  | rest => (inside? rest).map fun (inside, after) => (.oneOf (ranges inside), after)

private theorem length_inside?_lt {t inside after : Text} (h : inside? t = some (inside, after)) :
    after.length < t.length := by
  cases t with
  | nil => simp [inside?] at h
  | cons c rest =>
    rw [inside?] at h
    split at h
    · simp at h
    · rename_i hd
      simp only [Option.some.injEq, Prod.mk.injEq] at h
      have hl := (List.dropWhile_suffix (l := rest) (· ≠ ']')).length_le
      rw [hd, h.2] at hl
      simp only [List.length_cons] at hl ⊢
      omega

private theorem length_class?_lt {t after : Text} {token : Token}
    (h : class? t = some (token, after)) : after.length < t.length := by
  unfold class? at h
  split at h
  · simp only [Option.map_eq_some_iff, Prod.exists, Prod.mk.injEq] at h
    obtain ⟨inside, rest, hi, _, rfl⟩ := h
    have hl := length_inside?_lt hi
    simp only [List.length_cons]
    omega
  · simp only [Option.map_eq_some_iff, Prod.exists, Prod.mk.injEq] at h
    obtain ⟨inside, rest, hi, _, rfl⟩ := h
    exact length_inside?_lt hi

/-- The tokens of a pattern whose first character has the given index and follows the given one. -/
def tokensFrom (position : Nat) (previous : Option Char) :
    Text → Except PatternError (List Token)
  | [] => .ok []
  | '?' :: rest => (tokensFrom (position + 1) (some '?') rest).map (.anyChar :: ·)
  | '*' :: '*' :: '*' :: _ => .error ⟨position + 2, .stars⟩
  | '*' :: '*' :: rest =>
    if previous.all (· = '/') then
      match rest with
      | [] => .ok [.anyDirectories]
      | '/' :: below => (tokensFrom (position + 3) (some '/') below).map (.anyDirectories :: ·)
      | _ => .error ⟨position + 2, .directories⟩
    else .error ⟨position - 1, .directories⟩
  | '*' :: rest => (tokensFrom (position + 1) (some '*') rest).map (.anyText :: ·)
  | '[' :: rest =>
    match h : class? rest with
    | none => .error ⟨position, .characterClass⟩
    | some (token, after) =>
      have := length_class?_lt h
      (tokensFrom (position + 1 + (rest.length - after.length)) (some ']') after).map (token :: ·)
  | c :: rest => (tokensFrom (position + 1) (some c) rest).map (.char c :: ·)
termination_by t => t.length
decreasing_by all_goals simp only [List.length_cons]; omega

def tokens (pattern : Text) : Except PatternError (List Token) :=
  tokensFrom 0 none pattern

def inRanges (ranges : List (Char × Char)) (c : Char) : Bool :=
  ranges.any fun range => range.1 ≤ c && c ≤ range.2

def tails : Text → List Text
  | [] => [[]]
  | c :: rest => (c :: rest) :: tails rest

/-- The name is what the tokens stand for, from its first character to its last. -/
def accepts : List Token → Text → Bool
  | [], name => name.isEmpty
  | .anyText :: more, name => (tails name).any (accepts more)
  | .anyDirectories :: more, name => (tails name).any (accepts more)
  | .char c :: more, name =>
    match name with
    | [] => false
    | first :: rest => first = c && accepts more rest
  | .anyChar :: more, name =>
    match name with
    | [] => false
    | _ :: rest => accepts more rest
  | .oneOf ranges :: more, name =>
    match name with
    | [] => false
    | first :: rest => inRanges ranges first && accepts more rest
  | .noneOf ranges :: more, name =>
    match name with
    | [] => false
    | first :: rest => !inRanges ranges first && accepts more rest

end Pattern
end DartSweep

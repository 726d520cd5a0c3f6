import DartSweep.Text.Basic

/-!
# Nesting depth of delimiters

Braces and brackets are counted apart and without limits: a closer with no opener before it leaves
a negative depth. The counters are 32 bits wide and wrap.
-/
namespace DartSweep

structure Nesting where
  /-- Opening less closing braces. -/
  braces : Int32
  /-- Opening less closing brackets. -/
  brackets : Int32
  started : Bool
deriving DecidableEq, Repr, Inhabited

namespace Nesting

def empty : Nesting :=
  ⟨0, 0, false⟩

def afterChar (nesting : Nesting) (c : Char) : Nesting :=
  match c with
  | '{' => { nesting with braces := nesting.braces + 1, started := true }
  | '}' => { nesting with braces := nesting.braces - 1 }
  | '[' => { nesting with brackets := nesting.brackets + 1, started := true }
  | ']' => { nesting with brackets := nesting.brackets - 1 }
  | _ => nesting

def after (nesting : Nesting) (t : Text) : Nesting :=
  t.foldl afterChar nesting

@[simp] theorem after_nil (nesting : Nesting) : nesting.after [] = nesting :=
  rfl

@[simp] theorem after_append (nesting : Nesting) (s t : Text) :
    nesting.after (s ++ t) = (nesting.after s).after t :=
  List.foldl_append

end Nesting
end DartSweep

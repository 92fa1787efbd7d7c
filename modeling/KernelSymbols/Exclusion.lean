import KernelSymbols.Text.Basic

set_option autoImplicit false

namespace KernelSymbols

structure Exclusion where
  prefixes : List Text := []
deriving DecidableEq, Repr

namespace Exclusion

/-- The labels that a compiler gives to functions inside functions. -/
def nestedFunctions : Exclusion := ⟨["__func__.".toList]⟩

def push (exclusion : Exclusion) (start : Text) : Exclusion :=
  ⟨exclusion.prefixes ++ [start]⟩

def pushAll (exclusion : Exclusion) (prefixes : List Text) : Exclusion :=
  prefixes.foldl push exclusion

def isEmpty (exclusion : Exclusion) : Bool := exclusion.prefixes.isEmpty

def excludes (exclusion : Exclusion) (name : Text) : Bool :=
  exclusion.prefixes.any fun start => start.isPrefixOf name

@[simp] theorem prefixes_push (exclusion : Exclusion) (start : Text) :
    (exclusion.push start).prefixes = exclusion.prefixes ++ [start] := rfl

@[simp] theorem prefixes_pushAll (exclusion : Exclusion) (prefixes : List Text) :
    (exclusion.pushAll prefixes).prefixes = exclusion.prefixes ++ prefixes := by
  rw [pushAll]
  induction prefixes generalizing exclusion with
  | nil => simp
  | cons first rest ih => simp [ih]

theorem excludes_eq_true_iff (exclusion : Exclusion) (name : Text) :
    exclusion.excludes name = true ↔ ∃ start ∈ exclusion.prefixes, start <+: name := by
  simp [excludes]

end Exclusion

end KernelSymbols

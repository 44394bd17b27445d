import RpcGuard.Text.CombiningClass
import RpcGuard.Text.Composition

/-!
# Composed text

The composed normal form of a text: two texts that are canonically equivalent have the same. All
characters are taken apart, the marks after each are put in the order of their classes, and what can
be composed is composed, from the left.
-/

namespace RpcGuard.Text

/-- A character taken apart, through at most `depth` steps. -/
def takenApart : Nat → Nat → List Nat
  | 0, n => [n]
  | depth + 1, n =>
    match parts? n with
    | some (a, b) => takenApart depth a ++ [b]
    | none => [n]

/-- The most marks that a composed character holds. -/
def maxDepth : Nat := 4

/-- Each run of marks in the order of their classes; marks of one class keep their order. -/
def orderedMarks : List Nat → List Nat → List Nat
  | run, [] => sorted run
  | run, n :: ns =>
    if combiningClass n = 0 then sorted run ++ n :: orderedMarks [] ns
    else orderedMarks (run ++ [n]) ns
where
  sorted (run : List Nat) : List Nat :=
    ((run.map fun n => (combiningClass n, n)).mergeSort fun x y => x.1 ≤ y.1).map Prod.snd

/-- A text that is being composed. -/
structure Composer where
  /-- What is done, in reverse. -/
  done : List Nat := []
  /-- The last character that marks may combine with, and the marks since that did not, in
  reverse. -/
  open? : Option (Nat × List Nat) := none

/-- A mark is kept from the open character by a mark in between of its own class or a higher one, and
a character of class zero by any mark in between. -/
def blocked (k : Nat) : List Nat → Bool
  | [] => false
  | m :: _ => k ≤ combiningClass m

/-- Takes the next character. -/
def Composer.add (s : Composer) (n : Nat) : Composer :=
  let k := combiningClass n
  match s.open? with
  | none => if k = 0 then { s with open? := some (n, []) } else { s with done := n :: s.done }
  | some (a, marks) =>
    match if blocked k marks then none else compose? a n with
    | some c => { s with open? := some (c, marks) }
    | none =>
      if k = 0 then { done := marks ++ a :: s.done, open? := some (n, []) }
      else { s with open? := some (a, n :: marks) }

/-- The text so far. -/
def Composer.toList (s : Composer) : List Nat :=
  match s.open? with
  | none => s.done.reverse
  | some (a, marks) => (marks ++ a :: s.done).reverse

/-- The composed normal form of a text. -/
def composed (cs : List Char) : List Char :=
  let apart := orderedMarks [] (cs.flatMap fun c => takenApart maxDepth c.toNat)
  (apart.foldl Composer.add ({} : Composer)).toList.map Char.ofNat

end RpcGuard.Text

/-!
# Jaro similarity

Two texts share a character when it stands in both within a window of half the longer length,
less one; each character of the second text is claimed at most once, by the first unclaimed
occurrence in the window, going through the first text in order. With `m` shared characters,
of which `t` pairs stand in swapped order, the similarity of texts of lengths `a` and `b` is
`(m / a + m / b + (m - t) / m) / 3`; two empty texts are alike and an empty text is unlike any
other. The arithmetic is in doubles, in that order, so that a threshold compares the same value
every time.
-/

namespace TurnLedger.Text

/-- The first position in `lo ≤ j < hi` where `b` holds `c` and is not yet claimed. -/
def firstClaim (c : Char) (b : List Char) (claimed : List Bool) (lo hi : Nat) : Option Nat :=
  (List.range' lo (hi - lo)).find? fun j => b[j]? == some c && claimed[j]? == some false

def sharedMarks (a b : List Char) : List Bool × List Bool :=
  let window := max a.length b.length / 2 - 1
  a.zipIdx.foldl (fun (marksA, marksB) (c, i) =>
    match firstClaim c b marksB (i - window) (min b.length (i + window + 1)) with
    | some j => (marksA ++ [true], marksB.set j true)
    | none => (marksA ++ [false], marksB)) ([], List.replicate b.length false)

def marked (cs : List Char) (marks : List Bool) : List Char :=
  (cs.zip marks).filterMap fun (c, m) => if m then some c else none

def jaro (s t : String) : Float :=
  let a := s.toList
  let b := t.toList
  if a.isEmpty && b.isEmpty then 1.0
  else if a.isEmpty || b.isEmpty then 0.0
  else
    let (marksA, marksB) := sharedMarks a b
    let sharedA := marked a marksA
    let sharedB := marked b marksB
    let m := sharedA.length
    let t := ((sharedA.zip sharedB).filter fun (x, y) => x != y).length / 2
    if m == 0 then 0.0
    else
      let mf := m.toFloat
      (mf / a.length.toFloat + mf / b.length.toFloat + (m - t).toFloat / mf) / 3.0

end TurnLedger.Text

import SdlPhp.Text.CellWidth

/-!
# Clusters

A cluster is what a terminal shows as one picture: a code point that takes cells with those behind
it that take none. A joiner makes the code point behind it a part of the cluster, whatever it is,
and a selector makes some narrow characters wide.
-/

namespace SdlPhp.Text

/-- Joins the code point behind it to what stands before it. -/
def joiner : CodePoint := .char '\u200d'

/-- Asks for a colored picture of the character before it, which may be wider. -/
def selector : CodePoint := .char '\ufe0f'

/-! ## Cells -/

/-- A text that is being measured. -/
structure Measured where
  cells : Nat := 0
  /-- The last code point that took cells; none if a selector stands behind it. -/
  last : Option CodePoint := none
  /-- The text ends with a joiner. -/
  joins : Bool := false

/-- Measures one more code point. -/
def Measured.add (m : Measured) (p : CodePoint) : Measured :=
  if m.joins then { m with joins := false }
  else if p = joiner then { m with joins := true }
  else if p = selector then
    { m with cells := m.cells + if m.last.any CodePoint.isWidened then 1 else 0, last := none }
  else if p.cells = 0 then m
  else { m with cells := m.cells + p.cells, last := some p }

/-- The number of cells that code points take. -/
def cells (ps : List CodePoint) : Nat := (ps.foldl Measured.add {}).cells

/-! ## Clusters -/

structure Cluster where
  points : List CodePoint
  cells : Nat
  deriving DecidableEq, Repr

/-- The cluster of a single code point. -/
def Cluster.ofPoint (p : CodePoint) : Cluster := ⟨[p], p.cells⟩

/-- The cluster with one more code point and more cells. -/
def Cluster.add (k : Cluster) (p : CodePoint) (cells : Nat) : Cluster :=
  ⟨k.points ++ [p], k.cells + cells⟩

/-- A text that is being cut into clusters, the last of which comes first. -/
structure Clustered where
  clusters : List Cluster := []
  /-- The last code point that took cells and has not been made wide. -/
  last : Option CodePoint := none
  /-- The text ends with a joiner that stands behind something. -/
  joins : Bool := false

/-- Adds one more code point, which may open a cluster. -/
def Clustered.add (s : Clustered) (p : CodePoint) : Clustered :=
  let taken := if p.cells = 0 then s.last else some p
  match s.clusters with
  | [] => ⟨[.ofPoint p], taken, false⟩
  | k :: ks =>
    if s.joins then ⟨k.add p 0 :: ks, s.last, false⟩
    else if p = joiner then ⟨k.add p 0 :: ks, s.last, true⟩
    else if p = selector && s.last.any CodePoint.isWidened then ⟨k.add p 1 :: ks, none, false⟩
    else if p.cells = 0 then ⟨k.add p 0 :: ks, s.last, false⟩
    else ⟨.ofPoint p :: k :: ks, taken, false⟩

/-- The clusters of a text. -/
def clusters (ps : List CodePoint) : List Cluster :=
  (ps.foldl Clustered.add {}).clusters.reverse

/-- As much of the front of clusters as fills a number of cells; a space takes the place of a
cluster that would have to be cut. -/
def front (n : Nat) : List Cluster → List CodePoint
  | [] => []
  | k :: ks =>
    if n = 0 then []
    else if k.cells ≤ n then k.points ++ front (n - k.cells) ks
    else [.char ' ']

end SdlPhp.Text

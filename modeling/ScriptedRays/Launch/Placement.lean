import ScriptedRays.Number.Single

/-!
# Placement — matrices that a host computes with

A script hands matrices over as singles and computes them in the host's own arithmetic.  A product is
the sum of the columns of its left side in their order, each multiplied first, so that its zeros have
the signs that these sums give them.
-/

namespace ScriptedRays

/-- A column of four numbers of the host. -/
structure Column where
  x : Float32
  y : Float32
  z : Float32
  w : Float32

namespace Column

def scale (c : Column) (factor : Float32) : Column :=
  ⟨c.x * factor, c.y * factor, c.z * factor, c.w * factor⟩

def add (c d : Column) : Column := ⟨c.x + d.x, c.y + d.y, c.z + d.z, c.w + d.w⟩

def toList (c : Column) : List Float32 := [c.x, c.y, c.z, c.w]

end Column

/-- Where an instance stands: a 4 × 4 matrix of the host's numbers, by its columns. -/
structure Placement where
  x : Column
  y : Column
  z : Column
  w : Column

namespace Placement

def identity : Placement := ⟨⟨1, 0, 0, 0⟩, ⟨0, 1, 0, 0⟩, ⟨0, 0, 1, 0⟩, ⟨0, 0, 0, 1⟩⟩

/-- The shift by three numbers. -/
def shift (x y z : Float32) : Placement := { identity with w := ⟨x, y, z, 1⟩ }

/-- The turn about the upright axis. -/
def turn (angle : Float32) : Placement :=
  let sine := angle.sin
  let cosine := angle.cos
  ⟨⟨cosine, 0, -sine, 0⟩, ⟨0, 1, 0, 0⟩, ⟨sine, 0, cosine, 0⟩, ⟨0, 0, 0, 1⟩⟩

/-- Where a column goes. -/
def apply (p : Placement) (c : Column) : Column :=
  (((p.x.scale c.x).add (p.y.scale c.y)).add (p.z.scale c.z)).add (p.w.scale c.w)

/-- The second placement first, then the first. -/
def after (p q : Placement) : Placement := ⟨p.apply q.x, p.apply q.y, p.apply q.z, p.apply q.w⟩

/-- The entries column after column. -/
def entries (p : Placement) : List Single :=
  [p.x, p.y, p.z, p.w].flatMap fun c => c.toList.map fun x => ⟨x.toBits⟩

end Placement

end ScriptedRays

import Mathlib.Algebra.Group.Defs
import Mathlib.Tactic.Ext

/-!
# Points and pose vectors

Coordinate pairs, triples and quadruples over any scalar type. A quadruple holds a
position or velocity together with a yaw or yaw rate in its last component.
-/

namespace Dankong

/-- Two horizontal coordinates. -/
@[ext] structure Vec2 (R : Type*) where
  /-- East, or forward. -/
  x : R
  /-- North, or left. -/
  y : R
  deriving DecidableEq, Repr

/-- Three coordinates: east, north, up, or forward, left, up in the body frame. -/
@[ext] structure Vec3 (R : Type*) where
  /-- East, or forward. -/
  x : R
  /-- North, or left. -/
  y : R
  /-- Up. -/
  z : R
  deriving DecidableEq, Repr

/-- Three coordinates and a yaw component. -/
@[ext] structure Vec4 (R : Type*) where
  /-- East, or forward. -/
  x : R
  /-- North, or left. -/
  y : R
  /-- Up. -/
  z : R
  /-- Yaw angle, or yaw rate. -/
  w : R
  deriving DecidableEq, Repr

namespace Vec2

variable {R : Type*}

/-- The origin, and the velocity of a vehicle at rest. -/
def zero [Zero R] : Vec2 R := ⟨0,0⟩

/-- Coordinatewise sum. -/
def add [Add R] (a b : Vec2 R) : Vec2 R := ⟨a.x+b.x,a.y+b.y⟩

/-- Coordinatewise difference. -/
def sub [Sub R] (a b : Vec2 R) : Vec2 R := ⟨a.x-b.x,a.y-b.y⟩

/-- Multiple of a vector. -/
def scale [Mul R] (k : R) (a : Vec2 R) : Vec2 R := ⟨k*a.x,k*a.y⟩

end Vec2

namespace Vec3

variable {R : Type*}

/-- The origin, and the velocity of a vehicle at rest. -/
def zero [Zero R] : Vec3 R := ⟨0,0,0⟩

/-- Coordinatewise sum. -/
def add [Add R] (a b : Vec3 R) : Vec3 R := ⟨a.x+b.x,a.y+b.y,a.z+b.z⟩

/-- Coordinatewise difference. -/
def sub [Sub R] (a b : Vec3 R) : Vec3 R := ⟨a.x-b.x,a.y-b.y,a.z-b.z⟩

/-- The horizontal part. -/
def horizontal (a : Vec3 R) : Vec2 R := ⟨a.x,a.y⟩

end Vec3

namespace Vec4

variable {R : Type*}

/-- The command of a vehicle at rest. -/
def zero [Zero R] : Vec4 R := ⟨0,0,0,0⟩

/-- The first three components. -/
def head (v : Vec4 R) : Vec3 R := ⟨v.x,v.y,v.z⟩

end Vec4

end Dankong

import Dankong.LandingDescent
import Dankong.StateUtils

/-!
# The trajectory generator of the landing controller

`KinematicTrajectoryGenerator2D`, the virtual rabbit the vehicle follows: a
point with a velocity that is steered towards the target with bounded speed and
acceleration.
-/

namespace Dankong.Pland

open StateUtils

noncomputable section

/-- Euclidean length of a horizontal vector. -/
def norm2 (v : Vec2 ℝ) : ℝ := hypot v.x v.y

/-- `normalized()`: the direction of a vector; the zero vector stays as it is. -/
def normalized (v : Vec2 ℝ) : Vec2 ℝ :=
  if 0<v.x*v.x+v.y*v.y then ⟨v.x/norm2 v,v.y/norm2 v⟩ else v

/-- A vector cut down to a length it exceeds. -/
def cutTo (limit : ℝ) (v : Vec2 ℝ) : Vec2 ℝ :=
  if limit<norm2 v then (normalized v).scale limit else v

/-- A horizontal vector as a complex number. -/
def plane (v : Vec2 ℝ) : ℂ := ⟨v.x,v.y⟩

/-- Its length is the norm. -/
theorem norm_plane (v : Vec2 ℝ) : ‖plane v‖=norm2 v := (hypot_eq_norm v.x v.y).symm

@[simp] theorem plane_zero : plane .zero=0 := rfl

@[simp] theorem plane_add (v w : Vec2 ℝ) : plane (v.add w)=plane v+plane w := rfl

@[simp] theorem plane_sub (v w : Vec2 ℝ) : plane (v.sub w)=plane v-plane w := rfl

@[simp] theorem plane_scale (k : ℝ) (v : Vec2 ℝ) : plane (v.scale k)=k•plane v :=
  Complex.ext (Complex.smul_re k (plane v)).symm (Complex.smul_im k (plane v)).symm

@[simp] theorem norm2_zero : norm2 .zero=0 := by rw [←norm_plane,plane_zero,norm_zero]

/-- A vector of positive length is not zero. -/
theorem ne_zero_of_norm2_pos {v : Vec2 ℝ} (h : 0<norm2 v) : v≠.zero := by
  intro hv
  rw [hv,norm2_zero] at h
  exact lt_irrefl 0 h

/-- `KinematicTrajectoryGenerator2D`. -/
structure Rabbit where
  /-- `virtual_pos_`. -/
  virtualPos : Vec2 ℝ := .zero
  /-- `virtual_vel_`. -/
  virtualVel : Vec2 ℝ := .zero
  /-- `initialized_`. -/
  initialized : Bool := false

namespace Rabbit

/-- `reset`. -/
def reset (currentPos : Vec2 ℝ) : Rabbit := ⟨currentPos,.zero,true⟩

/-- `force_set_state`. -/
def forceSetState (newPos newVel : Vec2 ℝ) (r : Rabbit) : Rabbit :=
  { r with virtualPos := newPos, virtualVel := newVel }

/-- Velocity relative to the target: proportional to the distance, within the
cruise speed and, away from the target, within the speed it can brake from. -/
def relVel (kp maxVel maxAcc : ℝ) (posErr : Vec2 ℝ) : Vec2 ℝ :=
  let capped := cutTo maxVel (posErr.scale kp)
  if 0.01<norm2 posErr then cutTo (√(2.0*(maxAcc*0.8)*norm2 posErr)) capped else capped

/-- `step`: the position and velocity returned, and the new state. -/
def step (kp kv dt : ℝ) (targetPos targetVel : Vec2 ℝ) (maxVel maxAcc : ℝ) (r : Rabbit) :
    (Vec2 ℝ×Vec2 ℝ)×Rabbit :=
  if r.initialized=false then ((targetPos,targetVel),r)
  else
    let posErr := targetPos.sub r.virtualPos
    let desiredVel := (relVel kp maxVel maxAcc posErr).add targetVel
    let desiredAcc := cutTo maxAcc ((desiredVel.sub r.virtualVel).scale kv)
    let pos := r.virtualPos.add
      ((r.virtualVel.scale dt).add (desiredAcc.scale (0.5*dt*dt)))
    let vel := r.virtualVel.add (desiredAcc.scale dt)
    ((pos,vel),{ r with virtualPos := pos, virtualVel := vel })

end Rabbit

end

end Dankong.Pland

import Dankong.BinaryRounding
import Dankong.WhileLoops
import Mathlib.Algebra.Order.Floor.Semiring

/-!
# Normalising a heading in double precision

`norm_yaw` adds and subtracts whole turns one at a time. In double precision every sum is
rounded, and from some magnitude on a turn is too small to change the heading: the loops
end exactly below it.
-/

namespace Dankong.DoubleYaw

open BinaryRounding WhileLoops

/-- `M_PI`. -/
def mPi : ℚ := 884279719003555/2^48

/-- `M_PI * 2`; multiplying by a power of two is exact. -/
def turn : ℚ := mPi*2

/-- A loop that goes on for more rounds than this never ends. -/
def rounds : ℕ := 2^56+1

/-- First loop of `norm_yaw`. -/
def addTurns : ℚ → Option ℚ := loop (·<0) (fun yaw => double.round (yaw+turn)) rounds

/-- Second loop of `norm_yaw`. -/
def dropTurns : ℚ → Option ℚ := loop (turn≤·) (fun yaw => double.round (yaw-turn)) rounds

/-- `norm_yaw`; there is no result where a loop does not end. -/
def normYaw (yaw : ℚ) : Option ℚ := (addTurns yaw).bind dropTurns

/-- `yaw_ned_to_enu`. -/
def yawNedToEnu (yawNed : ℚ) : Option ℚ := normYaw (double.round (mPi/2-yawNed))

end Dankong.DoubleYaw

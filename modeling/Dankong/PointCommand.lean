import Dankong.DoubleYaw
import Dankong.TakeoffRequests

/-!
# Point commands and malformed targets

A point command is answered before anyone looks at its target. The states that
accept it store it first; its heading is turned when it is stored, in loops that may
not end, and the target is read when `MoveState` is entered and again at each of its
ticks, and throws there if it is malformed. A command that is only planned may never
be entered. Atomic handling is what the waypoint listener does: read everything, then
answer.
-/

namespace Dankong.Flight

open Runs Engine

variable {R : Type*} [Field R]

/-- A `PosVelState` is running. -/
def Active.RunsPosVel (a : Active R) : Prop := ∃ e c,a.excursion?=some (.posVel e c)

/-- The target is an array of two or three elements, starts with two numbers, and
can be projected from where the vehicle is. -/
def WellFormed (pf : Platform R) (ctx : RobotContext R) (e : SetPosVelEvent R) : Prop :=
  ∃ lon lat rest x y,e.pos=.arr (lon::lat::rest) ∧ rest.length≤1 ∧
    resolveTarget.number? lon=some x ∧ resolveTarget.number? lat=some y ∧
    ∃ offset,pf.utmOffset ctx.lonLatAlt ⟨x,y,ctx.lonLatAlt.z⟩=.ok offset

namespace Engine

section

variable {pf : Platform R} {id : ℕ} {e : SetPosVelEvent R} {s : Engine R}

/-- Reading a target succeeds exactly on two or three elements that start with two
numbers. -/
theorem resolveTarget_ok_iff (j : Json) (curAlt : R) (target : Vec3 R) :
    resolveTarget j curAlt=.ok target ↔
      ∃ lon lat rest,∃ x y : R,j=.arr (lon::lat::rest) ∧ rest.length≤1 ∧
        resolveTarget.number? lon=some x ∧ resolveTarget.number? lat=some y ∧
        target=⟨x,y,curAlt⟩ := by
  constructor
  · intro h
    cases j with
    | arr items =>
      rw [resolveTarget] at h
      split_ifs at h with hlen
      match items with
      | [] => simp at hlen
      | [_] => simp at hlen
      | lon::lat::rest =>
        rw [List.map_cons,List.map_cons] at h
        cases hlon : resolveTarget.number? (R := R) lon with
        | none =>
          rw [hlon] at h
          cases h
        | some x =>
          cases hlat : resolveTarget.number? (R := R) lat with
          | none =>
            rw [hlon,hlat] at h
            cases h
          | some y =>
            rw [hlon,hlat] at h
            have hrest : rest.length≤1 := by
              simp only [List.length_cons] at hlen
              omega
            exact ⟨lon,lat,rest,x,y,rfl,hrest,hlon,hlat,(Except.ok.inj h).symm⟩
    | _ => cases h
  · rintro ⟨lon,lat,rest,x,y,rfl,hrest,hlon,hlat,rfl⟩
    have hlen : (lon::lat::rest).length=2 ∨ (lon::lat::rest).length=3 := by
      simp only [List.length_cons]
      omega
    rw [resolveTarget,if_pos hlen,List.map_cons,List.map_cons,hlon,hlat]

/-- A command is well formed exactly if `base_move` finds its target. -/
theorem wellFormed_iff (ctx : RobotContext R) :
    WellFormed pf ctx e ↔ ∃ target,baseMove pf ctx e=.ok target := by
  constructor
  · rintro ⟨lon,lat,rest,x,y,hpos,hrest,hlon,hlat,offset,hoffset⟩
    have hresolve : resolveTarget e.pos ctx.lonLatAlt.z=.ok ⟨x,y,ctx.lonLatAlt.z⟩ :=
      (resolveTarget_ok_iff _ _ _).mpr ⟨lon,lat,rest,x,y,hpos,hrest,hlon,hlat,rfl⟩
    rw [baseMove,hresolve]
    dsimp only [bind,Except.bind]
    rw [gpsToEnu,hoffset]
    exact ⟨_,rfl⟩
  · rintro ⟨target,hmove⟩
    cases hresolve : resolveTarget e.pos ctx.lonLatAlt.z with
    | error text =>
      rw [baseMove,hresolve] at hmove
      cases hmove
    | ok resolved =>
      obtain ⟨lon,lat,rest,x,y,hpos,hrest,hlon,hlat,rfl⟩ := (resolveTarget_ok_iff _ _ _).mp hresolve
      cases hoffset : pf.utmOffset ctx.lonLatAlt ⟨x,y,ctx.lonLatAlt.z⟩ with
      | error text =>
        rw [baseMove,hresolve] at hmove
        dsimp only [bind,Except.bind] at hmove
        rw [gpsToEnu,hoffset] at hmove
        cases hmove
      | ok offset => exact ⟨lon,lat,rest,x,y,hpos,hrest,hlon,hlat,offset,hoffset⟩

/-- Turning the heading leaves the target. -/
theorem baseMove_setTarget {kept : SetPosVelEvent R} (h : setTarget pf e=some kept)
    (ctx : RobotContext R) : baseMove pf ctx kept=baseMove pf ctx e := by
  have hpos : kept.pos=e.pos := by
    dsimp only [setTarget] at h
    split at h
    · rw [Option.some.inj h]
    · obtain ⟨yaw,_,rfl⟩ := Option.map_eq_some_iff.mp h
      rfl
  rw [baseMove,baseMove,hpos]

omit [Field R] in
/-- Entering a state ends all its loops. -/
theorem goto_hangs (s : Engine R) (a : Active R) : (s.goto a).hangs=s.hangs := by
  rw [hangs,hangs,goto_log]

omit [Field R] in
/-- An interruption is what is then executed. -/
theorem interrupt_excursion (s : Engine R) (x : Excursion R) :
    (s.interrupt x).active.excursion?=some x ∧ (s.interrupt x).ctx=s.ctx ∧
      (s.interrupt x).hangs=s.hangs := by
  dsimp only [interrupt]
  split <;> exact ⟨rfl,goto_ctx _ _,goto_hangs _ _⟩

/-- A running `PosVelState` drops its target for a malformed one, and throws. -/
theorem malformed_stored {kept : SetPosVelEvent R} (h : s.active.RunsPosVel)
    (hbad : ¬WellFormed pf s.ctx e) (hkept : setTarget pf e=some kept) :
    (s.onSetPosVel pf id e).active.excursion?=some (.posVel kept .move) ∧
      (s.onSetPosVel pf id e).log=.posVelThrew::s.log := by
  obtain ⟨e',c,hactive⟩ := h
  have heq : s.onSetPosVel pf id e=(s.answer id (.ok "OK")).moveTo pf e := by
    dsimp only [onSetPosVel]
    rw [hactive]
  obtain ⟨hexcursion,_,_⟩ := interrupt_excursion (s.answer id (.ok "OK")) (.posVel kept .move)
  rw [heq,moveTo,hkept]
  dsimp only
  split
  · rename_i target htarget
    rw [baseMove_setTarget hkept] at htarget
    exact absurd ((wellFormed_iff s.ctx).mpr ⟨target,htarget⟩) hbad
  · refine ⟨hexcursion,?_⟩
    dsimp only [interrupt]
    split
    · rw [emit_log,goto_log,answer_log]
    · rw [emit_log,goto_log,answer_log]

/-- From then on every tick of `MoveState` throws as well while the target cannot be read. -/
theorem malformed_tick_throws (h : s.active.excursion?=some (.posVel e .move))
    (hbad : ¬WellFormed pf s.ctx e) (o : TickObs) : s.tick pf o=s.emit .posVelThrew := by
  have htick : s.posVelTick pf e .move o=s.emit .posVelThrew := by
    dsimp only [posVelTick]
    split
    · rfl
    · rename_i target htarget
      exact absurd ((wellFormed_iff s.ctx).mpr ⟨target,htarget⟩) hbad
  rw [←htick,tick]
  cases hactive : s.active with
  | hover x =>
    rw [hactive] at h
    obtain rfl : x=_ := h
    rfl
  | waypoint w c =>
    rw [hactive] at h
    cases c with
    | excursion x =>
      obtain rfl := Option.some.inj h
      rfl
    | _ => cases h
  | _ =>
    rw [hactive] at h
    cases h

end

end Engine

end Dankong.Flight

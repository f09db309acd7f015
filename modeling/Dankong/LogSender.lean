import Mathlib.Logic.Function.Basic
import Dankong.LossyQueue
import Dankong.Runs

/-!
# The log sender

`WebSocketEngine` between one `start` and its `stop`: producers queue frames, a worker
thread sends them, and whoever stops the engine waits for the worker to end. A schedule
picks the thread that makes the next step, from one access to what the threads share to
the next. Order and loss of the frames do not depend on the schedule. Whether `stop`
returns does: it clears the flag without the mutex, so its notification can fall
between the worker's test of the flag and its wait.
-/

namespace Dankong.LogSender

open Runs

/-- Where the worker is in `worker_loop`. -/
inductive Worker (Frame : Type*) where
  /-- About to take the mutex: at the start of a turn, or woken from the wait. -/
  | arriving
  /-- Holds the mutex and is about to test the predicate of the wait. -/
  | testing
  /-- Found the predicate false and is about to wait. -/
  | yielding
  /-- Waits on the condition variable. -/
  | waiting
  /-- Found the predicate true. -/
  | ready
  /-- Holds the mutex and the frame it has taken. -/
  | holding (frame : Frame)
  /-- Has released the mutex and is about to send the frame. -/
  | sending (frame : Frame)
  /-- Leaves the loop, still holding the mutex. -/
  | leaving
  /-- The thread has ended. -/
  | ended

/-- Where a producer is in `try_push`. -/
inductive Producer (Frame : Type*) where
  /-- In no call. -/
  | idle
  /-- About to check whether the engine runs and somebody listens. -/
  | entered (frame : Frame)
  /-- Has passed the check and is about to take the mutex. -/
  | ready (frame : Frame)
  /-- Holds the mutex. -/
  | locked (frame : Frame)
  /-- Has queued its frame and still holds the mutex. -/
  | pushed
  /-- Has released the mutex and is about to notify. -/
  | notifying

/-- Where the caller of `stop` is. -/
inductive Stopper where
  /-- Has not called it. -/
  | idle
  /-- Found the flag set and is about to clear it. -/
  | entered
  /-- Has cleared the flag and is about to notify. -/
  | cleared
  /-- Has notified and waits for the worker to end. -/
  | joining
  /-- The call has returned. -/
  | returned
  deriving DecidableEq

/-- Who holds the mutex. -/
inductive Holder where
  | worker
  | producer (i : ℕ)
  deriving DecidableEq

/-- A started engine. -/
structure Engine (Frame : Type*) where
  /-- `m_running`. -/
  running : Bool
  /-- `m_mutex`. -/
  mutex : Option Holder
  /-- `m_queue`, with its history. -/
  frames : LossyQueue Frame 1024
  /-- `m_thread`. -/
  worker : Worker Frame
  /-- The threads that call `try_push`. -/
  producers : ℕ → Producer Frame
  /-- The thread that calls `stop`. -/
  stopper : Stopper
  /-- The frames handed to `m_ws_sender`, oldest first. -/
  sent : List Frame

/-- What a schedule can do. -/
inductive Action (Frame : Type*) where
  /-- The worker makes its next step. A frame is handed over if somebody listens. -/
  | worker (enabled : Bool)
  /-- The wait returns without a notification. -/
  | spurious
  /-- A producer calls `try_push`. -/
  | call (i : ℕ) (frame : Frame)
  /-- A producer makes its next step. A frame is only queued if somebody listens. -/
  | producer (i : ℕ) (enabled : Bool)
  /-- The caller of `stop` makes its next step. -/
  | stop

namespace Engine

variable {Frame : Type*}

/-- The engine after `start`, with what an earlier run left in the queue. -/
def started (frames : LossyQueue Frame 1024) : Engine Frame where
  running := true
  mutex := none
  frames := frames
  worker := .arriving
  producers := fun _ => .idle
  stopper := .idle
  sent := []

/-- A notification: the worker is the only thread that waits. -/
def notify (s : Engine Frame) : Engine Frame :=
  match s.worker with
  | .waiting => { s with worker := .arriving }
  | _ => s

/-- The next step of `worker_loop`. -/
def workerStep (enabled : Bool) (s : Engine Frame) : Engine Frame :=
  match s.worker with
  | .arriving => if s.mutex=none then { s with mutex := some .worker, worker := .testing } else s
  | .testing =>
    if !s.frames.queue.isEmpty || !s.running then { s with worker := .ready }
    else { s with worker := .yielding }
  | .yielding => { s with mutex := none, worker := .waiting }
  | .waiting => s
  | .ready =>
    if s.frames.queue.isEmpty && !s.running then { s with worker := .leaving }
    else match s.frames.queue with
      | [] => s
      | frame::_ => { s with frames := s.frames.pop, worker := .holding frame }
  | .holding frame => { s with mutex := none, worker := .sending frame }
  | .sending frame =>
    { s with worker := .arriving, sent := if enabled=true then s.sent++[frame] else s.sent }
  | .leaving => { s with mutex := none, worker := .ended }
  | .ended => s

/-- A producer moves on. -/
def move (s : Engine Frame) (i : ℕ) (p : Producer Frame) : Engine Frame :=
  { s with producers := Function.update s.producers i p }

/-- The next step of `try_push`. -/
def producerStep (i : ℕ) (enabled : Bool) (s : Engine Frame) : Engine Frame :=
  match s.producers i with
  | .idle => s
  | .entered frame => s.move i (if !s.running || !enabled then .idle else .ready frame)
  | .ready frame =>
    if s.mutex=none then { s.move i (.locked frame) with mutex := some (.producer i) } else s
  | .locked frame => { s.move i .pushed with frames := s.frames.push frame }
  | .pushed => { s.move i .notifying with mutex := none }
  | .notifying => (s.move i .idle).notify

/-- The next step of `stop`. -/
def stopStep (s : Engine Frame) : Engine Frame :=
  match s.stopper with
  | .idle => { s with stopper := if s.running then .entered else .returned }
  | .entered => { s with running := false, stopper := .cleared }
  | .cleared => { s.notify with stopper := .joining }
  | .joining =>
    match s.worker with
    | .ended => { s with stopper := .returned }
    | _ => s
  | .returned => s

/-- One action. What is not possible changes nothing. -/
def apply (s : Engine Frame) : Action Frame → Engine Frame
  | .worker enabled => s.workerStep enabled
  | .spurious => s.notify
  | .call i frame =>
    match s.producers i with
    | .idle => s.move i (.entered frame)
    | _ => s
  | .producer i enabled => s.producerStep i enabled
  | .stop => s.stopStep

end Engine

/-- Positions of the worker in which it holds the mutex. -/
def Worker.InSection {Frame : Type*} : Worker Frame → Prop
  | .testing | .yielding | .ready | .holding _ | .leaving => True
  | _ => False

/-- The frame the worker has taken and not yet handed over or given up. -/
def Worker.inHand {Frame : Type*} : Worker Frame → List Frame
  | .holding frame | .sending frame => [frame]
  | _ => []

/-- Positions of a producer in which it holds the mutex. -/
def Producer.InSection {Frame : Type*} : Producer Frame → Prop
  | .locked _ | .pushed => True
  | _ => False

/-- Positions of a producer past its check: it will notify. -/
def Producer.WillNotify {Frame : Type*} : Producer Frame → Prop
  | .ready _ | .locked _ | .pushed | .notifying => True
  | _ => False

/-- What holds in every state a schedule can reach. -/
structure Consistent {Frame : Type*} (s : Engine Frame) : Prop where
  /-- The worker has the mutex exactly inside its critical section. -/
  worker : s.mutex=some .worker ↔ s.worker.InSection
  /-- So does every producer. -/
  producer : ∀ i,s.mutex=some (.producer i) ↔ (s.producers i).InSection
  /-- The worker only waits for an empty queue to fill. -/
  yields : s.worker=.yielding → s.frames.queue=[]
  /-- The worker never takes from an empty queue. -/
  takes : s.worker=.ready → s.frames.queue≠[] ∨ s.running=false
  /-- What was sent, and then what the worker has in hand, was taken in that order. -/
  order : (s.sent++s.worker.inHand).Sublist s.frames.taken
  /-- Only `stop` clears the flag. -/
  flag : s.running=true ↔ s.stopper=.idle ∨ s.stopper=.entered

/-- The caller of `stop` waits for a worker that waits for frames, and whatever follows
does not wake it. -/
structure Stuck {Frame : Type*} (s : Engine Frame) : Prop where
  /-- `stop` has notified and waits. -/
  joins : s.stopper=.joining
  /-- The worker waits. -/
  waits : s.worker=.waiting
  /-- There is nothing to send. -/
  empty : s.frames.queue=[]
  /-- No continuation wakes the worker, unless its wait returns by itself. -/
  forever : ∀ later : List (Action Frame),(∀ a∈later,a≠.spurious) →
    (runFrom Engine.apply s later).worker=.waiting

/-- The same seen in the state: no notification is left to come. -/
structure Asleep {Frame : Type*} (s : Engine Frame) : Prop where
  /-- `stop` has notified and waits. -/
  joins : s.stopper=.joining
  /-- The worker waits. -/
  waits : s.worker=.waiting
  /-- There is nothing to send. -/
  empty : s.frames.queue=[]
  /-- No producer is past its check. -/
  silent : ∀ i,¬(s.producers i).WillNotify

/-- Some continuation wakes the worker. -/
def CanWake {Frame : Type*} (s : Engine Frame) : Prop :=
  ∃ later : List (Action Frame),(∀ a∈later,a≠.spurious) ∧
    (runFrom Engine.apply s later).worker≠.waiting

/-- The worker does not go to wait after `stop` has notified, unless a producer past its
check is still to notify. -/
def WaitsInTime {Frame : Type*} (s : Engine Frame) : Action Frame → Prop
  | .worker _ => s.worker=.yielding → s.stopper=.joining → ∃ i,(s.producers i).WillNotify
  | _ => True

/-- `stop` does not notify between the worker's test of the predicate and its wait. -/
def NotifiesInTime {Frame : Type*} (s : Engine Frame) : Action Frame → Prop
  | .stop => s.stopper=.cleared → s.worker≠.yielding
  | _ => True

/-- Bound, order and loss of the frames. -/
structure FramesInOrder {Frame : Type*} (s : Engine Frame) : Prop where
  /-- The queue never exceeds 1024 frames. -/
  bounded : s.frames.queue.length≤1024
  /-- What was sent is part of what was queued, in order. -/
  ordered : s.sent.Sublist s.frames.queued
  /-- A frame was dropped only after 1024 newer ones had been queued. -/
  late : ∀ k frame,s.frames.gone[k]?=some (frame,.dropped) →
    s.frames.queued[k]?=some frame ∧ k+1024<s.frames.queued.length

section

open Engine

variable {Frame : Type*} {s : Engine Frame}

/-- A started engine is consistent. -/
theorem started_consistent (frames : LossyQueue Frame 1024) : Consistent (started frames) where
  worker := iff_of_false nofun (fun h => h)
  producer := fun _ => iff_of_false nofun (fun h => h)
  yields := nofun
  takes := nofun
  order := List.nil_sublist _
  flag := iff_of_true rfl (Or.inl rfl)

/-- A notification leaves everything but a waiting worker alone. -/
theorem notify_cases (s : Engine Frame) :
    s.worker=.waiting ∧ s.notify={ s with worker := .arriving } ∨
      s.worker≠.waiting ∧ s.notify=s := by
  rw [notify]
  cases hw : s.worker
  case waiting => exact Or.inl ⟨rfl,rfl⟩
  all_goals exact Or.inr ⟨nofun,rfl⟩

/-- A notification keeps the engine consistent. -/
theorem notify_consistent (h : Consistent s) : Consistent s.notify := by
  rcases notify_cases s with ⟨hw,heq⟩|⟨_,heq⟩
  · rw [heq]
    have hworker := h.worker
    have horder := h.order
    rw [hw] at hworker horder
    exact { h with worker := hworker, yields := nofun, takes := nofun, order := horder }
  · rw [heq]
    exact h

/-- While somebody else or nobody has the mutex, a producer is outside its section. -/
theorem producer_outside (h : Consistent s) {i : ℕ} (hm : s.mutex≠some (.producer i)) :
    ¬(s.producers i).InSection :=
  fun hi => hm ((h.producer i).mpr hi)

/-- While a producer or nobody has the mutex, the worker is outside its section. -/
theorem worker_outside (h : Consistent s) (hm : s.mutex≠some .worker) : ¬s.worker.InSection :=
  fun hi => hm (h.worker.mpr hi)

/-- A position outside the section is none inside. -/
theorem ne_of_outside {w w' : Worker Frame} (hout : ¬w.InSection) (hin : w'.InSection) : w≠w' :=
  fun heq => hout (by rwa [heq])

/-- The worker gives the mutex back when it leaves its section. -/
theorem release_consistent {w : Worker Frame} (h : Consistent s) (hin : s.worker.InSection)
    (hout : ¬w.InSection) (hhand : w.inHand=s.worker.inHand) :
    Consistent { s with mutex := none, worker := w } where
  worker := iff_of_false nofun hout
  producer := fun i => by
    have hmutex := h.worker.mpr hin
    exact iff_of_false nofun (producer_outside h (by rw [hmutex]; nofun))
  yields := fun hw => absurd hw (ne_of_outside hout trivial)
  takes := fun hw => absurd hw (ne_of_outside hout trivial)
  order := by
    rw [hhand]
    exact h.order
  flag := h.flag

/-- The worker keeps the engine consistent. -/
theorem workerStep_consistent (enabled : Bool) (h : Consistent s) :
    Consistent (s.workerStep enabled) := by
  have hworker := h.worker
  have horder := h.order
  rw [workerStep]
  cases hw : s.worker with
  | arriving =>
    rw [hw] at horder
    dsimp only
    split_ifs with hfree
    · exact {
        worker := iff_of_true rfl trivial
        producer := fun i => iff_of_false nofun (producer_outside h (by rw [hfree]; nofun))
        yields := nofun
        takes := nofun
        order := horder
        flag := h.flag }
    · exact h
  | testing =>
    rw [hw] at hworker horder
    dsimp only
    split_ifs with hpred
    · rw [Bool.or_eq_true,Bool.not_eq_true',Bool.not_eq_true',List.isEmpty_eq_false_iff] at hpred
      exact { h with worker := hworker, yields := nofun, takes := fun _ => hpred, order := horder }
    · rw [Bool.or_eq_true,not_or,Bool.not_eq_true',Bool.not_eq_false,List.isEmpty_iff] at hpred
      exact { h with worker := hworker, yields := fun _ => hpred.1, takes := nofun, order := horder }
  | yielding => exact release_consistent h (hw ▸ trivial) (fun hin => hin) (by rw [hw]; rfl)
  | waiting => exact h
  | ready =>
    rw [hw] at hworker horder
    dsimp only
    split_ifs with hends
    · exact { h with worker := hworker, yields := nofun, takes := nofun, order := horder }
    · cases hq : s.frames.queue with
      | nil => exact h
      | cons frame rest =>
        have htaken := LossyQueue.taken_pop hq
        refine { h with worker := hworker, yields := nofun, takes := nofun, order := ?_ }
        dsimp only [Worker.inHand] at horder ⊢
        rw [List.append_nil] at horder
        rw [htaken]
        exact horder.append (List.Sublist.refl _)
  | holding frame => exact release_consistent h (hw ▸ trivial) (fun hin => hin) (by rw [hw]; rfl)
  | sending frame =>
    rw [hw] at hworker horder
    refine { h with worker := hworker, yields := nofun, takes := nofun, order := ?_ }
    dsimp only [Worker.inHand] at horder ⊢
    rw [List.append_nil]
    split_ifs
    · exact horder
    · exact (List.sublist_append_left _ _).trans horder
  | leaving => exact release_consistent h (hw ▸ trivial) (fun hin => hin) (by rw [hw]; rfl)
  | ended => exact h

/-- A producer that moved is where it moved to. -/
theorem move_self (i : ℕ) (p : Producer Frame) : (s.move i p).producers i=p := by
  dsimp only [move]
  exact Function.update_self i p s.producers

/-- The others are where they were. -/
theorem move_other {i j : ℕ} (hne : j≠i) (p : Producer Frame) :
    (s.move i p).producers j=s.producers j := by
  dsimp only [move]
  exact Function.update_of_ne hne p s.producers

/-- A producer that moved past its check will notify. -/
theorem move_willNotify {i : ℕ} {p : Producer Frame} (hp : p.WillNotify) :
    ((s.move i p).producers i).WillNotify := by
  rwa [move_self]

/-- A step of a producer that leaves the mutex alone. -/
theorem move_consistent {i : ℕ} {p : Producer Frame} (h : Consistent s)
    (hp : p.InSection ↔ (s.producers i).InSection) : Consistent (s.move i p) where
  worker := h.worker
  producer := fun j => by
    rcases eq_or_ne j i with rfl|hne
    · rw [move_self,hp]
      exact h.producer j
    · rw [move_other hne]
      exact h.producer j
  yields := h.yields
  takes := h.takes
  order := h.order
  flag := h.flag

/-- A step of a producer into, within or out of its section. -/
theorem section_consistent {i : ℕ} {p : Producer Frame} {mutex : Option Holder}
    {frames : LossyQueue Frame 1024} (h : Consistent s)
    (hbefore : s.mutex=none ∨ s.mutex=some (.producer i))
    (hafter : mutex=none ∧ ¬p.InSection ∨ mutex=some (.producer i) ∧ p.InSection)
    (htaken : frames.taken=s.frames.taken) :
    Consistent { s.move i p with mutex := mutex, frames := frames } := by
  have hworker : ¬s.worker.InSection := by
    refine worker_outside h ?_
    rcases hbefore with hm|hm
    all_goals
      rw [hm]
      nofun
  have hothers : ∀ j,j≠i → ¬(s.producers j).InSection := by
    intro j hne
    refine producer_outside h ?_
    rcases hbefore with hm|hm
    · rw [hm]
      nofun
    · rw [hm]
      exact fun heq => hne (Holder.producer.inj (Option.some.inj heq)).symm
  refine ⟨iff_of_false ?_ hworker,fun j => ?_,fun hw => ?_,fun hw => ?_,?_,h.flag⟩
  · rcases hafter with ⟨hm,_⟩|⟨hm,_⟩
    all_goals
      rw [hm]
      nofun
  · rcases eq_or_ne j i with rfl|hne
    · have hself := move_self (s := s) j p
      rcases hafter with ⟨hm,hp⟩|⟨hm,hp⟩
      · exact iff_of_false (by rw [hm]; nofun) (by rw [hself]; exact hp)
      · exact iff_of_true hm (by rw [hself]; exact hp)
    · have hother := move_other (s := s) hne p
      refine iff_of_false ?_ (by rw [hother]; exact hothers j hne)
      rcases hafter with ⟨hm,_⟩|⟨hm,_⟩
      · rw [hm]
        nofun
      · rw [hm]
        exact fun heq => hne (Holder.producer.inj (Option.some.inj heq)).symm
  · exact absurd hw (ne_of_outside hworker trivial)
  · exact absurd hw (ne_of_outside hworker trivial)
  · rw [htaken]
    exact h.order

/-- A producer keeps the engine consistent. -/
theorem producerStep_consistent (i : ℕ) (enabled : Bool) (h : Consistent s) :
    Consistent (s.producerStep i enabled) := by
  have hsection := h.producer i
  rw [producerStep]
  cases hp : s.producers i with
  | idle => exact h
  | entered frame =>
    refine move_consistent h ?_
    rw [hp]
    split_ifs <;> exact Iff.rfl
  | ready frame =>
    dsimp only
    split_ifs with hfree
    · exact section_consistent h (Or.inl hfree) (Or.inr ⟨rfl,trivial⟩) rfl
    · exact h
  | locked frame =>
    rw [hp] at hsection
    have hmutex := hsection.mpr trivial
    exact section_consistent h (Or.inr hmutex) (Or.inr ⟨hmutex,trivial⟩)
      (LossyQueue.taken_push _ frame)
  | pushed =>
    rw [hp] at hsection
    exact section_consistent h (Or.inr (hsection.mpr trivial)) (Or.inl ⟨rfl,fun hin => hin⟩) rfl
  | notifying =>
    refine notify_consistent (move_consistent h ?_)
    rw [hp]
    exact Iff.rfl

/-- Once `stop` has cleared the flag it stays cleared. -/
theorem not_running (h : Consistent s) (hidle : s.stopper≠.idle) (hentered : s.stopper≠.entered) :
    s.running=false :=
  Bool.eq_false_iff.mpr fun hruns => (h.flag.mp hruns).elim hidle hentered

/-- So does the caller of `stop`. -/
theorem stopStep_consistent (h : Consistent s) : Consistent s.stopStep := by
  have hflag := h.flag
  rw [stopStep]
  cases hs : s.stopper with
  | idle =>
    rw [hs] at hflag
    have hruns : s.running=true := hflag.mpr (Or.inl rfl)
    dsimp only
    rw [if_pos hruns]
    exact { h with flag := iff_of_true hruns (Or.inr rfl) }
  | entered =>
    exact { h with
      takes := fun _ => Or.inr rfl
      flag := iff_of_false nofun (fun hor => hor.elim nofun nofun) }
  | cleared =>
    have hnotified := notify_consistent h
    have hstops : s.notify.running=false := by
      have hcleared := not_running h (by rw [hs]; nofun) (by rw [hs]; nofun)
      rcases notify_cases s with ⟨_,heq⟩|⟨_,heq⟩
      all_goals
        rw [heq]
        exact hcleared
    exact { hnotified with
      flag := iff_of_false (by rw [hstops]; nofun) (fun hor => hor.elim nofun nofun) }
  | joining =>
    have hstops := not_running h (by rw [hs]; nofun) (by rw [hs]; nofun)
    dsimp only
    split
    · exact { h with
        flag := iff_of_false (by rw [hstops]; nofun) (fun hor => hor.elim nofun nofun) }
    · exact h
  | returned => exact h

/-- Every action keeps the engine consistent. -/
theorem apply_consistent (s : Engine Frame) (a : Action Frame) (h : Consistent s) :
    Consistent (s.apply a) := by
  cases a with
  | worker enabled => exact workerStep_consistent enabled h
  | spurious => exact notify_consistent h
  | call i frame =>
    rw [apply]
    cases hp : s.producers i
    case idle =>
      refine move_consistent h ?_
      rw [hp]
      exact Iff.rfl
    all_goals exact h
  | producer i enabled => exact producerStep_consistent i enabled h
  | stop => exact stopStep_consistent h

/-- Every schedule leads to a consistent engine. -/
theorem run_consistent (frames : LossyQueue Frame 1024) (actions : List (Action Frame)) :
    Consistent (runFrom apply (started frames) actions) :=
  run_invariant apply_consistent actions (started_consistent frames)

/-- Whoever is notified does not wait. -/
theorem notify_not_waiting (s : Engine Frame) : s.notify.worker≠.waiting := by
  rcases notify_cases s with ⟨_,heq⟩|⟨hw,heq⟩
  · rw [heq]
    nofun
  · rw [heq]
    exact hw

/-- What can be woken after a step can be woken before it. -/
theorem canWake_of_apply {a : Action Frame} (ha : a≠.spurious) (h : CanWake (s.apply a)) :
    CanWake s := by
  obtain ⟨later,hlater,hwakes⟩ := h
  exact ⟨a::later,List.forall_mem_cons.mpr ⟨ha,hlater⟩,hwakes⟩

/-- A producer about to notify wakes the worker. -/
theorem canWake_notifying {i : ℕ} (hp : s.producers i=.notifying) : CanWake s := by
  refine ⟨[.producer i true],List.forall_mem_singleton.mpr nofun,?_⟩
  rw [runFrom_cons,runFrom_nil,apply,producerStep,hp]
  exact notify_not_waiting _

/-- So does one that has queued its frame, -/
theorem canWake_pushed {i : ℕ} (hp : s.producers i=.pushed) : CanWake s := by
  have hnotifying : (s.apply (.producer i true)).producers i=.notifying := by
    rw [apply,producerStep,hp]
    exact move_self i _
  exact canWake_of_apply (a := .producer i true) nofun (canWake_notifying hnotifying)

/-- one that holds the mutex, -/
theorem canWake_locked {i : ℕ} {frame : Frame} (hp : s.producers i=.locked frame) : CanWake s := by
  have hpushed : (s.apply (.producer i true)).producers i=.pushed := by
    rw [apply,producerStep,hp]
    exact move_self i _
  exact canWake_of_apply (a := .producer i true) nofun (canWake_pushed hpushed)

/-- and one that can take it. -/
theorem canWake_ready {i : ℕ} {frame : Frame} (hp : s.producers i=.ready frame)
    (hfree : s.mutex=none) : CanWake s := by
  have hlocked : (s.apply (.producer i true)).producers i=.locked frame := by
    rw [apply,producerStep,hp]
    dsimp only
    rw [if_pos hfree]
    exact move_self i _
  exact canWake_of_apply (a := .producer i true) nofun (canWake_locked hlocked)

/-- Whoever holds the mutex while the worker waits wakes it. -/
theorem canWake_holder (h : Consistent s) {i : ℕ} (hm : s.mutex=some (.producer i)) :
    CanWake s := by
  have hsection := (h.producer i).mp hm
  cases hp : s.producers i with
  | locked frame => exact canWake_locked hp
  | pushed => exact canWake_pushed hp
  | _ =>
    rw [hp] at hsection
    exact hsection.elim

/-- A producer past its check wakes a worker that waits, after whoever holds the mutex. -/
theorem canWake_of_willNotify (h : Consistent s) (hw : s.worker=.waiting) {i : ℕ}
    (hi : (s.producers i).WillNotify) : CanWake s := by
  cases hm : s.mutex with
  | none =>
    cases hp : s.producers i with
    | ready frame => exact canWake_ready hp hm
    | locked frame => exact canWake_locked hp
    | pushed => exact canWake_pushed hp
    | notifying => exact canWake_notifying hp
    | _ =>
      rw [hp] at hi
      exact hi.elim
  | some holder =>
    cases holder with
    | worker =>
      have hin := h.worker.mp hm
      rw [hw] at hin
      exact hin.elim
    | producer j => exact canWake_holder h hm

/-- A producer that moves without passing its check wakes nobody. -/
theorem Asleep.move (hs : Asleep s) (i : ℕ) {p : Producer Frame} (hp : ¬p.WillNotify) :
    Asleep (s.move i p) := by
  refine ⟨hs.joins,hs.waits,hs.empty,fun j => ?_⟩
  rcases eq_or_ne j i with rfl|hne
  · rwa [move_self]
  · rw [move_other hne]
    exact hs.silent j

/-- Nor did one that had not passed it before it moved. -/
theorem asleep_of_move {i : ℕ} {p : Producer Frame} (hi : ¬(s.producers i).WillNotify)
    (hs : Asleep (s.move i p)) : Asleep s := by
  have hback : (s.move i p).move i (s.producers i)=s := by
    dsimp only [Engine.move]
    rw [Function.update_idem,Function.update_eq_self]
  rw [←hback]
  exact hs.move i hi

/-- Without a notification to come nothing wakes the worker. -/
theorem asleep_apply (h : Consistent s) (hs : Asleep s) {a : Action Frame} (ha : a≠.spurious) :
    Asleep (s.apply a) := by
  have hstops := not_running h (by rw [hs.joins]; nofun) (by rw [hs.joins]; nofun)
  cases a with
  | worker enabled =>
    rw [apply,workerStep,hs.waits]
    exact hs
  | spurious => exact absurd rfl ha
  | call i frame =>
    rw [apply]
    split
    · exact hs.move i (fun hp => hp)
    · exact hs
  | producer i enabled =>
    have hsilent := hs.silent i
    rw [apply,producerStep]
    cases hp : s.producers i with
    | idle => exact hs
    | entered frame =>
      dsimp only
      rw [hstops]
      exact hs.move i (fun hp => hp)
    | _ =>
      rw [hp] at hsilent
      exact absurd trivial hsilent
  | stop =>
    rw [apply,stopStep,hs.joins]
    dsimp only
    rw [hs.waits]
    exact hs

/-- Being stuck can be seen in the state. -/
theorem stuck_iff (h : Consistent s) : Stuck s ↔ Asleep s := by
  constructor
  · rintro ⟨hjoins,hwaits,hempty,hforever⟩
    refine ⟨hjoins,hwaits,hempty,fun i hi => ?_⟩
    obtain ⟨later,hlater,hwakes⟩ := canWake_of_willNotify h hwaits hi
    exact hwakes (hforever later hlater)
  · intro hs
    refine ⟨hs.joins,hs.waits,hs.empty,fun later hlater => ?_⟩
    have hguarded : Guarded apply (fun _ a => a≠.spurious) s later :=
      guarded_of_mem later (fun a ha _ => hlater a ha) s
    have hstep : ∀ (t : Engine Frame) (a : Action Frame),Consistent t ∧ Asleep t → a≠.spurious →
        Consistent (t.apply a) ∧ Asleep (t.apply a) :=
      fun t a ht ha => ⟨apply_consistent t a ht.1,asleep_apply ht.1 ht.2 ha⟩
    exact (guarded_invariant hstep later ⟨h,hs⟩ hguarded).2.waits

/-- The wait of the worker falls asleep exactly if it comes too late. -/
theorem asleep_yielding (h : Consistent s) (hw : s.worker=.yielding) (enabled : Bool) :
    ¬Asleep (s.apply (.worker enabled)) ↔ WaitsInTime s (.worker enabled) := by
  have hstep : s.apply (.worker enabled)={ s with mutex := none, worker := .waiting } := by
    rw [apply,workerStep,hw]
  rw [hstep,not_iff_comm]
  constructor
  · intro hlate
    dsimp only [WaitsInTime] at hlate
    push Not at hlate
    obtain ⟨_,hjoins,hsilent⟩ := hlate
    exact ⟨hjoins,rfl,h.yields hw,hsilent⟩
  · intro hs hintime
    obtain ⟨i,hi⟩ := hintime hw hs.joins
    exact hs.silent i hi

/-- The worker only comes to wait from where it gives the mutex back for that. -/
theorem workerStep_waiting {enabled : Bool} (hw : (s.workerStep enabled).worker=.waiting) :
    s.worker=.yielding ∨ s.workerStep enabled=s := by
  rw [workerStep] at hw ⊢
  cases hp : s.worker with
  | yielding => exact Or.inl rfl
  | waiting | ended => exact Or.inr rfl
  | arriving =>
    rw [hp] at hw
    dsimp only at hw
    split_ifs at hw
    exact nomatch hp.symm.trans hw
  | testing =>
    rw [hp] at hw
    dsimp only at hw
    split_ifs at hw
  | ready =>
    rw [hp] at hw
    dsimp only at hw
    split_ifs at hw
    split at hw
    · exact nomatch hp.symm.trans hw
    · exact nomatch hw
  | _ =>
    rw [hp] at hw
    exact nomatch hw

/-- No step of a producer puts the engine to sleep, -/
theorem asleep_of_producerStep {i : ℕ} {enabled : Bool} (hs : Asleep (s.producerStep i enabled)) :
    Asleep s := by
  rw [producerStep] at hs
  cases hp : s.producers i with
  | idle =>
    rw [hp] at hs
    exact hs
  | entered frame =>
    rw [hp] at hs
    exact asleep_of_move (by rw [hp]; exact fun hi => hi) hs
  | ready frame =>
    rw [hp] at hs
    dsimp only at hs
    split_ifs at hs
    · exact absurd (move_willNotify (p := .locked frame) trivial) (hs.silent i)
    · exact hs
  | locked frame =>
    rw [hp] at hs
    exact absurd (move_willNotify (p := .pushed) trivial) (hs.silent i)
  | pushed =>
    rw [hp] at hs
    exact absurd (move_willNotify (p := .notifying) trivial) (hs.silent i)
  | notifying =>
    rw [hp] at hs
    exact absurd hs.waits (notify_not_waiting _)

/-- and none of the caller of `stop`. -/
theorem asleep_of_stopStep (hs : Asleep s.stopStep) : Asleep s := by
  have hjoins := hs.joins
  rw [stopStep] at hs hjoins
  cases hp : s.stopper with
  | idle =>
    rw [hp] at hjoins
    dsimp only at hjoins
    split_ifs at hjoins
  | entered =>
    rw [hp] at hjoins
    exact nomatch hjoins
  | cleared =>
    rw [hp] at hs
    exact absurd hs.waits (notify_not_waiting s)
  | joining =>
    rw [hp] at hs
    dsimp only at hs
    split at hs
    · exact nomatch hs.joins
    · exact hs
  | returned =>
    rw [hp] at hs
    exact hs

/-- No other step falls asleep. -/
theorem asleep_of_apply {a : Action Frame}
    (ha : ∀ enabled,a=.worker enabled → s.worker≠.yielding) (hs : Asleep (s.apply a)) :
    Asleep s := by
  cases a with
  | worker enabled =>
    rcases workerStep_waiting hs.waits with hw|heq
    · exact absurd hw (ha enabled rfl)
    · rwa [apply,heq] at hs
  | spurious => exact absurd hs.waits (notify_not_waiting s)
  | call i frame =>
    rw [apply] at hs
    cases hp : s.producers i
    all_goals rw [hp] at hs
    case idle => exact asleep_of_move (by rw [hp]; exact fun hi => hi) hs
    all_goals exact hs
  | producer i enabled => exact asleep_of_producerStep hs
  | stop => exact asleep_of_stopStep hs

/-- An engine that is not asleep stays so exactly if the worker waits in time. -/
theorem awake_apply_iff (h : Consistent s) (hs : ¬Asleep s) (a : Action Frame) :
    ¬Asleep (s.apply a) ↔ WaitsInTime s a := by
  by_cases hyields : ∃ enabled,a=.worker enabled ∧ s.worker=.yielding
  · obtain ⟨enabled,rfl,hw⟩ := hyields
    exact asleep_yielding h hw enabled
  · have hother : ∀ enabled,a=.worker enabled → s.worker≠.yielding :=
      fun enabled ha hw => hyields ⟨enabled,ha,hw⟩
    refine iff_of_true (fun hafter => hs (asleep_of_apply hother hafter)) ?_
    cases a with
    | worker enabled => exact fun hw => absurd hw (hother enabled rfl)
    | _ => trivial

/-- The worker only goes to wait if it found the flag set. -/
theorem workerStep_yielding {enabled : Bool} (hy : (s.workerStep enabled).worker=.yielding) :
    s.running=true ∧ (s.workerStep enabled).stopper=s.stopper := by
  rw [workerStep] at hy ⊢
  cases hw : s.worker with
  | testing =>
    rw [hw] at hy
    dsimp only at hy ⊢
    split_ifs at hy ⊢ with hpred
    rw [Bool.or_eq_true,not_or,Bool.not_eq_true',Bool.not_eq_true',Bool.not_eq_false,
      Bool.not_eq_false] at hpred
    exact ⟨hpred.2,rfl⟩
  | arriving =>
    rw [hw] at hy
    dsimp only at hy
    split_ifs at hy
    exact nomatch hw.symm.trans hy
  | ready =>
    rw [hw] at hy
    dsimp only at hy
    split_ifs at hy
    split at hy
    · exact nomatch hw.symm.trans hy
    · exact nomatch hy
  | waiting | ended =>
    rw [hw] at hy
    exact nomatch hw.symm.trans hy
  | _ =>
    rw [hw] at hy
    exact nomatch hy

/-- A notification sends nobody to wait. -/
theorem notify_not_yielding (hw : s.worker≠.yielding) : s.notify.worker≠.yielding := by
  rcases notify_cases s with ⟨_,heq⟩|⟨_,heq⟩
  · rw [heq]
    nofun
  · rwa [heq]

/-- Nor does it take part in `stop`. -/
theorem notify_stopper (s : Engine Frame) : s.notify.stopper=s.stopper := by
  rcases notify_cases s with ⟨_,heq⟩|⟨_,heq⟩ <;> rw [heq]

/-- Once `stop` has notified, a worker that is not about to wait is not after a step of a
producer either, -/
theorem producerStep_settled {i : ℕ} {enabled : Bool}
    (hs : s.stopper=.joining → s.worker≠.yielding)
    (hjoins : (s.producerStep i enabled).stopper=.joining) :
    (s.producerStep i enabled).worker≠.yielding := by
  rw [producerStep] at hjoins ⊢
  cases hp : s.producers i with
  | ready frame =>
    rw [hp] at hjoins
    dsimp only at hjoins ⊢
    split_ifs at hjoins ⊢
    · exact hs hjoins
    · exact hs hjoins
  | notifying =>
    rw [hp] at hjoins
    dsimp only at hjoins ⊢
    rw [notify_stopper] at hjoins
    exact notify_not_yielding (hs hjoins)
  | _ =>
    rw [hp] at hjoins
    exact hs hjoins

/-- nor after one of `stop`, if it notifies in time. -/
theorem stopStep_settled (hs : s.stopper=.joining → s.worker≠.yielding)
    (hnotifies : s.stopper=.cleared → s.worker≠.yielding)
    (hjoins : s.stopStep.stopper=.joining) : s.stopStep.worker≠.yielding := by
  rw [stopStep] at hjoins ⊢
  cases hp : s.stopper with
  | idle =>
    rw [hp] at hjoins
    dsimp only at hjoins
    split_ifs at hjoins
  | entered =>
    rw [hp] at hjoins
    exact nomatch hjoins
  | cleared => exact notify_not_yielding (hnotifies hp)
  | joining =>
    rw [hp] at hjoins
    dsimp only at hjoins ⊢
    split
    · exact hs hp
    · exact hs hp
  | returned =>
    rw [hp] at hjoins
    exact nomatch hp.symm.trans hjoins

/-- Once `stop` has notified in time the worker does not go to wait any more. -/
theorem apply_settled (h : Consistent s) (hs : s.stopper=.joining → s.worker≠.yielding)
    {a : Action Frame} (ha : NotifiesInTime s a) (hjoins : (s.apply a).stopper=.joining) :
    (s.apply a).worker≠.yielding := by
  cases a with
  | worker enabled =>
    intro hy
    obtain ⟨hruns,hsame⟩ := workerStep_yielding hy
    rw [apply,hsame] at hjoins
    have hstops := not_running h (by rw [hjoins]; nofun) (by rw [hjoins]; nofun)
    rw [hstops] at hruns
    exact nomatch hruns
  | spurious =>
    rw [apply,notify_stopper] at hjoins
    exact notify_not_yielding (hs hjoins)
  | call i frame =>
    rw [apply] at hjoins ⊢
    split at hjoins
    · exact hs hjoins
    · exact hs hjoins
  | producer i enabled => exact producerStep_settled hs hjoins
  | stop => exact stopStep_settled hs ha hjoins

/-- The frames of a consistent engine are in order. -/
theorem framesInOrder (h : Consistent s) : FramesInOrder s where
  bounded := s.frames.fits
  ordered := ((List.sublist_append_left _ _).trans h.order).trans s.frames.taken_sublist
  late := fun k frame hk => ⟨LossyQueue.getElem?_queued hk,s.frames.late k frame hk⟩

/-- Under every schedule the queue is bounded, the frames are sent in order and dropped
only for newer ones; and the engine never gets stuck exactly if the worker always goes
to wait in time. -/
theorem run_sends (frames : LossyQueue Frame 1024) (actions : List (Action Frame)) :
    FramesInOrder (runFrom apply (started frames) actions) ∧
      ((∀ done,done<+:actions → ¬Stuck (runFrom apply (started frames) done)) ↔
        Guarded apply WaitsInTime (started frames) actions) := by
  have hstart : ¬Asleep (started frames) := fun hs => nomatch hs.joins
  refine ⟨framesInOrder (run_consistent frames actions),?_⟩
  rw [←forall_prefix_iff_guarded (P := fun t : Engine Frame => Consistent t ∧ ¬Asleep t)
    (fun t a ht => ?_) actions ⟨started_consistent frames,hstart⟩]
  · refine forall₂_congr fun done _ => ?_
    have hconsistent := run_consistent frames done
    rw [stuck_iff hconsistent]
    exact (and_iff_right hconsistent).symm
  · rw [←awake_apply_iff ht.1 ht.2 a]
    exact and_iff_right (apply_consistent t a ht.1)

/-- If `stop` never notifies between the test and the wait, the worker always waits in
time. -/
theorem waitsInTime_of_notifiesInTime (frames : LossyQueue Frame 1024)
    (actions : List (Action Frame)) (hg : Guarded apply NotifiesInTime (started frames) actions) :
    Guarded apply WaitsInTime (started frames) actions := by
  refine guarded_of_invariant
    (P := fun t : Engine Frame => Consistent t ∧ (t.stopper=.joining → t.worker≠.yielding))
    (fun t a ht ha => ⟨apply_consistent t a ht.1,apply_settled ht.1 ht.2 ha⟩) (fun t a ht _ => ?_)
    actions ⟨started_consistent frames,nofun⟩ hg
  cases a with
  | worker enabled => exact fun hw hjoins => absurd hw (ht.2 hjoins)
  | _ => trivial

end

/-- A frame is queued and sent, and the worker ends before `stop` returns. -/
example :
    let s := runFrom Engine.apply (Engine.started .empty)
      (.call 0 "frame"::(List.replicate 5 (.producer 0 true)++List.replicate 5 (.worker true)++
        List.replicate 3 .stop++List.replicate 4 (.worker true)++[.stop]))
    s.sent=["frame"] ∧ s.stopper=.returned := ⟨rfl,rfl⟩

/-- The worker tests the predicate, `stop` clears the flag and notifies, and then the
worker goes to wait. -/
def lateWait : List (Action String) :=
  [.worker true,.worker true,.stop,.stop,.stop,.worker true]

/-- After that `stop` never returns. -/
theorem lateWait_stuck :
    ¬∀ (frames : LossyQueue String 1024) (actions : List (Action String)),
      FramesInOrder (runFrom Engine.apply (Engine.started frames) actions) ∧
        ∀ done,done<+:actions → ¬Stuck (runFrom Engine.apply (Engine.started frames) done) := by
  intro h
  have hconsistent := run_consistent LossyQueue.empty lateWait
  exact (h LossyQueue.empty lateWait).2 lateWait List.prefix_rfl
    ((stuck_iff hconsistent).mpr ⟨rfl,rfl,rfl,fun _ hi => hi⟩)

end Dankong.LogSender

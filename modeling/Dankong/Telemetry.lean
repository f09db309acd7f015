import Mathlib.Algebra.Field.Rat
import Mathlib.Algebra.Order.Field.Basic
import Mathlib.Algebra.Order.Ring.Rat
import Mathlib.Data.Fintype.Pi
import Mathlib.Logic.Function.Basic
import Dankong.Runs

/-!
# Reporting of state variables to connected clients

`DirtyVar`, `RateLimiter` and `StateRegistry` with the two ways a value leaves
the program: a periodic report goes to every connected client, a full-state
snapshot goes to the one client that has just connected. Both write the same
last-reported value, which a change-threshold checker compares against; so a
snapshot can make the checker drop a report that older clients still need.
-/

namespace Dankong.Telemetry

open Runs

/-- A change-threshold checker; no value counts as changed against itself. -/
structure Checker (T : Type*) where
  /-- Whether the current value counts as changed against the last reported one. -/
  changed : T → T → Bool
  /-- A value is not changed against itself. -/
  self : ∀ v,changed v v=false

/-- The fixed part of a `ReportableBinding` and its `RateLimiter`. -/
structure Binding (K T : Type*) where
  /-- Report rate; a rate that is not positive never reports. -/
  hz : K
  /-- Whether the type has `==`, which lets `store` skip an equal value. -/
  comparable : Bool := true
  /-- Optional `dirty_checker_`. -/
  checker : Option (Checker T) := none

/-- The changing part: the variable, its dirty flag, the limiter's clock, and
the last reported value once there is one. -/
structure VarState (K T : Type*) where
  /-- `data_`. -/
  data : T
  /-- `dirty_`, set at the beginning. -/
  dirty : Bool := true
  /-- `last_time_` of the rate limiter. -/
  lastTime : K
  /-- `last_reported_val_`, present once `has_reported_` is set. -/
  lastReported : Option T := none

section Variable

variable {K T : Type*} [Field K] [LinearOrder K] [DecidableEq T]

/-- `DirtyVar::store`. -/
def store (b : Binding K T) (v : T) (s : VarState K T) : VarState K T :=
  if b.comparable=true ∧ s.data=v then s else { s with data := v, dirty := true }

/-- `RateLimiter::check_and_update`, the test without the update. -/
def rateOk (b : Binding K T) (now : K) (s : VarState K T) : Prop :=
  0<b.hz ∧ 1/b.hz≤now-s.lastTime

instance (b : Binding K T) (now : K) (s : VarState K T) : Decidable (rateOk b now s) :=
  inferInstanceAs (Decidable (_ ∧ _))

/-- Whether the checker lets a consumed value through. -/
def passes (b : Binding K T) (s : VarState K T) : Bool :=
  match b.checker,s.lastReported with
  | some c,some last => c.changed s.data last
  | _,_ => true

/-- `ReportableBinding::try_report`: the new state and the value put into the
message, if any. -/
def tryReport (b : Binding K T) (now : K) (s : VarState K T) : VarState K T×Option T :=
  if s.dirty=true ∧ rateOk b now s then
    if passes b s=true then
      ({ s with dirty := false, lastTime := now, lastReported := some s.data },some s.data)
    else ({ s with dirty := false, lastTime := now },none)
  else (s,none)

/-- `ReportableBinding::append_full_state`; the dirty flag is not touched. -/
def appendFullState (s : VarState K T) : VarState K T×T :=
  ({ s with lastReported := some s.data },s.data)

end Variable

section Registry

variable {ι : Type*} [DecidableEq ι] {K : Type*} [Field K] [LinearOrder K] {V : ι → Type*}
  [∀ i,DecidableEq (V i)]

/-- The registry with its variables, and what every connected client last
received for each of them. -/
structure Registry (K : Type*) (V : ι → Type*) where
  /-- State of each bound variable. -/
  vars : (i : ι) → VarState K (V i)
  /-- Connected clients, oldest first. -/
  clients : List ((i : ι) → Option (V i)) := []

/-- What can happen to the registry. -/
inductive RegistryOp (K : Type*) (V : ι → Type*)
  /-- A thread stores a value into a variable. -/
  | store (i : ι) (v : V i)
  /-- `report_all` and the publication of its message to all clients. -/
  | tick (now : K)
  /-- A client connects and receives `get_full_state`. -/
  | wsOpen

/-- What a client knows after a message that carries the reported values. -/
def receive (message : (i : ι) → Option (V i)) (c : (i : ι) → Option (V i)) :
    (i : ι) → Option (V i) :=
  fun i => (message i).or (c i)

/-- Effect of one operation. -/
def registryStep (b : (i : ι) → Binding K (V i)) (s : Registry K V) :
    RegistryOp K V → Registry K V
  | .store i v => { s with vars := Function.update s.vars i (store (b i) v (s.vars i)) }
  | .tick now => {
      vars := fun i => (tryReport (b i) now (s.vars i)).1
      clients := s.clients.map (receive fun i => (tryReport (b i) now (s.vars i)).2) }
  | .wsOpen => {
      vars := fun i => (appendFullState (s.vars i)).1
      clients := s.clients++[fun i => some (appendFullState (s.vars i)).2] }

/-- The received value is as good as current: equal to it, or not changed in
the eyes of the checker. -/
def UpToDate (b : Binding K (V i)) (received : Option (V i)) (current : V i) : Prop :=
  match b.checker with
  | none => received=some current
  | some c => ∃ last,received=some last ∧ c.changed current last=false

/-- Guard for one variable: a client connects only while the snapshot does not
overwrite the last reported value behind the back of another client. -/
def SnapshotHarmless (b : (i : ι) → Binding K (V i)) (i : ι) (s : Registry K V) :
    RegistryOp K V → Prop
  | .wsOpen => (b i).checker=none ∨ s.clients=[] ∨ (s.vars i).lastReported=some (s.vars i).data
  | _ => True

/-- Whether an operation stores into a given variable. -/
def StoresTo (i : ι) : RegistryOp K V → Prop
  | .store j _ => i=j
  | _ => False

/-- Run invariant for one variable: a clean variable is known up to date by
every client, and under a checker all clients know the last reported value. -/
structure Synced (b : (i : ι) → Binding K (V i)) (i : ι) (s : Registry K V) : Prop where
  /-- A clean variable without a checker is known exactly. -/
  exact : (b i).checker=none → (s.vars i).dirty=false → ∀ c∈s.clients,c i=some (s.vars i).data
  /-- Under a checker the clients agree with the shared record. -/
  agree : (b i).checker≠none → ∀ c∈s.clients,c i=(s.vars i).lastReported
  /-- A clean variable under a checker is not changed against the record. -/
  settled : ∀ ch,(b i).checker=some ch → (s.vars i).dirty=false →
    ∃ last,(s.vars i).lastReported=some last ∧ ch.changed (s.vars i).data last=false

variable {b : (i : ι) → Binding K (V i)} {i : ι} {s : Registry K V}

omit [Field K] [LinearOrder K] in
/-- A store to a variable keeps its record and leaves it dirty or unchanged. -/
theorem store_cases {T : Type*} [DecidableEq T] (bd : Binding K T) (v : T) (x : VarState K T) :
    store bd v x=x ∨ store bd v x={ x with data := v, dirty := true } := by
  dsimp only [store]
  split
  · exact Or.inl rfl
  · exact Or.inr rfl

/-- A report attempt does nothing, or drops the value because the checker finds
it unchanged, or reports it. -/
theorem tryReport_cases {T : Type*} (bd : Binding K T) (now : K) (x : VarState K T) :
    (tryReport bd now x=(x,none) ∧ (x.dirty=true → ¬rateOk bd now x)) ∨
    (∃ ch last,bd.checker=some ch ∧ x.lastReported=some last ∧ ch.changed x.data last=false ∧
      tryReport bd now x=({ x with dirty := false, lastTime := now },none)) ∨
    tryReport bd now x=
      ({ x with dirty := false, lastTime := now, lastReported := some x.data },some x.data) := by
  dsimp only [tryReport]
  by_cases hgo : x.dirty=true ∧ rateOk bd now x
  · rw [if_pos hgo]
    by_cases hp : passes bd x=true
    · rw [if_pos hp]
      exact Or.inr (Or.inr rfl)
    · rw [if_neg hp]
      dsimp only [passes] at hp
      split at hp
      · rename_i ch last hch hlast
        exact Or.inr (Or.inl ⟨ch,last,hch,hlast,by simpa using hp,rfl⟩)
      · exact absurd rfl hp
  · rw [if_neg hgo]
    exact Or.inl ⟨rfl,fun hd hr => hgo ⟨hd,hr⟩⟩

/-- Data never changes in a report attempt. -/
theorem tryReport_data {T : Type*} (bd : Binding K T) (now : K) (x : VarState K T) :
    (tryReport bd now x).1.data=x.data := by
  rcases tryReport_cases bd now x with ⟨h,_⟩|⟨_,_,_,_,_,h⟩|h <;> rw [h]

/-- An attempt at a time the limiter allows leaves the variable clean. -/
theorem tryReport_clean {T : Type*} {bd : Binding K T} {now : K} {x : VarState K T}
    (hr : rateOk bd now x) : (tryReport bd now x).1.dirty=false := by
  rcases tryReport_cases bd now x with ⟨h,hd⟩|⟨_,_,_,_,_,h⟩|h
  · rw [h]
    cases hx : x.dirty with
    | false => rfl
    | true => exact absurd hr (hd hx)
  · rw [h]
  · rw [h]

/-- Stores keep the invariant of every variable. -/
theorem synced_store (h : Synced b i s) (j : ι) (v : V j) :
    Synced b i (registryStep b s (.store j v)) := by
  by_cases hij : i=j
  · subst hij
    have hvar : (registryStep b s (.store i v)).vars i=store (b i) v (s.vars i) :=
      Function.update_self ..
    rcases store_cases (b i) v (s.vars i) with hs|hs
    · rw [hs] at hvar
      exact ⟨by rw [hvar]; exact h.exact,by rw [hvar]; exact h.agree,by rw [hvar]; exact h.settled⟩
    · rw [hs] at hvar
      refine ⟨fun _ hd => ?_,?_,fun _ _ hd => ?_⟩
      · rw [hvar] at hd
        cases hd
      · rw [hvar]
        exact h.agree
      · rw [hvar] at hd
        cases hd
  · have hvar : (registryStep b s (.store j v)).vars i=s.vars i :=
      Function.update_of_ne hij ..
    exact ⟨by rw [hvar]; exact h.exact,by rw [hvar]; exact h.agree,by rw [hvar]; exact h.settled⟩

/-- Ticks keep the invariant of every variable. -/
theorem synced_tick (h : Synced b i s) (now : K) : Synced b i (registryStep b s (.tick now)) := by
  have hmem : ∀ c∈(registryStep b s (.tick now)).clients,∃ c₀∈s.clients,
      c i=((tryReport (b i) now (s.vars i)).2).or (c₀ i) := by
    intro c hc
    obtain ⟨c₀,hc₀,rfl⟩ := List.mem_map.mp hc
    exact ⟨c₀,hc₀,rfl⟩
  have hvar : (registryStep b s (.tick now)).vars i=(tryReport (b i) now (s.vars i)).1 := rfl
  rcases tryReport_cases (b i) now (s.vars i) with ⟨ht,_⟩|⟨ch,last,hch,hlast,hsame,ht⟩|ht
  · rw [ht] at hvar hmem
    refine ⟨fun hn hd c hc => ?_,fun hn c hc => ?_,fun ch hch hd => ?_⟩
    · obtain ⟨c₀,hc₀,hci⟩ := hmem c hc
      rw [hvar] at hd ⊢
      exact hci.trans (h.exact hn hd c₀ hc₀)
    · obtain ⟨c₀,hc₀,hci⟩ := hmem c hc
      rw [hvar]
      exact hci.trans (h.agree hn c₀ hc₀)
    · rw [hvar] at hd ⊢
      exact h.settled ch hch hd
  · rw [ht] at hvar hmem
    refine ⟨fun hn => ?_,fun hn c hc => ?_,fun ch' hch' _ => ?_⟩
    · rw [hch] at hn
      cases hn
    · obtain ⟨c₀,hc₀,hci⟩ := hmem c hc
      rw [hvar]
      exact hci.trans (h.agree hn c₀ hc₀)
    · obtain rfl : ch=ch' := Option.some.inj (hch.symm.trans hch')
      rw [hvar]
      exact ⟨last,hlast,hsame⟩
  · rw [ht] at hvar hmem
    have hall : ∀ c∈(registryStep b s (.tick now)).clients,c i=some (s.vars i).data := by
      intro c hc
      obtain ⟨_,_,hci⟩ := hmem c hc
      exact hci
    refine ⟨fun _ _ => ?_,fun _ => ?_,fun ch _ _ => ?_⟩
    · rw [hvar]
      exact hall
    · rw [hvar]
      exact hall
    · rw [hvar]
      exact ⟨_,rfl,ch.self _⟩

/-- A harmless connection keeps the invariant. -/
theorem synced_wsOpen (h : Synced b i s) (hok : SnapshotHarmless b i s .wsOpen) :
    Synced b i (registryStep b s .wsOpen) := by
  have hmem : ∀ c∈(registryStep b s .wsOpen).clients,c∈s.clients ∨ c i=some (s.vars i).data := by
    intro c hc
    rcases List.mem_append.mp hc with hold|hnew
    · exact Or.inl hold
    · rw [List.mem_singleton.mp hnew]
      exact Or.inr rfl
  refine ⟨fun hn hd c hc => ?_,fun hn c hc => ?_,fun ch _ _ => ⟨_,rfl,ch.self _⟩⟩
  · rcases hmem c hc with hold|hnew
    · exact h.exact hn hd c hold
    · exact hnew
  · rcases hmem c hc with hold|hnew
    · rcases hok with hnone|hempty|hsame
      · exact absurd hnone hn
      · rw [hempty] at hold
        cases hold
      · exact (h.agree hn c hold).trans hsame
    · exact hnew

/-- Every guarded operation keeps the invariant of the guarded variable. -/
theorem synced_step (s : Registry K V) (op : RegistryOp K V) (h : Synced b i s)
    (hok : SnapshotHarmless b i s op) : Synced b i (registryStep b s op) := by
  cases op with
  | store j v => exact synced_store h j v
  | tick now => exact synced_tick h now
  | wsOpen => exact synced_wsOpen h hok

/-- A clean variable stays clean, with its data, while nobody stores into it. -/
theorem quiet_step (s : Registry K V) (op : RegistryOp K V) (hq : ¬StoresTo i op)
    (hd : (s.vars i).dirty=false) :
    ((registryStep b s op).vars i).dirty=false ∧
      ((registryStep b s op).vars i).data=(s.vars i).data := by
  cases op with
  | store j v =>
    have hvar : (registryStep b s (.store j v)).vars i=s.vars i :=
      Function.update_of_ne hq ..
    rw [hvar]
    exact ⟨hd,rfl⟩
  | tick now =>
    refine ⟨?_,tryReport_data (b i) now (s.vars i)⟩
    dsimp only [registryStep]
    rcases tryReport_cases (b i) now (s.vars i) with ⟨h,_⟩|⟨_,_,_,_,_,h⟩|h <;> rw [h]
    exact hd
  | wsOpen => exact ⟨hd,rfl⟩

/-- A variable nobody stores into stays clean over a run. -/
theorem quiet_run (ops : List (RegistryOp K V)) (s : Registry K V)
    (hq : ∀ op∈ops,¬StoresTo i op) (hd : (s.vars i).dirty=false) :
    ((runFrom (registryStep b) s ops).vars i).dirty=false := by
  induction ops generalizing s with
  | nil => exact hd
  | cons op rest ih =>
    exact ih _ (fun o ho => hq o (List.mem_cons_of_mem _ ho))
      (quiet_step s op (hq op List.mem_cons_self) hd).1

omit [DecidableEq ι] [Field K] [LinearOrder K] [∀ i,DecidableEq (V i)] in
/-- A synced clean variable is up to date at every client. -/
theorem upToDate_of_synced (h : Synced b i s) (hd : (s.vars i).dirty=false)
    (c : (i : ι) → Option (V i)) (hc : c∈s.clients) :
    UpToDate (b i) (c i) (s.vars i).data := by
  dsimp only [UpToDate]
  split
  · rename_i hn
    exact h.exact hn hd c hc
  · rename_i ch hch
    obtain ⟨last,hlast,hsame⟩ := h.settled ch hch hd
    exact ⟨last,(h.agree (by simp [hch]) c hc).trans hlast,hsame⟩

/-- The initial registry: every variable dirty, no report made, no client. -/
def initialRegistry (init : (i : ι) → V i) : Registry K V where
  vars i := { data := init i, lastTime := 0 }

/-- Convergence. Take any run in which no snapshot overwrites the last reported
value of variable `i` behind the back of a connected client. Once `i` is no
longer stored into and a tick has come at least one period after its last
rate-limited report, every connected client is up to date on it. -/
theorem clients_converge (b : (i : ι) → Binding K (V i)) (init : (i : ι) → V i) (i : ι)
    (hhz : 0<(b i).hz) (before after : List (RegistryOp K V)) (now : K)
    (hg : Guarded (registryStep b) (SnapshotHarmless b i) (initialRegistry init)
      (before++.tick now::after))
    (hdue : 1/(b i).hz≤
      now-((runFrom (registryStep b) (initialRegistry init) before).vars i).lastTime)
    (hquiet : ∀ op∈after,¬StoresTo i op)
    (c : (i : ι) → Option (V i))
    (hc : c∈(runFrom (registryStep b) (initialRegistry init) (before++.tick now::after)).clients) :
    UpToDate (b i) (c i)
      ((runFrom (registryStep b) (initialRegistry init)
        (before++.tick now::after)).vars i).data := by
  have hsync : Synced b i (runFrom (registryStep b) (initialRegistry init)
      (before++.tick now::after)) :=
    guarded_invariant (P:=Synced b i) synced_step _
      ⟨fun _ hd => (nomatch hd),fun _ c hc => (nomatch hc),fun _ _ hd => (nomatch hd)⟩ hg
  refine upToDate_of_synced hsync ?_ c hc
  rw [runFrom_append,runFrom_cons]
  exact quiet_run after _ hquiet (tryReport_clean ⟨hhz,hdue⟩)

end Registry

/-- One integer variable at one report a second whose checker ignores changes
of at most one. -/
def coarse : Unit → Binding ℚ ℤ := fun _ => {
  hz := 1
  checker := some ⟨fun cur last => decide (1 < |cur-last|),fun v => by simp⟩ }

/-- A client connects, the first report is made, the value jumps, and the due
report is made. -/
def singleClient : List (RegistryOp ℚ fun _ : Unit => ℤ) :=
  [.wsOpen,.tick 1,.store () 5]

/-- As before, but a second client connects between the jump and the report. -/
def lateClient : List (RegistryOp ℚ fun _ : Unit => ℤ) :=
  [.wsOpen,.tick 1,.store () 5,.wsOpen]

/-- There is one client after the due tick, and it is up to date. -/
theorem singleClient_converges :
    (runFrom (registryStep coarse) (initialRegistry fun _ => 0)
      (singleClient++.tick 2::[])).clients.length=1 ∧
    ∀ c∈(runFrom (registryStep coarse) (initialRegistry fun _ => 0)
        (singleClient++.tick 2::[])).clients,
      UpToDate (V:=fun _ : Unit => ℤ) (i:=()) (coarse ()) (c ())
        ((runFrom (registryStep coarse) (initialRegistry fun _ => 0)
          (singleClient++.tick 2::[])).vars ()).data := by
  refine ⟨rfl,clients_converge coarse (fun _ => 0) () one_pos singleClient [] 2 ?_
    (by decide +kernel) (fun op hop => (nomatch hop))⟩
  exact ⟨Or.inr (Or.inl rfl),trivial,trivial,trivial,trivial⟩

/-- The older client never learns of the jump: the snapshot for the second one
made the checker drop the due report. So clients need not converge. -/
theorem lateClient_diverges :
    ¬∀ (b : Unit → Binding ℚ ℤ) (init : Unit → ℤ) (i : Unit),0<(b i).hz →
      ∀ (before after : List (RegistryOp ℚ fun _ : Unit => ℤ)) (now : ℚ),
      1/(b i).hz≤now-((runFrom (registryStep b) (initialRegistry init) before).vars i).lastTime →
      (∀ op∈after,¬StoresTo i op) →
      ∀ c∈(runFrom (registryStep b) (initialRegistry init) (before++.tick now::after)).clients,
        UpToDate (V:=fun _ : Unit => ℤ) (i:=i) (b i) (c i)
          ((runFrom (registryStep b) (initialRegistry init)
            (before++.tick now::after)).vars i).data := by
  intro h
  have hold : (fun _ : Unit => some (0:ℤ))∈(runFrom (registryStep coarse)
      (initialRegistry fun _ => 0) (lateClient++.tick 2::[])).clients := by
    decide +kernel
  obtain ⟨last,hlast,hsame⟩ := h coarse (fun _ => 0) () one_pos lateClient [] 2
    (by decide +kernel) (fun op hop => (nomatch hop)) _ hold
  obtain rfl : 0=last := Option.some.inj hlast
  exact absurd hsame (by decide +kernel)

end Dankong.Telemetry

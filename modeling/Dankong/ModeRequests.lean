import Dankong.ChangeFeed
import Dankong.Runs
import Mathlib.Algebra.Order.Group.Multiset
import Mathlib.Data.Multiset.Range

/-!
# Requests for a flight mode

A request names a mode. Unless the flight controller is known to be in it, a command is
sent and the request waits for the event that announces the mode. The telemetry thread
announces a mode before it stores it: a request that falls between, once the event has
been handled, waits for an event that does not come.
-/

namespace Dankong.Modes

open ChangeFeed Runs

/-- `Telemetry::FlightMode`. -/
inductive FlightMode
  | unknown
  | ready
  | takeoff
  | hold
  | mission
  | returnToLaunch
  | land
  | offboard
  | followMe
  | manual
  | altctl
  | posctl
  | acro
  | stabilized
  | rattitude
  deriving DecidableEq

/-- `mode_raw_to_string`. -/
def modeRawToString : FlightMode → String
  | .unknown => "UNKNOWN"
  | .ready => "READY"
  | .takeoff => "GUIDED"
  | .hold => "LOITER"
  | .mission => "AUTO"
  | .returnToLaunch => "RTL"
  | .land => "LAND"
  | .offboard => "GUIDED"
  | .followMe => "FOLLOW"
  | .manual => "MANUAL"
  | .altctl => "ALT_HOLD"
  | .posctl => "POSHOLD"
  | .acro => "ACRO"
  | .stabilized => "STABILIZE"
  | .rattitude => "UNKNOWN"

/-- The map inside `string_to_mode_raw`. -/
def modeMap : List (String×FlightMode) :=
  [("UNKNOWN",.unknown),("READY",.ready),("GUIDED",.offboard),("LOITER",.hold),
    ("AUTO",.mission),("RTL",.returnToLaunch),("LAND",.land),("FOLLOW",.followMe),
    ("MANUAL",.manual),("ALT_HOLD",.altctl),("POSHOLD",.posctl),("ACRO",.acro),
    ("STABILIZE",.stabilized)]

/-- The letters of a text as capitals, `std::toupper` by letter. -/
def upper (str : String) : List Char := str.toList.map Char.toUpper

/-- `string_to_mode_raw`. -/
def stringToModeRaw (str : String) : Option FlightMode :=
  (modeMap.find? fun entry => entry.1.toList=upper str).map Prod.snd

/-- `FlightMode::create`. -/
def create (str : String) : Except String FlightMode :=
  match stringToModeRaw str with
  | some mode => .ok mode
  | none => .error ("Unknow Mode: "++str)

/-- `VehicleType`, as far as the mode numbers depend on it. -/
inductive VehicleType
  /-- `Rover`. -/
  | rover
  /-- Any other type. -/
  | other

/-- `get_copter_mode_param`. -/
def getCopterModeParam : FlightMode → ℤ
  | .stabilized => 0
  | .acro => 1
  | .altctl => 2
  | .mission => 3
  | .takeoff => 4
  | .offboard => 4
  | .hold => 5
  | .returnToLaunch => 6
  | .land => 9
  | .posctl => 16
  | _ => -1

/-- `get_rover_mode_param`. -/
def getRoverModeParam : FlightMode → ℤ
  | .manual => 0
  | .acro => 1
  | .hold => 4
  | .followMe => 6
  | .mission => 10
  | .returnToLaunch => 11
  | .offboard => 15
  | .takeoff => 15
  | _ => -1

/-- `get_mode_param_`, as `set_target_type` leaves it. -/
def getModeParam : VehicleType → FlightMode → ℤ
  | .rover => getRoverModeParam
  | .other => getCopterModeParam

/-- What `set_mode` sends. -/
inductive ModeCommand
  /-- `Action::return_to_launch`. -/
  | returnToLaunch
  /-- `Action::land`. -/
  | land
  /-- `MAV_CMD_DO_SET_MODE` with a custom mode. -/
  | doSetMode (customMode : ℤ)
  deriving DecidableEq

/-- `MavsdkDrone::set_mode`. -/
def setMode (vehicle : VehicleType) : FlightMode → ModeCommand
  | .returnToLaunch => .returnToLaunch
  | .land => .land
  | mode => .doSetMode (getModeParam vehicle mode)

/-- All modes. -/
def allModes : List FlightMode :=
  [.unknown,.ready,.takeoff,.hold,.mission,.returnToLaunch,.land,.offboard,.followMe,.manual,
    .altctl,.posctl,.acro,.stabilized,.rattitude]

theorem mem_allModes (mode : FlightMode) : mode∈allModes := by
  cases mode <;> decide

/-- The modes with the name of an entry are set by the same command. -/
theorem setMode_eq_of_entry {entry : String×FlightMode} (hentry : entry∈modeMap)
    (vehicle : VehicleType) {mode : FlightMode} (hname : modeRawToString mode=entry.1) :
    setMode vehicle mode=setMode vehicle entry.2 := by
  have hrover : ∀ entry∈modeMap,∀ mode∈allModes,modeRawToString mode=entry.1 →
      setMode .rover mode=setMode .rover entry.2 := by decide
  have hother : ∀ entry∈modeMap,∀ mode∈allModes,modeRawToString mode=entry.1 →
      setMode .other mode=setMode .other entry.2 := by decide
  cases vehicle with
  | rover => exact hrover entry hentry mode (mem_allModes mode) hname
  | other => exact hother entry hentry mode (mem_allModes mode) hname

/-- A text that is found names a mode in some spelling of its letters, the mode found has that
name, and setting it is setting any mode shown by that name; every spelling of a shown name
is found, and so is the name of every mode itself. -/
theorem mode_names (vehicle : VehicleType) :
    (∀ str found,stringToModeRaw str=some found →
      (modeRawToString found).toList=upper str ∧
        ∀ mode,(modeRawToString mode).toList=upper str →
          setMode vehicle mode=setMode vehicle found) ∧
    (∀ str mode,(modeRawToString mode).toList=upper str →
      ∃ found,stringToModeRaw str=some found) ∧
    ∀ mode,∃ found,stringToModeRaw (modeRawToString mode)=some found := by
  have hnames : ∀ entry∈modeMap,modeRawToString entry.2=entry.1 := by decide
  have hshown : ∀ mode∈allModes,∃ entry∈modeMap,entry.1=modeRawToString mode := by decide
  refine ⟨fun str found hfound => ?_,fun str mode hmode => ?_,fun mode => ?_⟩
  · obtain ⟨entry,hentry,rfl⟩ := Option.map_eq_some_iff.mp hfound
    have hmem : entry∈modeMap := List.mem_of_find?_eq_some hentry
    have hkey : entry.1.toList=upper str := by simpa using List.find?_some hentry
    rw [hnames entry hmem]
    refine ⟨hkey,fun mode hmode => ?_⟩
    exact setMode_eq_of_entry hmem vehicle (String.toList_injective (hmode.trans hkey.symm))
  · obtain ⟨entry,hentry,hname⟩ := hshown mode (mem_allModes mode)
    have hfind : (modeMap.find? fun entry => entry.1.toList=upper str).isSome=true :=
      List.find?_isSome.mpr ⟨entry,hentry,decide_eq_true (by rw [hname,hmode])⟩
    obtain ⟨found,hfound⟩ := Option.isSome_iff_exists.mp hfind
    exact ⟨found.2,by rw [stringToModeRaw,hfound,Option.map_some]⟩
  · cases mode <;> exact ⟨_,rfl⟩

/-- Control listener and telemetry handler of the flight mode, with all that was asked. -/
structure ModeDesk where
  /-- The mode of the context and the events that announce its changes. -/
  feed : Feed FlightMode := { value := .unknown }
  /-- Requests that wait for the event of a mode. -/
  waiting : List (ℕ×FlightMode) := []
  /-- Requests whose time to wait ran out. -/
  expired : List ℕ := []
  /-- Answers, latest first. -/
  answers : List (ℕ×Except String String) := []
  /-- Requests that named a mode. -/
  asked : List (ℕ×FlightMode) := []
  /-- Number of requests. -/
  arrived : ℕ := 0
  /-- Commands sent, latest first. -/
  commands : List ModeCommand := []

/-- What can happen. -/
inductive ModeAction
  /-- The telemetry thread gets a report and announces a change. -/
  | report (mode : FlightMode)
  /-- It stores what it announced. -/
  | store
  /-- The engine handles the oldest `FlightModeEvent`. -/
  | handle
  /-- The engine handles a `SetModeEvent`. -/
  | request (mode : String)
  /-- The two seconds of a waiting request are over. -/
  | expire (id : ℕ)

/-- A `FlightModeEvent` ends the waiting for the mode it leads to. The queue of events and
`wait_for` belong to the engine library, which is not part of the repository: taken here is
that events are handled one by one in the order in which they are sent, and that a wait ends
with the first event handled after it began that meets its condition, or when its time is
over. -/
def ModeDesk.onModeEvent (d : ModeDesk) : ModeDesk :=
  match d.feed.events with
  | [] => d
  | e::_ => { d with
    feed := d.feed.handled
    waiting := d.waiting.filter fun w => ¬w.2=e.2
    answers := (d.waiting.filter fun w => w.2=e.2).map (fun w => (w.1,.ok "OK"))++d.answers }

/-- `on_event(SetModeEvent)`. -/
def ModeDesk.onSetMode (vehicle : VehicleType) (str : String) (d : ModeDesk) : ModeDesk :=
  match create str with
  | .error text => { d with
    arrived := d.arrived+1
    answers := (d.arrived,.error text)::d.answers }
  | .ok mode =>
    if d.feed.value=mode then { d with
      arrived := d.arrived+1
      asked := (d.arrived,mode)::d.asked
      answers := (d.arrived,.ok "OK")::d.answers }
    else { d with
      arrived := d.arrived+1
      asked := (d.arrived,mode)::d.asked
      waiting := (d.arrived,mode)::d.waiting
      commands := setMode vehicle mode::d.commands }

/-- One action. -/
def ModeDesk.step (vehicle : VehicleType) (d : ModeDesk) : ModeAction → ModeDesk
  | .report mode => { d with feed := d.feed.report mode }
  | .store => { d with feed := d.feed.store }
  | .handle => d.onModeEvent
  | .request str => d.onSetMode vehicle str
  | .expire id => { d with
    waiting := d.waiting.filter fun w => ¬w.1=id
    expired := (d.waiting.filter fun w => w.1=id).map Prod.fst++d.expired }

/-- The desk keeps its books. -/
structure Kept (d : ModeDesk) : Prop where
  /-- The events are the changes of the mode. -/
  feed : d.feed.Follows .unknown
  /-- Every request is answered once, waits, or has waited too long. -/
  each : (↑(d.answers.map Prod.fst)+↑(d.waiting.map Prod.fst)+↑d.expired : Multiset ℕ)=
    Multiset.range d.arrived
  /-- What waits has been asked. -/
  waits : ∀ w∈d.waiting,w∈d.asked
  /-- A mode is granted only if the flight controller has reported it, except for the unknown
  mode, which is taken for the mode until the first report. -/
  granted : ∀ id text,(id,.ok text)∈d.answers →
    ∃ mode,(id,mode)∈d.asked ∧ (mode=.unknown ∨ mode∈d.feed.reports)

section

variable {d : ModeDesk}

/-- The books after a change of the feed alone. -/
theorem Kept.of_feed (h : Kept d) {f : Feed FlightMode} (hf : f.Follows .unknown)
    (hreports : d.feed.reports ⊆ f.reports) : Kept { d with feed := f } where
  feed := hf
  each := h.each
  waits := h.waits
  granted id text hmem := by
    obtain ⟨mode,hasked,hmode⟩ := h.granted id text hmem
    exact ⟨mode,hasked,hmode.imp_right (fun hreport => hreports hreport)⟩

/-- A part of the waiting requests goes elsewhere. -/
theorem split_waiting (waiting : List (ℕ×FlightMode)) (p : ℕ×FlightMode → Bool) :
    (↑((waiting.filter p).map Prod.fst)+↑((waiting.filter fun w => !p w).map Prod.fst) :
      Multiset ℕ)=↑(waiting.map Prod.fst) := by
  rw [Multiset.coe_add,←List.map_append]
  exact Multiset.coe_eq_coe.mpr ((List.filter_append_perm p waiting).map Prod.fst)

/-- Handling an event keeps the books. -/
theorem Kept.onModeEvent (h : Kept d) : Kept d.onModeEvent := by
  rw [ModeDesk.onModeEvent]
  split
  · exact h
  · rename_i e rest hevents
    have hreported : e.2∈d.feed.reports := h.feed.reported (by
      rw [hevents]
      exact List.mem_cons_self)
    refine ⟨h.feed.handled,?_,?_,?_⟩
    · have hsplit := split_waiting d.waiting fun w => w.2=e.2
      have hids : ((d.waiting.filter fun w => w.2=e.2).map
          fun w => (w.1,(.ok "OK" : Except String String))).map Prod.fst=
          (d.waiting.filter fun w => w.2=e.2).map Prod.fst := List.map_map
      simp only [←decide_not] at hsplit
      dsimp only
      rw [←h.each,←hsplit,List.map_append,hids,←Multiset.coe_add]
      ac_rfl
    · exact fun w hw => h.waits w (List.mem_filter.mp hw).1
    · intro id text hmem
      rcases List.mem_append.mp hmem with hnew|hold
      · obtain ⟨w,hw,hid⟩ := List.mem_map.mp hnew
        obtain ⟨hwaits,hmode⟩ := List.mem_filter.mp hw
        cases hid
        refine ⟨w.2,h.waits w hwaits,Or.inr ?_⟩
        rw [of_decide_eq_true hmode]
        exact hreported
      · exact h.granted id text hold

/-- A request keeps the books. -/
theorem Kept.onSetMode (h : Kept d) (vehicle : VehicleType) (str : String) :
    Kept (d.onSetMode vehicle str) := by
  have hrange : Multiset.range (d.arrived+1)=d.arrived::ₘMultiset.range d.arrived :=
    Multiset.range_succ d.arrived
  have hgranted : ∀ mode id text,(id,.ok text)∈d.answers →
      ∃ m,(id,m)∈(d.arrived,mode)::d.asked ∧ (m=.unknown ∨ m∈d.feed.reports) := by
    intro mode id text hmem
    obtain ⟨m,hasked,hm⟩ := h.granted id text hmem
    exact ⟨m,List.mem_cons_of_mem _ hasked,hm⟩
  rw [ModeDesk.onSetMode]
  split
  · refine ⟨h.feed,?_,h.waits,fun id text hmem => ?_⟩
    · dsimp only
      rw [hrange,←h.each,List.map_cons,←Multiset.cons_coe,Multiset.cons_add,Multiset.cons_add]
    · rcases List.mem_cons.mp hmem with hnew|hold
      · cases hnew
      · exact h.granted id text hold
  · rename_i mode _
    split
    · rename_i hmode
      refine ⟨h.feed,?_,fun w hw => List.mem_cons_of_mem _ (h.waits w hw),fun id text hmem => ?_⟩
      · dsimp only
        rw [hrange,←h.each,List.map_cons,←Multiset.cons_coe,Multiset.cons_add,
          Multiset.cons_add]
      · rcases List.mem_cons.mp hmem with hnew|hold
        · cases hnew
          refine ⟨mode,List.mem_cons_self,?_⟩
          rw [←hmode]
          exact h.feed.stored
        · exact hgranted mode id text hold
    · refine ⟨h.feed,?_,fun w hw => ?_,hgranted mode⟩
      · dsimp only
        rw [hrange,←h.each,List.map_cons,←Multiset.cons_coe,Multiset.add_cons,
          Multiset.cons_add]
      · rcases List.mem_cons.mp hw with rfl|hold
        · exact List.mem_cons_self
        · exact List.mem_cons_of_mem _ (h.waits w hold)

/-- A report keeps all earlier reports. -/
theorem reports_subset (f : Feed FlightMode) (mode : FlightMode) :
    f.reports ⊆ (f.report mode).reports := by
  rw [Feed.report]
  split_ifs
  · exact List.Subset.refl _
  · exact List.subset_cons_self _ _
  · exact List.subset_cons_self _ _

/-- Every action keeps the books. -/
theorem Kept.step (h : Kept d) (vehicle : VehicleType) (action : ModeAction) :
    Kept (d.step vehicle action) := by
  cases action with
  | report mode => exact h.of_feed (h.feed.report mode) (reports_subset d.feed mode)
  | store => exact h.of_feed h.feed.store (List.Subset.refl _)
  | handle => exact h.onModeEvent
  | request str => exact h.onSetMode vehicle str
  | expire id =>
    refine ⟨h.feed,?_,fun w hw => h.waits w (List.mem_filter.mp hw).1,h.granted⟩
    have hsplit := split_waiting d.waiting fun w => w.1=id
    simp only [←decide_not] at hsplit
    dsimp only [ModeDesk.step]
    rw [←h.each,←hsplit,←Multiset.coe_add]
    ac_rfl

/-- So does a run. -/
theorem Kept.run (h : Kept d) (vehicle : VehicleType) (actions : List ModeAction) :
    Kept (runFrom (ModeDesk.step vehicle) d actions) :=
  run_invariant (fun _ action h => h.step vehicle action) actions h

/-- Before the first action. -/
theorem kept_initial : Kept {} where
  feed := follows_initial
  each := rfl
  waits := fun _ h => (nomatch h)
  granted := fun _ _ h => (nomatch h)

end

/-- However reports, events, requests and time limits follow one another: the events are
exactly the changes of the mode, every request is answered once, waits, or has waited too
long, and a mode other than the unknown one is granted only if the flight controller has
reported it. -/
theorem modes_kept (vehicle : VehicleType) (actions : List ModeAction) :
    Kept (runFrom (ModeDesk.step vehicle) {} actions) :=
  kept_initial.run vehicle actions

/-- Every request that waits for the mode of the flight controller has its event coming. -/
def Served (d : ModeDesk) : Prop :=
  ∀ w∈d.waiting,w.2=d.feed.latest → w.2∈d.feed.events.map Prod.snd

/-- No request falls between the handling of an event and the storing of its mode. -/
def InTime (d : ModeDesk) : ModeAction → Prop
  | .request str => ∀ mode,create str=.ok mode → ¬(d.feed.storing=some mode ∧ d.feed.events=[])
  | _ => True

section

variable {d : ModeDesk}

/-- A report comes with its event. -/
theorem served_report (hd : Served d) (mode : FlightMode) :
    Served { d with feed := d.feed.report mode } := by
  intro w hw hlatest
  have hsub := hd w hw
  dsimp only at hlatest ⊢
  rw [Feed.report] at hlatest ⊢
  split_ifs at hlatest ⊢ with hbusy hsame
  · exact hsub hlatest
  · exact hsub hlatest
  · rw [List.map_append,List.mem_append]
    exact Or.inr (List.mem_singleton.mpr hlatest)

/-- An event leaves those waiting that it does not serve. -/
theorem served_onModeEvent (hd : Served d) : Served d.onModeEvent := by
  rw [ModeDesk.onModeEvent]
  split
  · exact hd
  · rename_i e rest hevents
    intro w hw hlatest
    obtain ⟨hwaits,hother⟩ := List.mem_filter.mp hw
    have hcoming := hd w hwaits hlatest
    rw [hevents,List.map_cons,List.mem_cons] at hcoming
    dsimp only [Feed.handled]
    rw [hevents]
    exact hcoming.resolve_left (of_decide_eq_true hother)

/-- A request is served if and only if it comes in time. -/
theorem served_onSetMode_iff (h : Kept d) (hd : Served d) (vehicle : VehicleType)
    (str : String) : Served (d.onSetMode vehicle str) ↔ InTime d (.request str) := by
  rw [ModeDesk.onSetMode,InTime]
  cases hcreate : create str with
  | error text => exact iff_of_true hd fun _ hmode => (nomatch hmode)
  | ok mode =>
    dsimp only
    by_cases hvalue : d.feed.value=mode
    · rw [if_pos hvalue]
      refine iff_of_true hd fun m hm hrace => ?_
      cases hm
      exact h.feed.fresh _ hrace.1 hvalue
    · rw [if_neg hvalue]
      constructor
      · intro hserved m hm hrace
        cases hm
        have hcoming := hserved (d.arrived,mode) List.mem_cons_self (by
          dsimp only [Feed.latest]
          rw [hrace.1]
          rfl)
        dsimp only at hcoming
        rw [hrace.2] at hcoming
        cases hcoming
      · intro htime w hw hlatest
        rcases List.mem_cons.mp hw with rfl|hold
        · -- the mode is announced and not stored, so its event is the last one
          have hstoring : d.feed.storing=some mode := by
            cases hs : d.feed.storing with
            | none =>
              dsimp only [Feed.latest] at hlatest
              rw [hs] at hlatest
              exact absurd hlatest.symm hvalue
            | some a =>
              dsimp only [Feed.latest] at hlatest
              rw [hs] at hlatest
              exact congrArg some hlatest.symm
          have hne : d.feed.events≠[] := fun hnil => htime mode rfl ⟨hstoring,hnil⟩
          obtain ⟨e,he⟩ := List.getLast?_isSome.mpr hne |> Option.isSome_iff_exists.mp
          exact List.mem_map.mpr ⟨e,List.mem_of_getLast? he,(h.feed.last he).trans hlatest.symm⟩
        · exact hd w hold hlatest

/-- One action serves if and only if it comes in time. -/
theorem served_step_iff (h : Kept d) (hd : Served d) (vehicle : VehicleType)
    (action : ModeAction) : Served (d.step vehicle action) ↔ InTime d action := by
  cases action with
  | report mode => exact iff_of_true (served_report hd mode) trivial
  | store => exact iff_of_true hd trivial
  | handle => exact iff_of_true (served_onModeEvent hd) trivial
  | request str => exact served_onSetMode_iff h hd vehicle str
  | expire id =>
    refine iff_of_true (fun w hw hlatest => ?_) trivial
    exact hd w (List.mem_filter.mp hw).1 hlatest

end

/-- In all states of a run every request that waits for the mode the flight controller is
in has its event coming, exactly if no request falls between the handling of an event and
the storing of its mode. -/
theorem served_iff_inTime (vehicle : VehicleType) (actions : List ModeAction) :
    (∀ done,done<+:actions → Served (runFrom (ModeDesk.step vehicle) {} done)) ↔
      Guarded (ModeDesk.step vehicle) InTime {} actions := by
  rw [←forall_prefix_iff_guarded (P := fun d => Kept d ∧ Served d)
    (fun d action h => (and_iff_right (h.1.step vehicle action)).trans
      (served_step_iff h.1 h.2 vehicle action)) actions
    ⟨kept_initial,fun _ hw => (nomatch hw)⟩]
  exact forall₂_congr fun done _ => (and_iff_right (kept_initial.run vehicle done)).symm

end Dankong.Modes

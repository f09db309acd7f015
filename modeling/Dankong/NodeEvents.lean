import Dankong.Json

/-!
# Node events of a mission

`ExcuteState::run_wp_event`: one JSON event of a waypoint is looked up in the
handler table and dispatched as a command. Reading the JSON throws on values of
the wrong kind, which aborts the remaining events of that waypoint.
-/

namespace Dankong.Flight

/-- The events that the handlers dispatch. -/
inductive NodeCommand (R : Type*)
  /-- `StartRecordEvent` with its bag name. -/
  | startRecord (bagName : String)
  /-- `StopRecordEvent`. -/
  | stopRecord
  /-- `EnableDetectEvent` with its detection type. -/
  | enableDetect (type : String)
  /-- `DisableDetectEvent`. -/
  | disableDetect
  /-- `SetGimbalEvent` with its angle and mode. -/
  | setGimbal (angle : R) (mode : String)

variable {R : Type*}

/-- The key `eventType:eventStatus`; `none` when reading either throws. -/
def handlerKey (j : Json) : Option String := do
  let eventType ← j.valueString "eventType" ""
  let status ← j.valueString "eventStatus" ""
  return eventType++":"++status

/-- The table `event_handlers`, applied: `none` when the handler throws, and
otherwise the command it dispatches, if any. An unknown key dispatches nothing,
as does a gimbal angle that `std::stof` cannot read. -/
def runHandler (stof : String → Option R) (key : String) (j : Json) :
    Option (Option (NodeCommand R)) :=
  if key="video:on" then (j.valueString "eventParam" "").map fun bag => some (.startRecord bag)
  else if key="video:off" then some (some .stopRecord)
  else if key="hat:on" then some (some (.enableDetect "nohardhat"))
  else if key="hat:off" then some (some .disableDetect)
  else if key="smoke:on" then some (some (.enableDetect "smoke"))
  else if key="gimbal:" then
    (j.valueString "eventParam" "25").map fun text =>
      (stof text).map fun angle => .setGimbal angle "body"
  else some none

/-- `run_wp_event`; `none` stands for a throw. -/
def runWpEvent (stof : String → Option R) (j : Json) : Option (Option (NodeCommand R)) :=
  (handlerKey j).bind fun key => runHandler stof key j

/-- The event loop over one entry of the node event list: the commands
dispatched, and whether an event threw and ended the loop. -/
def runEvents (stof : String → Option R) : List Json → List (NodeCommand R)×Bool
  | [] => ([],false)
  | event::rest =>
    match runWpEvent stof event with
    | none => ([],true)
    | some command => (command.toList++(runEvents stof rest).1,(runEvents stof rest).2)

/-- The commands that the events of one entry stand for. -/
def entryCommands (stof : String → Option R) (entry : Json) : List (NodeCommand R) :=
  entry.elements.filterMap fun event => (runWpEvent stof event).join

/-- The handlers that read the parameter of the event. -/
def ReadsParam (key : String) : Prop := key="video:on" ∨ key="gimbal:"

/-- A well-formed event: an object whose type and status are strings where
present, and so is its parameter where a handler reads it. -/
def EventOk (j : Json) : Prop :=
  ∃ fields,j=.obj fields ∧ Json.StringIfPresent fields "eventType" ∧
    Json.StringIfPresent fields "eventStatus" ∧
    ∀ key,handlerKey j=some key → ReadsParam key → Json.StringIfPresent fields "eventParam"

/-- An entry all of whose events are well formed. -/
def EntryOk (entry : Json) : Prop := ∀ event∈entry.elements,EventOk event

/-- A value that is no object has no string member to read. -/
theorem handlerKey_eq_none_of_not_obj {j : Json} (h : ∀ fields,j≠.obj fields) :
    handlerKey j=none := by
  cases j with
  | obj fields => exact absurd rfl (h fields)
  | _ => rfl

/-- The handler key of an object is read exactly if type and status are strings
where present. -/
theorem handlerKey_isSome_iff (fields : List (String×Json)) :
    (handlerKey (.obj fields)).isSome=true ↔ Json.StringIfPresent fields "eventType" ∧
      Json.StringIfPresent fields "eventStatus" := by
  rw [←Json.valueString_isSome_iff fields "eventType" "",
    ←Json.valueString_isSome_iff fields "eventStatus" ""]
  dsimp only [handlerKey]
  cases (Json.obj fields).valueString "eventType" "" with
  | none => simp
  | some eventType =>
    cases (Json.obj fields).valueString "eventStatus" "" with
    | none => simp
    | some status => simp

/-- A handler throws exactly if it reads a parameter that is not a string. -/
theorem runHandler_isSome_iff (stof : String → Option R) (key : String)
    (fields : List (String×Json)) :
    (runHandler stof key (.obj fields)).isSome=true ↔
      (ReadsParam key → Json.StringIfPresent fields "eventParam") := by
  unfold runHandler ReadsParam
  by_cases hvideo : key="video:on"
  · rw [if_pos hvideo,Option.isSome_map,Json.valueString_isSome_iff]
    exact ⟨fun h _ => h,fun h => h (Or.inl hvideo)⟩
  · by_cases hgimbal : key="gimbal:"
    · subst hgimbal
      simp only [String.reduceEq,if_false,if_true,Option.isSome_map,Json.valueString_isSome_iff,
        false_or,true_imp_iff]
    · rw [if_neg hvideo,if_neg hgimbal]
      refine ⟨fun _ hread => absurd hread (by simp [hvideo,hgimbal]),fun _ => ?_⟩
      split_ifs <;> rfl

/-- An event throws exactly if it is malformed. -/
theorem runWpEvent_isSome_iff (stof : String → Option R) (j : Json) :
    (runWpEvent stof j).isSome=true ↔ EventOk j := by
  by_cases hobj : ∃ fields,j=.obj fields
  · obtain ⟨fields,rfl⟩ := hobj
    have hkey := handlerKey_isSome_iff fields
    unfold runWpEvent EventOk
    cases hk : handlerKey (.obj fields) with
    | none =>
      rw [hk] at hkey
      refine ⟨fun h => absurd h (by simp),?_⟩
      rintro ⟨fields',hfields,htype,hstatus,_⟩
      cases hfields
      exact absurd (hkey.mpr ⟨htype,hstatus⟩) (by simp)
    | some key =>
      rw [hk] at hkey
      obtain ⟨htype,hstatus⟩ := hkey.mp rfl
      have hrun := runHandler_isSome_iff stof key fields
      refine ⟨fun h => ⟨fields,rfl,htype,hstatus,fun key' hkey' hread => ?_⟩,?_⟩
      · cases hkey'
        exact hrun.mp h hread
      · rintro ⟨fields',hfields,_,_,hparam⟩
        cases hfields
        exact hrun.mpr (hparam key rfl)
  · have hne : ∀ fields,j≠.obj fields := fun fields h => hobj ⟨fields,h⟩
    dsimp only [runWpEvent]
    rw [handlerKey_eq_none_of_not_obj hne]
    exact ⟨fun h => absurd h (by simp),fun ⟨fields,h,_⟩ => absurd h (hne fields)⟩

/-- The event loop of an entry throws exactly if some event is malformed. -/
theorem runEvents_throws_iff (stof : String → Option R) (events : List Json) :
    (runEvents stof events).2=true ↔ ∃ event∈events,¬EventOk event := by
  induction events with
  | nil => simp [runEvents]
  | cons event rest ih =>
    have hevent := runWpEvent_isSome_iff stof event
    dsimp only [runEvents]
    cases h : runWpEvent stof event with
    | none =>
      rw [h] at hevent
      exact ⟨fun _ => ⟨event,List.mem_cons_self,fun hok => (nomatch hevent.mpr hok)⟩,fun _ => rfl⟩
    | some command =>
      rw [h] at hevent
      have hok := hevent.mp rfl
      dsimp only
      rw [ih]
      constructor
      · rintro ⟨e,he,hbad⟩
        exact ⟨e,List.mem_cons_of_mem _ he,hbad⟩
      · rintro ⟨e,he,hbad⟩
        rcases List.mem_cons.mp he with rfl|hrest
        · exact absurd hok hbad
        · exact ⟨e,hrest,hbad⟩

/-- A well-formed entry runs to its end. -/
theorem runEvents_completes {stof : String → Option R} {entry : Json} (h : EntryOk entry) :
    (runEvents stof entry.elements).2=false := by
  rw [←Bool.not_eq_true,runEvents_throws_iff]
  rintro ⟨event,hevent,hbad⟩
  exact hbad (h event hevent)

/-- An event loop that runs to its end dispatches the commands of all events. -/
theorem runEvents_commands {stof : String → Option R} {events : List Json}
    (h : (runEvents stof events).2=false) :
    (runEvents stof events).1=events.filterMap fun event => (runWpEvent stof event).join := by
  induction events with
  | nil => rfl
  | cons event rest ih =>
    unfold runEvents at h ⊢
    cases hrun : runWpEvent stof event with
    | none =>
      rw [hrun] at h
      cases h
    | some command =>
      rw [hrun] at h
      dsimp only at h ⊢
      rw [ih h]
      cases command <;> simp [hrun]

end Dankong.Flight

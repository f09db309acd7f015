import Dankong.Runs
import Dankong.TrackerControl

/-!
# Switching detectors

Every detection type has a parameter on the ROS server that switches its detector.
Enabling a type is meant to switch its detector on and all others off; disabling
switches all off. While a detector is on, a speed-limit callback is registered
with the tracker and held by a token.
-/

namespace Dankong.Detection

open Runs Tracker

/-- A `std::string`: its bytes. -/
abbrev Bytes := List UInt8

/-- The bytes of a literal of the source. -/
def bytes (s : String) : Bytes := s.toList.map fun c => UInt8.ofNat c.toNat

/-- `FixedString64`: at most 63 bytes, up to the first zero byte. -/
def fixedString64 (s : Bytes) : Bytes := (s.takeWhile fun b => b != 0).take 63

/-- `SpeedLimitToken`. -/
structure SpeedLimitToken where
  /-- `id`: the handle of the callback. -/
  id : ℤ := -1
  /-- `owner`: whether it points to the tracker. -/
  owner : Bool := false
  deriving DecidableEq

/-- `detect_map`: the parameter of every detection type. Types and parameters are
pairwise distinct, and no parameter is named like a type. -/
structure DetectMap where
  /-- The entries, in the order the source iterates over them. -/
  entries : List (Bytes×Bytes)
  /-- No type twice. -/
  types : (entries.map Prod.fst).Nodup
  /-- No parameter twice. -/
  params : (entries.map Prod.snd).Nodup
  /-- No parameter is a type. -/
  apart : ∀ e∈entries,∀ e'∈entries,e.1≠e'.2

/-- The parameter that lets the results be sent. -/
def enableSend : Bytes :=
  bytes "/UAV0/perception/object_location/object_location_node/enable_send"

/-- What the handlers of detection events read and write. -/
structure AlgoContext where
  /-- Value last written to every parameter of the server. -/
  param : Bytes → Option Bool := fun _ => none
  /-- `detect_type`. -/
  detectType : Bytes := bytes "Disabled"
  /-- `speed_limit_token`. -/
  speedLimitToken : Option SpeedLimitToken := none
  /-- `tracker`. -/
  tracker : TrackerState

/-- The answer to an event. -/
inductive EventReply where
  /-- `resolve` with status and message. -/
  | resolve (status message : String)
  /-- `reject` with a message. -/
  | reject (message : Bytes)

/-- `setParam`. -/
def setParam (name : Bytes) (value : Bool) (param : Bytes → Option Bool) :
    Bytes → Option Bool :=
  Function.update param name (some value)

/-- The loop over the map in the handler of `EnableDetectEvent`: the parameter of
the type is set, and for every other entry the name of its type is cleared. -/
def enableLoop (type : Bytes) (entries : List (Bytes×Bytes)) (param : Bytes → Option Bool) :
    Bytes → Option Bool :=
  entries.foldl (fun param e =>
    if e.1=type then setParam e.2 true param else setParam e.1 false param) param

/-- The loop over the map in the handler of `DisableDetectEvent`. -/
def disableLoop (entries : List (Bytes×Bytes)) (param : Bytes → Option Bool) :
    Bytes → Option Bool :=
  entries.foldl (fun param e => setParam e.2 false param) param

noncomputable section

/-- `SpeedLimitToken::release`: the callback of the token is removed. -/
def SpeedLimitToken.release (cfg : TrackerConfig) (env : Surroundings) (token : SpeedLimitToken)
    (s : TrackerState) : SpeedLimitToken×TrackerState :=
  ({},if token.owner=true ∧ 0≤token.id then removeSpeedLimitCb cfg env token.id.toNat s else s)

/-- Destruction of what a shared pointer to a token owns. -/
def dropToken (cfg : TrackerConfig) (env : Surroundings) (token : Option SpeedLimitToken)
    (s : TrackerState) : TrackerState :=
  match token with
  | some token => (token.release cfg env s).2
  | none => s

/-- `on_event(EnableDetectEvent)`. -/
def onEnableDetect (cfg : TrackerConfig) (map : DetectMap) (env : Surroundings) (type : Bytes)
    (ctx : AlgoContext) : AlgoContext×EventReply :=
  match map.entries.lookup type with
  | none => (ctx,.reject (bytes "can not find event: "++type))
  | some _ =>
    -- the new token replaces the old one, whose destructor releases it
    let released := dropToken cfg env ctx.speedLimitToken ctx.tracker
    ({ param := setParam enableSend true (enableLoop type map.entries ctx.param)
       detectType := fixedString64 type
       speedLimitToken := some ⟨released.cbSeq,true⟩
       tracker := addSpeedLimitCb cfg env "detect" released },.resolve "success" "OK")

/-- `on_event(DisableDetectEvent)`. -/
def onDisableDetect (cfg : TrackerConfig) (map : DetectMap) (env : Surroundings)
    (ctx : AlgoContext) : AlgoContext×EventReply :=
  ({ param := setParam enableSend false (disableLoop map.entries ctx.param)
     detectType := bytes "Disabled"
     speedLimitToken := none
     tracker := dropToken cfg env ctx.speedLimitToken ctx.tracker },.resolve "success" "OK")

/-- The two detection events, with the surroundings they are handled in. -/
inductive DetectEvent where
  | enable (env : Surroundings) (type : Bytes)
  | disable (env : Surroundings)

/-- Handling of an event. -/
def onDetect (cfg : TrackerConfig) (map : DetectMap) (ctx : AlgoContext) :
    DetectEvent → AlgoContext×EventReply
  | .enable env type => onEnableDetect cfg map env type ctx
  | .disable env => onDisableDetect cfg map env ctx

/-- The context after an event. -/
def detectStep (cfg : TrackerConfig) (map : DetectMap) (ctx : AlgoContext) (event : DetectEvent) :
    AlgoContext :=
  (onDetect cfg map ctx event).1

end

/-- While a detection is enabled, the parameter of its type is on and no other
one; otherwise none is. -/
def Selected (map : DetectMap) (ctx : AlgoContext) : Prop :=
  match ctx.speedLimitToken with
  | none => ∀ e∈map.entries,ctx.param e.2≠some true
  | some _ => ∃ name,(ctx.detectType,name)∈map.entries ∧
      ∀ e∈map.entries,ctx.param e.2=some true ↔ e.2=name

/-- What the handling of an event must achieve: the selected detector is the only
one on, and a rejected event changes nothing. -/
def HandledWell (cfg : TrackerConfig) (map : DetectMap) (ctx : AlgoContext)
    (event : DetectEvent) : Prop :=
  Selected map (detectStep cfg map ctx event) ∧
    ∀ message,(onDetect cfg map ctx event).2=.reject message →
      detectStep cfg map ctx event=ctx

/-- A known type is enabled only while detection is off or this type is on; its
name fits where it is stored, and no other entry switches the sending. -/
def EnableFits (map : DetectMap) (ctx : AlgoContext) : DetectEvent → Prop
  | .enable _ type => type∈map.entries.map Prod.fst →
      (ctx.speedLimitToken=none ∨ ctx.detectType=type) ∧ fixedString64 type=type ∧
        ∀ e∈map.entries,e.1≠type → e.2≠enableSend
  | .disable _ => True

namespace DetectMap

variable (map : DetectMap)

/-- A type has one entry. -/
theorem eq_of_type {e e' : Bytes×Bytes} (he : e∈map.entries) (he' : e'∈map.entries)
    (h : e.1=e'.1) : e=e' :=
  List.inj_on_of_nodup_map map.types he he' h

/-- A parameter has one entry. -/
theorem eq_of_param {e e' : Bytes×Bytes} (he : e∈map.entries) (he' : e'∈map.entries)
    (h : e.2=e'.2) : e=e' :=
  List.inj_on_of_nodup_map map.params he he' h

end DetectMap

/-- A parameter that no entry writes keeps its value; the type's own is set. -/
theorem enableLoop_apply (type : Bytes) (entries : List (Bytes×Bytes))
    (param : Bytes → Option Bool) {name : Bytes} (hname : ∀ e∈entries,e.1≠name) :
    enableLoop type entries param name=
      if (type,name)∈entries then some true else param name := by
  induction entries generalizing param with
  | nil => rfl
  | cons e rest ih =>
    obtain ⟨key,value⟩ := e
    have hkey : name≠key := (hname (key,value) List.mem_cons_self).symm
    have hrest := ih (if key=type then setParam value true param else setParam key false param)
      (fun e he => hname e (List.mem_cons_of_mem _ he))
    have hloop : enableLoop type ((key,value)::rest) param=
        enableLoop type rest
          (if key=type then setParam value true param else setParam key false param) := rfl
    rw [hloop,hrest]
    by_cases hin : (type,name)∈rest
    · rw [if_pos hin,if_pos (List.mem_cons_of_mem _ hin)]
    rw [if_neg hin]
    by_cases htype : key=type
    · rw [if_pos htype]
      by_cases hvalue : name=value
      · have hhead : (type,name)∈(key,value)::rest := by
          rw [htype,hvalue]
          exact List.mem_cons_self
        rw [if_pos hhead,hvalue]
        exact Function.update_self _ _ _
      · have hnot : (type,name)∉(key,value)::rest := by
          intro h
          rcases List.mem_cons.mp h with h|h
          · exact hvalue (Prod.mk.inj h).2
          · exact hin h
        rw [if_neg hnot]
        exact Function.update_of_ne hvalue _ _
    · have hnot : (type,name)∉(key,value)::rest := by
        intro h
        rcases List.mem_cons.mp h with h|h
        · exact htype (Prod.mk.inj h).1.symm
        · exact hin h
      rw [if_neg htype,if_neg hnot]
      exact Function.update_of_ne hkey _ _

/-- Clearing all entries switches no parameter on. -/
theorem disableLoop_apply (entries : List (Bytes×Bytes)) (param : Bytes → Option Bool)
    {name : Bytes} (hname : name∈entries.map Prod.snd ∨ param name≠some true) :
    disableLoop entries param name≠some true := by
  induction entries generalizing param with
  | nil => exact hname.resolve_left (List.not_mem_nil)
  | cons e rest ih =>
    have hloop : disableLoop (e::rest) param=disableLoop rest (setParam e.2 false param) := rfl
    rw [hloop]
    by_cases hin : name∈rest.map Prod.snd
    · exact ih _ (Or.inl hin)
    refine ih _ (Or.inr ?_)
    by_cases heq : name=e.2
    · rw [heq,setParam,Function.update_self]
      exact fun h => (nomatch h)
    · rw [setParam,Function.update_of_ne heq]
      refine hname.resolve_left fun h => ?_
      rcases List.mem_cons.mp h with h|h
      · exact heq h
      · exact hin h

section

variable {cfg : TrackerConfig} {map : DetectMap} {env : Surroundings} {ctx : AlgoContext}
  {type : Bytes}

/-- An unknown type is rejected and changes nothing. -/
theorem onEnableDetect_unknown (h : type∉map.entries.map Prod.fst) :
    onEnableDetect cfg map env type ctx=(ctx,.reject (bytes "can not find event: "++type)) := by
  have hlookup : map.entries.lookup type=none := by
    rw [List.lookup_eq_none_iff]
    intro e he
    rw [bne_iff_ne]
    intro heq
    exact h (List.mem_map.mpr ⟨e,he,heq.symm⟩)
  dsimp only [onEnableDetect]
  rw [hlookup]

/-- A known type is enabled. -/
theorem onEnableDetect_known (h : type∈map.entries.map Prod.fst) :
    onEnableDetect cfg map env type ctx=
      ({ param := setParam enableSend true (enableLoop type map.entries ctx.param)
         detectType := fixedString64 type
         speedLimitToken := some ⟨(dropToken cfg env ctx.speedLimitToken ctx.tracker).cbSeq,true⟩
         tracker := addSpeedLimitCb cfg env "detect"
           (dropToken cfg env ctx.speedLimitToken ctx.tracker) },.resolve "success" "OK") := by
  obtain ⟨name,hlookup⟩ : ∃ name,map.entries.lookup type=some name := by
    cases hl : map.entries.lookup type with
    | some name => exact ⟨name,rfl⟩
    | none =>
      obtain ⟨e,he,rfl⟩ := List.mem_map.mp h
      have hne := List.lookup_eq_none_iff.mp hl e he
      rw [bne_iff_ne] at hne
      exact absurd rfl hne
  dsimp only [onEnableDetect]
  rw [hlookup]

/-- The parameter of an entry after a known type has been enabled. -/
theorem enabled_param {e : Bytes×Bytes} (he : e∈map.entries) (param : Bytes → Option Bool) :
    setParam enableSend true (enableLoop type map.entries param) e.2=some true ↔
      e.2=enableSend ∨ e.1=type ∨ param e.2=some true := by
  have hloop := enableLoop_apply type map.entries param
    (fun e' he' => map.apart e' he' e he)
  by_cases hsend : e.2=enableSend
  · rw [setParam,hsend,Function.update_self]
    exact iff_of_true rfl (Or.inl rfl)
  rw [setParam,Function.update_of_ne hsend,hloop]
  by_cases htype : e.1=type
  · have hin : (type,e.2)∈map.entries := by
      rw [←htype]
      exact he
    rw [if_pos hin]
    exact iff_of_true rfl (Or.inr (Or.inl htype))
  · have hnot : (type,e.2)∉map.entries := by
      intro hin
      have heq := map.eq_of_param he hin rfl
      exact htype (by rw [heq])
    rw [if_neg hnot]
    constructor
    · exact fun h => Or.inr (Or.inr h)
    · exact fun h => (h.resolve_left hsend).resolve_left htype

variable (cfg env) in
/-- Enabling a known type leaves exactly its detector on if and only if it fits. -/
theorem selected_enable_iff (h : Selected map ctx) {name : Bytes}
    (hentry : (type,name)∈map.entries) :
    Selected map (onEnableDetect cfg map env type ctx).1 ↔
      (ctx.speedLimitToken=none ∨ ctx.detectType=type) ∧ fixedString64 type=type ∧
        ∀ e∈map.entries,e.1≠type → e.2≠enableSend := by
  rw [onEnableDetect_known (List.mem_map.mpr ⟨_,hentry,rfl⟩)]
  dsimp only [Selected]
  constructor
  · rintro ⟨on,hon,honly⟩
    have hname : name=on :=
      (honly _ hentry).mp ((enabled_param hentry ctx.param).mpr (Or.inr (Or.inl rfl)))
    have hstored : fixedString64 type=type :=
      congrArg Prod.fst (map.eq_of_param hon hentry hname.symm)
    have hoff : ∀ e∈map.entries,e.1≠type → ¬(e.2=enableSend ∨ ctx.param e.2=some true) := by
      intro e he hne hset
      have heq : e.2=on := by
        refine (honly e he).mp ((enabled_param he ctx.param).mpr ?_)
        rcases hset with hset|hset
        · exact Or.inl hset
        · exact Or.inr (Or.inr hset)
      exact hne (congrArg Prod.fst (map.eq_of_param he hentry (heq.trans hname.symm)))
    refine ⟨?_,hstored,fun e he hne hsend => hoff e he hne (Or.inl hsend)⟩
    cases htoken : ctx.speedLimitToken with
    | none => exact Or.inl rfl
    | some token =>
      -- the detector that is on must be the one being enabled
      rw [Selected,htoken] at h
      obtain ⟨old,hold,hset⟩ := h
      refine Or.inr (by_contra fun hne => ?_)
      exact hoff _ hold hne (Or.inr ((hset _ hold).mpr rfl))
  · rintro ⟨hbefore,hstored,hsend⟩
    rw [hstored]
    refine ⟨name,hentry,fun e he => ?_⟩
    rw [enabled_param he]
    by_cases htype : e.1=type
    · have heq := map.eq_of_type he hentry htype
      exact iff_of_true (Or.inr (Or.inl htype)) (by rw [heq])
    · have hne : e.2≠name := fun heq => htype (by rw [map.eq_of_param he hentry heq])
      refine iff_of_false ?_ hne
      rintro (hset|hset|hset)
      · exact hsend e he htype hset
      · exact htype hset
      · cases htoken : ctx.speedLimitToken with
        | none =>
          rw [Selected,htoken] at h
          exact h e he hset
        | some token =>
          rw [htoken] at hbefore
          have hold := hbefore.resolve_left (by simp)
          rw [Selected,htoken] at h
          obtain ⟨old,hentry',honly⟩ := h
          rw [hold] at hentry'
          have hsame := congrArg Prod.snd (map.eq_of_type hentry' hentry rfl)
          exact hne (((honly e he).mp hset).trans hsame)

/-- Disabling switches everything off. -/
theorem selected_disable : Selected map (onDisableDetect cfg map env ctx).1 := by
  intro e he
  dsimp only [onDisableDetect]
  have hloop := disableLoop_apply map.entries ctx.param
    (Or.inl (List.mem_map.mpr ⟨e,he,rfl⟩) : e.2∈map.entries.map Prod.snd ∨ _)
  by_cases hsend : e.2=enableSend
  · rw [setParam,hsend,Function.update_self]
    exact fun h => (nomatch h)
  · rw [setParam,Function.update_of_ne hsend]
    exact hloop

end

/-- An event is handled well exactly if it fits. -/
theorem handledWell_iff {cfg : TrackerConfig} {map : DetectMap} {ctx : AlgoContext}
    (h : Selected map ctx) (event : DetectEvent) :
    HandledWell cfg map ctx event ↔ EnableFits map ctx event := by
  cases event with
  | disable env =>
    refine iff_of_true ⟨selected_disable,fun message hreply => ?_⟩ trivial
    cases hreply
  | enable env type =>
    by_cases hknown : type∈map.entries.map Prod.fst
    · obtain ⟨⟨key,name⟩,hentry,hkey⟩ := List.mem_map.mp hknown
      have hentry : (type,name)∈map.entries := hkey ▸ hentry
      have hreply : ∀ message,(onDetect cfg map ctx (.enable env type)).2≠.reject message := by
        intro message hreply
        dsimp only [onDetect] at hreply
        rw [onEnableDetect_known hknown] at hreply
        cases hreply
      have hiff := selected_enable_iff cfg env h hentry
      constructor
      · intro hwell _
        exact hiff.mp hwell.1
      · intro hfits
        exact ⟨hiff.mpr (hfits hknown),fun message hm => absurd hm (hreply message)⟩
    · have hsame : detectStep cfg map ctx (.enable env type)=ctx := by
        dsimp only [detectStep,onDetect]
        rw [onEnableDetect_unknown hknown]
      refine iff_of_true ⟨?_,fun _ _ => hsame⟩ (fun hin => absurd hin hknown)
      rw [hsame]
      exact h

/-- Starting with all detectors off, all events of a run are handled well exactly
if all of them fit. -/
theorem selected_iff (cfg : TrackerConfig) (map : DetectMap) (ctx : AlgoContext)
    (hoff : ctx.speedLimitToken=none) (hparam : ∀ e∈map.entries,ctx.param e.2≠some true)
    (events : List DetectEvent) :
    Guarded (detectStep cfg map) (HandledWell cfg map) ctx events ↔
      Guarded (detectStep cfg map) (EnableFits map) ctx events := by
  have hstart : Selected map ctx := by
    rw [Selected,hoff]
    exact hparam
  constructor
  · refine guarded_of_invariant (P := Selected map) (fun c e _ hwell => hwell.1)
      (fun c e hc hwell => (handledWell_iff hc e).mp hwell) events hstart
  · refine guarded_of_invariant (P := Selected map)
      (fun c e hc hfits => ((handledWell_iff hc e).mpr hfits).1)
      (fun c e hc hfits => (handledWell_iff hc e).mpr hfits) events hstart

/-- The detector of missing hard hats. -/
def nohardhat : Bytes×Bytes :=
  (bytes "nohardhat",bytes "/UAV0/perception/yolo_detection/enable_detection")

/-- The detector of smoke. -/
def smoke : Bytes×Bytes :=
  (bytes "smoke",bytes "/UAV0/perception/yolo_detection_smoke/enable_detection")

/-- The map of the default configuration. -/
def defaultMap : DetectMap where
  entries := [nohardhat,smoke]
  types := by decide +kernel
  params := by decide +kernel
  apart := by decide +kernel

/-- A context in which nothing has been enabled. -/
noncomputable def allOff : AlgoContext := { tracker := fresh 0 }

/-- A vehicle at rest at the origin, with no callback giving a limit. -/
noncomputable def atOrigin : Surroundings := ⟨.zero,0,0,fun _ => none⟩

/-- Enabling one detector, disabling it and enabling the other is handled well. -/
theorem selected_after_disable :
    Guarded (detectStep {} defaultMap) (HandledWell {} defaultMap) allOff
      [.enable atOrigin nohardhat.1,.disable atOrigin,.enable atOrigin smoke.1] := by
  refine (selected_iff {} defaultMap allOff rfl (fun _ _ h => (nomatch h)) _).mpr ?_
  refine ⟨fun _ => ⟨Or.inl rfl,?_,?_⟩,trivial,fun _ => ⟨Or.inl rfl,?_,?_⟩,trivial⟩
  all_goals decide +kernel

/-- Enabling the second detector while the first is on leaves both on. -/
theorem both_detectors_on :
    ¬Guarded (detectStep {} defaultMap) (HandledWell {} defaultMap) allOff
      [.enable atOrigin nohardhat.1,.enable atOrigin smoke.1] := by
  rintro ⟨_,⟨⟨name,_,honly⟩,_⟩,_⟩
  have hfirst : nohardhat.2=name :=
    (honly nohardhat List.mem_cons_self).mp (by decide +kernel)
  have hsecond : smoke.2=name :=
    (honly smoke (List.mem_cons_of_mem _ List.mem_cons_self)).mp (by decide +kernel)
  exact absurd (hfirst.trans hsecond.symm) (by decide +kernel)

end Dankong.Detection

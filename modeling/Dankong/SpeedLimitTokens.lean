import Dankong.Detection
import Dankong.HandleLedger
import Dankong.TrackerSpeedLimit

/-!
# Speed-limit tokens

A token is a movable handle of a speed-limit callback: moving it on empties the
source, and what it holds is removed from the tracker when it is released,
destroyed or assigned over. Detection holds one in its context. Other callbacks
are registered and removed by their handles. Over all sequences of such calls the
tracker holds exactly the callbacks that somebody still owns, and the effective
limit is the least of the limits in force.
-/

namespace Dankong.SpeedLimitTokens

open Detection HandleLedger Runs Tracker

/-- The handle a token owns, if any. -/
def live? (token : SpeedLimitToken) : Option ℕ :=
  if token.owner=true ∧ 0≤token.id then some token.id.toNat else none

/-- The context of detection, the other tokens of the program and the handles of
further callbacks. -/
structure TokenState where
  /-- What the detection handlers see; its token is theirs alone. -/
  ctx : AlgoContext
  /-- All other tokens; a destroyed one stays behind empty. -/
  tokens : List SpeedLimitToken := []
  /-- Handles of further callbacks that have not been removed. -/
  further : List ℕ := []
  /-- Handles that have been given up. -/
  spent : List ℕ := []
  /-- Handles of all callbacks ever registered by the detection handler. -/
  detectIds : List ℕ := []
  /-- Whether the latest accepted detection event enabled it. -/
  enabled : Bool := false

/-- What can happen to tokens and callbacks. -/
inductive TokenOp where
  /-- A detection event. -/
  | detect (event : DetectEvent)
  /-- A callback is registered for a new token. -/
  | register (env : Surroundings) (name : String)
  /-- A new token is moved out of another one. -/
  | moveConstruct (source : ℕ)
  /-- A token is assigned from another one. -/
  | moveAssign (env : Surroundings) (target source : ℕ)
  /-- A token is released or destroyed. -/
  | release (env : Surroundings) (position : ℕ)
  /-- A further callback is registered. -/
  | addFurther (env : Surroundings) (name : String)
  /-- A further callback is removed by its holder. -/
  | removeFurther (env : Surroundings) (position : ℕ)
  /-- A handle that has been given up is removed once more. -/
  | removeStale (env : Surroundings) (position : ℕ)
  /-- A command or a step of the tracker; calls for callbacks have their own operations. -/
  | track (op : TrackerOp)

/-- The handles of the callbacks registered, in order. -/
def registry (s : TrackerState) : List ℕ := s.speedLimitCbs.map LimitCb.id

namespace TokenState

/-- The handle of detection. -/
def detectHeld (s : TokenState) : List ℕ := (s.ctx.speedLimitToken.bind live?).toList

/-- The handles of all owners: detection, the tokens, the holders of further ones. -/
def held (s : TokenState) : List ℕ :=
  s.detectHeld++(s.tokens.filterMap live?++s.further)

/-- The account of all handles. -/
def ledger (s : TokenState) : Ledger :=
  ⟨registry s.ctx.tracker,s.held,s.spent,s.ctx.tracker.cbSeq⟩

end TokenState

/-- The surroundings in which an operation reads the callbacks, if it does. -/
def TokenOp.env? : TokenOp → Option Surroundings
  | .detect (.enable env _) => some env
  | .detect (.disable env) => some env
  | .register env _ => some env
  | .moveConstruct _ => none
  | .moveAssign env _ _ => some env
  | .release env _ => some env
  | .addFurther env _ => some env
  | .removeFurther env _ => some env
  | .removeStale env _ => some env
  | .track _ => none

/-- The handles whose owner gives them up in an operation. -/
def disposed (map : DetectMap) (s : TokenState) : TokenOp → List ℕ
  | .detect (.enable _ type) =>
    if type∈map.entries.map Prod.fst then s.detectHeld else []
  | .detect (.disable _) => s.detectHeld
  | .moveAssign _ target source =>
    match s.tokens[target]?,s.tokens[source]? with
    | some token,some _ => if target=source then [] else (live? token).toList
    | _,_ => []
  | .release _ position => (s.tokens[position]?.bind live?).toList
  | .removeFurther _ position => s.further[position]?.toList
  | _ => []

/-- The handles issued in an operation. -/
def issued (map : DetectMap) (s : TokenState) : TokenOp → List ℕ
  | .detect (.enable _ type) =>
    if type∈map.entries.map Prod.fst then [s.ctx.tracker.cbSeq] else []
  | .register _ _ => [s.ctx.tracker.cbSeq]
  | .addFurther _ _ => [s.ctx.tracker.cbSeq]
  | _ => []

noncomputable section

/-- The tracker of the context changes. -/
def TokenState.withTracker (s : TokenState) (tracker : TrackerState) : TokenState :=
  { s with ctx := { s.ctx with tracker := tracker } }

/-- `SpeedLimitToken(SpeedLimitToken&&)`: a new token, and what is left of the source. -/
def moveConstruct (other : SpeedLimitToken) : SpeedLimitToken×SpeedLimitToken :=
  (⟨other.id,other.owner⟩,{})

/-- `operator=(SpeedLimitToken&&)` between two different tokens: the target is
released first. -/
def moveAssign (cfg : TrackerConfig) (env : Surroundings) (token other : SpeedLimitToken)
    (s : TrackerState) : SpeedLimitToken×SpeedLimitToken×TrackerState :=
  let released := token.release cfg env s
  (⟨other.id,other.owner⟩,{},released.2)

/-- Effect of an operation on the program. -/
def effect (cfg : TrackerConfig) (map : DetectMap) (s : TokenState) : TokenOp → TokenState
  | .detect (.enable env type) =>
    let ctx := detectStep cfg map s.ctx (.enable env type)
    if type∈map.entries.map Prod.fst then
      { s with ctx := ctx, detectIds := s.ctx.tracker.cbSeq::s.detectIds, enabled := true }
    else { s with ctx := ctx }
  | .detect (.disable env) =>
    { s with ctx := detectStep cfg map s.ctx (.disable env), enabled := false }
  | .register env name =>
    let s' := s.withTracker (addSpeedLimitCb cfg env name s.ctx.tracker)
    { s' with tokens := s.tokens++[⟨s.ctx.tracker.cbSeq,true⟩] }
  | .moveConstruct source =>
    match s.tokens[source]? with
    | some other =>
      { s with tokens := s.tokens.set source (moveConstruct other).2++[(moveConstruct other).1] }
    | none => s
  | .moveAssign env target source =>
    match s.tokens[target]?,s.tokens[source]? with
    | some token,some other =>
      if target=source then s else
        let moved := moveAssign cfg env token other s.ctx.tracker
        { s.withTracker moved.2.2 with
          tokens := (s.tokens.set target moved.1).set source moved.2.1 }
    | _,_ => s
  | .release env position =>
    match s.tokens[position]? with
    | some token =>
      let released := token.release cfg env s.ctx.tracker
      { s.withTracker released.2 with tokens := s.tokens.set position released.1 }
    | none => s
  | .addFurther env name =>
    { s.withTracker (addSpeedLimitCb cfg env name s.ctx.tracker) with
      further := s.further++[s.ctx.tracker.cbSeq] }
  | .removeFurther env position =>
    match s.further[position]? with
    | some id =>
      { s.withTracker (removeSpeedLimitCb cfg env id s.ctx.tracker) with
        further := s.further.eraseIdx position }
    | none => s
  | .removeStale env position =>
    match s.spent[position]? with
    | some id => s.withTracker (removeSpeedLimitCb cfg env id s.ctx.tracker)
    | none => s
  | .track op =>
    match op with
    | .limit _ _ => s
    | op => s.withTracker (apply cfg s.ctx.tracker op)

/-- One operation, with the handles given up put on record. -/
def tokenStep (cfg : TrackerConfig) (map : DetectMap) (s : TokenState) (op : TokenOp) :
    TokenState :=
  { effect cfg map s op with spent := disposed map s op++s.spent }

end

section

variable {cfg : TrackerConfig} {env : Surroundings}

variable (cfg env) in
/-- Removal takes one handle out of the registry. -/
theorem registry_remove (id : ℕ) (s : TrackerState) :
    registry (removeSpeedLimitCb cfg env id s)=(registry s).erase id ∧
      (removeSpeedLimitCb cfg env id s).cbSeq=s.cbSeq := by
  dsimp only [removeSpeedLimitCb]
  by_cases hknown : s.speedLimitCbs.any (fun c => c.id==id)=true
  · rw [if_pos hknown]
    refine ⟨?_,rfl⟩
    dsimp only [registry]
    rw [List.erase_eq_eraseP',List.eraseP_map]
    rfl
  · rw [if_neg hknown]
    refine ⟨(List.erase_of_not_mem fun hin => hknown ?_).symm,rfl⟩
    obtain ⟨c,hc,rfl⟩ := List.mem_map.mp hin
    exact List.any_eq_true.mpr ⟨c,hc,beq_self_eq_true _⟩

variable (cfg env) in
/-- Registration appends the next handle. -/
theorem registry_add (name : String) (s : TrackerState) :
    registry (addSpeedLimitCb cfg env name s)=registry s++[s.cbSeq] ∧
      (addSpeedLimitCb cfg env name s).cbSeq=s.cbSeq+1 :=
  ⟨List.map_append,rfl⟩

variable (cfg env) in
/-- Releasing a token removes the handle it owns. -/
theorem registry_release (token : SpeedLimitToken) (s : TrackerState) :
    registry (token.release cfg env s).2=(registry s).diff (live? token).toList ∧
      (token.release cfg env s).2.cbSeq=s.cbSeq := by
  dsimp only [SpeedLimitToken.release,live?]
  by_cases hlive : token.owner=true ∧ 0≤token.id
  · rw [if_pos hlive,if_pos hlive,Option.toList_some,List.diff_cons,List.diff_nil]
    exact registry_remove _ _ _ s
  · rw [if_neg hlive,if_neg hlive]
    exact ⟨rfl,rfl⟩

variable (cfg env) in
/-- Dropping a shared token removes the handle it owns. -/
theorem registry_drop (token : Option SpeedLimitToken) (s : TrackerState) :
    registry (dropToken cfg env token s)=(registry s).diff (token.bind live?).toList ∧
      (dropToken cfg env token s).cbSeq=s.cbSeq := by
  cases token with
  | none => exact ⟨rfl,rfl⟩
  | some token => exact registry_release _ _ token s

variable (cfg env) in
/-- Steps of the tracker do not touch the callbacks. -/
theorem registry_onStep (dt : ℝ) (s : TrackerState) :
    (onStep cfg env dt s).1.speedLimitCbs=s.speedLimitCbs ∧
      (onStep cfg env dt s).1.cbSeq=s.cbSeq := by
  have hconsume : (consumePending cfg env s).speedLimitCbs=s.speedLimitCbs ∧
      (consumePending cfg env s).cbSeq=s.cbSeq := by
    dsimp only [consumePending]
    split <;> exact ⟨rfl,rfl⟩
  dsimp only [onStep]
  split
  · exact ⟨rfl,rfl⟩
  · rw [←hconsume.1,←hconsume.2]
    dsimp only [controlStep]
    split
    · exact ⟨rfl,rfl⟩
    · dsimp only [positionStep]
      split_ifs <;> exact ⟨rfl,rfl⟩
    · dsimp only [velocityStep]
      split_ifs <;> exact ⟨rfl,rfl⟩

/-- A token in front contributes the handle it owns. -/
theorem filterMap_live_cons (token : SpeedLimitToken) (rest : List SpeedLimitToken) :
    (token::rest).filterMap live?=(live? token).toList++rest.filterMap live? := by
  rw [List.filterMap_cons]
  cases live? token <;> rfl

/-- Replacing one token exchanges what it contributes. -/
theorem filterMap_set_perm {tokens : List SpeedLimitToken} {position : ℕ}
    {old : SpeedLimitToken} (h : tokens[position]?=some old) (new : SpeedLimitToken) :
    ((live? old).toList++(tokens.set position new).filterMap live?).Perm
      ((live? new).toList++tokens.filterMap live?) := by
  induction tokens generalizing position with
  | nil => cases h
  | cons first rest ih =>
    cases position with
    | zero =>
      obtain rfl := Option.some.inj h
      rw [List.set_cons_zero,filterMap_live_cons,filterMap_live_cons]
      exact List.perm_append_comm_assoc _ _ _
    | succ position =>
      rw [List.set_cons_succ,filterMap_live_cons,filterMap_live_cons]
      have hrest := (ih h).append_left (live? first).toList
      exact (List.perm_append_comm_assoc _ _ _).trans
        (hrest.trans (List.perm_append_comm_assoc _ _ _))

end

section

variable {cfg : TrackerConfig} {map : DetectMap} {s : TokenState}

/-- What the tokens give up, the owners together give up. -/
theorem held_perm {tokens tokens' gone : List ℕ} (detected further : List ℕ)
    (h : tokens.Perm (gone++tokens')) :
    (detected++(tokens++further)).Perm (gone++(detected++(tokens'++further))) := by
  have hinner := (h.append_right further).append_left detected
  rw [List.append_assoc gone] at hinner
  exact hinner.trans (List.perm_append_comm_assoc _ _ _)

/-- An operation that issues nothing turns the account over by what it gives up. -/
theorem turnover_dispose {after : TokenState} {gone : List ℕ}
    (hheld : s.held.Perm (gone++after.held))
    (hregistry : registry after.ctx.tracker=(registry s.ctx.tracker).diff gone)
    (hseq : after.ctx.tracker.cbSeq=s.ctx.tracker.cbSeq) :
    Turnover gone [] s.ledger { after with spent := gone++s.spent }.ledger :=
  ⟨after.held,hheld,List.Perm.refl _,
    by dsimp only [TokenState.ledger]; rw [List.nil_append,hregistry],rfl,Or.inl ⟨rfl,hseq⟩⟩

/-- An operation that only registers turns the account over by one new handle. -/
theorem turnover_issue {after : TokenState}
    (hheld : after.held.Perm (s.ctx.tracker.cbSeq::s.held))
    (hregistry : registry after.ctx.tracker=registry s.ctx.tracker++[s.ctx.tracker.cbSeq])
    (hseq : after.ctx.tracker.cbSeq=s.ctx.tracker.cbSeq+1) :
    Turnover [] [s.ctx.tracker.cbSeq] s.ledger { after with spent := []++s.spent }.ledger := by
  refine ⟨s.held,List.Perm.refl _,hheld,?_,rfl,Or.inr ⟨rfl,hseq⟩⟩
  rw [List.diff_nil]
  have hperm : (registry s.ctx.tracker++[s.ctx.tracker.cbSeq]).Perm
      ([s.ctx.tracker.cbSeq]++registry s.ctx.tracker) := List.perm_append_comm
  rw [←hregistry] at hperm
  exact hperm

/-- An operation that leaves tokens and callbacks alone. -/
theorem turnover_idle {after : TokenState} (hheld : after.held=s.held)
    (hregistry : registry after.ctx.tracker=registry s.ctx.tracker)
    (hseq : after.ctx.tracker.cbSeq=s.ctx.tracker.cbSeq) :
    Turnover [] [] s.ledger { after with spent := []++s.spent }.ledger :=
  turnover_dispose (by rw [hheld]; exact List.Perm.refl _) hregistry hseq

variable (cfg map) in
/-- Enabling gives up the old handle of detection and issues a new one. -/
theorem turnover_enable (env : Surroundings) (type : Bytes) :
    Turnover (disposed map s (.detect (.enable env type))) (issued map s (.detect (.enable env type)))
      s.ledger (tokenStep cfg map s (.detect (.enable env type))).ledger := by
  dsimp only [tokenStep,effect,disposed,issued,detectStep,onDetect]
  by_cases hknown : type∈map.entries.map Prod.fst
  · rw [if_pos hknown,if_pos hknown,if_pos hknown,onEnableDetect_known hknown]
    obtain ⟨hdrop,hseq⟩ := registry_drop cfg env s.ctx.speedLimitToken s.ctx.tracker
    obtain ⟨hadd,hnext⟩ := registry_add cfg env "detect"
      (dropToken cfg env s.ctx.speedLimitToken s.ctx.tracker)
    rw [hdrop,hseq] at hadd
    have hregistry : ((registry s.ctx.tracker).diff s.detectHeld++[s.ctx.tracker.cbSeq]).Perm
        ([s.ctx.tracker.cbSeq]++(registry s.ctx.tracker).diff s.detectHeld) :=
      List.perm_append_comm
    refine ⟨s.tokens.filterMap live?++s.further,List.Perm.refl _,?_,?_,rfl,
      Or.inr ⟨rfl,hnext.trans (by rw [hseq]; rfl)⟩⟩
    · dsimp only [TokenState.ledger,TokenState.held,TokenState.detectHeld,Option.bind_some]
      rw [hseq]
      exact List.Perm.refl _
    · dsimp only [TokenState.ledger]
      rw [hadd]
      exact hregistry
  · rw [if_neg hknown,if_neg hknown,if_neg hknown,onEnableDetect_unknown hknown]
    exact turnover_idle rfl rfl rfl

variable (cfg map) in
/-- Disabling gives up the handle of detection. -/
theorem turnover_disable (env : Surroundings) :
    Turnover s.detectHeld [] s.ledger (tokenStep cfg map s (.detect (.disable env))).ledger := by
  obtain ⟨hdrop,hseq⟩ := registry_drop cfg env s.ctx.speedLimitToken s.ctx.tracker
  exact turnover_dispose (List.Perm.refl _) hdrop hseq

/-- Moving a token on gives nothing up. -/
theorem turnover_moveConstruct (source : ℕ) :
    Turnover [] [] s.ledger (tokenStep cfg map s (.moveConstruct source)).ledger := by
  dsimp only [tokenStep,effect,disposed]
  cases hsource : s.tokens[source]? with
  | none => exact turnover_idle rfl rfl rfl
  | some other =>
    refine turnover_dispose ?_ rfl rfl
    have hset := filterMap_set_perm hsource {}
    have hmoved : (s.tokens.filterMap live?).Perm
        ([]++(s.tokens.set source (moveConstruct other).2++[(moveConstruct other).1]).filterMap
          live?) := by
      have hone : [(moveConstruct other).1].filterMap live?=(live? other).toList :=
        (filterMap_live_cons _ []).trans (List.append_nil _)
      rw [List.nil_append,List.filterMap_append,hone]
      exact hset.symm.trans List.perm_append_comm
    exact held_perm s.detectHeld s.further hmoved

/-- Assigning over a token gives up what it owned. -/
theorem turnover_moveAssign (env : Surroundings) (target source : ℕ) :
    Turnover (disposed map s (.moveAssign env target source)) [] s.ledger
      (tokenStep cfg map s (.moveAssign env target source)).ledger := by
  dsimp only [tokenStep,effect,disposed]
  cases htarget : s.tokens[target]? with
  | none => exact turnover_idle rfl rfl rfl
  | some token =>
    cases hsource : s.tokens[source]? with
    | none => exact turnover_idle rfl rfl rfl
    | some other =>
      dsimp only
      by_cases hsame : target=source
      · rw [if_pos hsame,if_pos hsame]
        exact turnover_idle rfl rfl rfl
      rw [if_neg hsame,if_neg hsame]
      obtain ⟨hrelease,hseq⟩ := registry_release cfg env token s.ctx.tracker
      refine turnover_dispose ?_ hrelease hseq
      have hother : (s.tokens.set target (⟨other.id,other.owner⟩ : SpeedLimitToken))[source]?=
          some other := by
        rw [List.getElem?_set_ne hsame]
        exact hsource
      -- the target now owns what the source owned, and the source nothing
      have hfirst := filterMap_set_perm htarget ⟨other.id,other.owner⟩
      have hsecond := (filterMap_set_perm hother {}).append_left (live? token).toList
      have hboth := (List.perm_append_comm_assoc _ _ _).trans (hsecond.trans hfirst)
      have hmoved := (List.perm_append_left_iff _).mp hboth
      exact held_perm s.detectHeld s.further hmoved.symm

/-- Releasing a token gives up what it owned. -/
theorem turnover_release (env : Surroundings) (position : ℕ) :
    Turnover (disposed map s (.release env position)) [] s.ledger
      (tokenStep cfg map s (.release env position)).ledger := by
  dsimp only [tokenStep,effect,disposed]
  cases htoken : s.tokens[position]? with
  | none => exact turnover_idle rfl rfl rfl
  | some token =>
    obtain ⟨hrelease,hseq⟩ := registry_release cfg env token s.ctx.tracker
    refine turnover_dispose ?_ hrelease hseq
    exact held_perm s.detectHeld s.further (filterMap_set_perm htoken {}).symm

/-- Removing a further callback gives up its handle. -/
theorem turnover_removeFurther (env : Surroundings) (position : ℕ) :
    Turnover (disposed map s (.removeFurther env position)) [] s.ledger
      (tokenStep cfg map s (.removeFurther env position)).ledger := by
  dsimp only [tokenStep,effect,disposed]
  cases hhandle : s.further[position]? with
  | none => exact turnover_idle rfl rfl rfl
  | some id =>
    obtain ⟨hremove,hseq⟩ := registry_remove cfg env id s.ctx.tracker
    refine turnover_dispose ?_ ?_ hseq
    · obtain ⟨hlt,rfl⟩ := List.getElem?_eq_some_iff.mp hhandle
      have hperm := (List.getElem_cons_eraseIdx_perm hlt).symm
      have hrest := (hperm.append_left (s.tokens.filterMap live?)).trans List.perm_middle
      exact (hrest.append_left s.detectHeld).trans List.perm_middle
    · rw [Option.toList_some,List.diff_cons,List.diff_nil]
      exact hremove

/-- Removing a handle that was given up before does nothing. -/
theorem turnover_removeStale (h : Balanced s.ledger) (env : Surroundings) (position : ℕ) :
    Turnover [] [] s.ledger (tokenStep cfg map s (.removeStale env position)).ledger := by
  dsimp only [tokenStep,effect,disposed]
  cases hhandle : s.spent[position]? with
  | none => exact turnover_idle rfl rfl rfl
  | some id =>
    obtain ⟨hremove,hseq⟩ := registry_remove cfg env id s.ctx.tracker
    have hdead : id∉registry s.ctx.tracker := fun hin =>
      h.apart id (List.mem_of_getElem? hhandle) (h.matched.mem_iff.mp hin)
    rw [List.erase_of_not_mem hdead] at hremove
    exact turnover_idle rfl hremove hseq

/-- Commands and steps of the tracker leave the callbacks alone. -/
theorem turnover_track (op : TrackerOp) :
    Turnover [] [] s.ledger (tokenStep cfg map s (.track op)).ledger := by
  cases op with
  | sendPos path =>
    cases path with
    | nil => exact turnover_idle rfl rfl rfl
    | cons wp rest => exact turnover_idle rfl rfl rfl
  | sendVel vel yaw yawRate frame => exact turnover_idle rfl rfl rfl
  | sendZeroVel => exact turnover_idle rfl rfl rfl
  | step env dt =>
    obtain ⟨hcbs,hseq⟩ := registry_onStep cfg env dt s.ctx.tracker
    exact turnover_idle rfl (congrArg (List.map LimitCb.id) hcbs) hseq
  | limit env call => exact turnover_idle rfl rfl rfl

variable (cfg map) in
/-- Every operation turns the account of the handles over. -/
theorem turnover_step (h : Balanced s.ledger) (op : TokenOp) :
    Turnover (disposed map s op) (issued map s op) s.ledger (tokenStep cfg map s op).ledger := by
  cases op with
  | detect event =>
    cases event with
    | enable env type => exact turnover_enable _ _ env type
    | disable env => exact turnover_disable _ _ env
  | register env name =>
    obtain ⟨hadd,hseq⟩ := registry_add cfg env name s.ctx.tracker
    refine turnover_issue ?_ hadd hseq
    have hnew : ((s.tokens++[(⟨s.ctx.tracker.cbSeq,true⟩ : SpeedLimitToken)]).filterMap live?).Perm
        (s.ctx.tracker.cbSeq::s.tokens.filterMap live?) := by
      rw [List.filterMap_append]
      exact List.perm_append_comm
    exact ((hnew.append_right s.further).append_left s.detectHeld).trans List.perm_middle
  | moveConstruct source => exact turnover_moveConstruct source
  | moveAssign env target source => exact turnover_moveAssign env target source
  | release env position => exact turnover_release env position
  | addFurther env name =>
    obtain ⟨hadd,hseq⟩ := registry_add cfg env name s.ctx.tracker
    refine turnover_issue ?_ hadd hseq
    have hnew : (s.further++[s.ctx.tracker.cbSeq]).Perm (s.ctx.tracker.cbSeq::s.further) :=
      List.perm_append_comm
    have hrest := (hnew.append_left (s.tokens.filterMap live?)).trans List.perm_middle
    exact (hrest.append_left s.detectHeld).trans List.perm_middle
  | removeFurther env position => exact turnover_removeFurther env position
  | removeStale env position => exact turnover_removeStale h env position
  | track op => exact turnover_track op

/-- The handle of detection is alive while detection is enabled, and no other live
handle was registered by its handler. -/
structure DetectOwned (s : TokenState) : Prop where
  /-- Detection holds a token exactly while it is enabled. -/
  enabled : s.enabled=s.ctx.speedLimitToken.isSome
  /-- Its token owns a handle. -/
  live : ∀ token∈s.ctx.speedLimitToken,(live? token).isSome=true
  /-- It holds exactly the live handles its handler registered. -/
  own : ∀ id∈s.held,id∈s.detectIds ↔ id∈s.detectHeld
  /-- Its handles have been issued. -/
  old : ∀ id∈s.detectIds,id<s.ctx.tracker.cbSeq

/-- The next handle never falls. -/
theorem cbSeq_le {after : TokenState} {gone new : List ℕ}
    (h : Turnover gone new s.ledger after.ledger) :
    s.ctx.tracker.cbSeq≤after.ctx.tracker.cbSeq := by
  obtain ⟨_,_,_,_,_,hissued⟩ := h
  rcases hissued with ⟨_,hnext⟩|⟨_,hnext⟩
  · exact hnext.ge
  · exact (Nat.le_succ _).trans hnext.ge

/-- Operations of the other owners leave detection its handle. -/
theorem detectOwned_keep {after : TokenState} {gone new : List ℕ} (hb : Balanced s.ledger)
    (h : DetectOwned s) (hstep : Turnover gone new s.ledger after.ledger)
    (htoken : after.ctx.speedLimitToken=s.ctx.speedLimitToken)
    (hids : after.detectIds=s.detectIds) (henabled : after.enabled=s.enabled) :
    DetectOwned after := by
  have hheld : after.detectHeld=s.detectHeld := by
    dsimp only [TokenState.detectHeld]
    rw [htoken]
  refine ⟨?_,?_,fun id hid => ?_,fun id hid => ?_⟩
  · rw [henabled,htoken]
    exact h.enabled
  · rw [htoken]
    exact h.live
  · rw [hids,hheld]
    rcases hstep.held hid with hnew|hold
    · have hfresh := issued_fresh hb hstep hnew
      have hid' : id=s.ctx.tracker.cbSeq := by
        obtain ⟨_,_,_,_,_,hissued⟩ := hstep
        rcases hissued with ⟨rfl,_⟩|⟨rfl,_⟩
        · cases hnew
        · exact List.mem_singleton.mp hnew
      refine iff_of_false (fun hin => ?_) (fun hin => ?_)
      · exact absurd (h.old id hin) (by rw [hid']; exact lt_irrefl _)
      · exact hfresh (List.mem_append_left _ (List.mem_append_left _ hin))
    · exact h.own id hold
  · rw [hids] at hid
    exact (h.old id hid).trans_le (cbSeq_le hstep)

/-- A live handle of another owner was not registered by the detection handler. -/
theorem other_not_detect (hb : Balanced s.ledger) (h : DetectOwned s) {id : ℕ}
    (hid : id∈s.tokens.filterMap live?++s.further) : id∉s.detectIds := by
  intro hin
  have hdetect := (h.own id (List.mem_append_right _ hid)).mp hin
  exact (List.nodup_append'.mp hb.distinct).2.2 hdetect hid

/-- Enabling leaves detection its new handle alone. -/
theorem detectOwned_enable (hb : Balanced s.ledger) (h : DetectOwned s) (env : Surroundings)
    (type : Bytes) : DetectOwned (tokenStep cfg map s (.detect (.enable env type))) := by
  have hstep := turnover_enable cfg map (s := s) env type
  by_cases hknown : type∈map.entries.map Prod.fst
  · obtain ⟨_,hseq⟩ := registry_drop cfg env s.ctx.speedLimitToken s.ctx.tracker
    have hlater := cbSeq_le hstep
    dsimp only [tokenStep,effect,detectStep,onDetect] at hlater ⊢
    rw [if_pos hknown,onEnableDetect_known hknown] at hlater ⊢
    rw [hseq]
    refine ⟨rfl,fun token htoken => ?_,fun id hid => ?_,fun id hid => ?_⟩
    · obtain rfl := Option.some.inj htoken
      rfl
    · change id∈[s.ctx.tracker.cbSeq]++_ at hid
      rcases List.mem_append.mp hid with hnew|hother
      · obtain rfl := List.mem_singleton.mp hnew
        exact iff_of_true List.mem_cons_self (List.mem_singleton.mpr rfl)
      · have hlt : id<s.ctx.tracker.cbSeq :=
          hb.numbered id (List.mem_append_left _ (List.mem_append_right _ hother))
        refine iff_of_false (fun hin => ?_) (fun hin => ?_)
        · rcases List.mem_cons.mp hin with heq|hin
          · omega
          · exact other_not_detect hb h hother hin
        · have heq : id=s.ctx.tracker.cbSeq := List.mem_singleton.mp hin
          omega
    · have hnext : (addSpeedLimitCb cfg env "detect"
          (dropToken cfg env s.ctx.speedLimitToken s.ctx.tracker)).cbSeq=
          s.ctx.tracker.cbSeq+1 := by
        rw [(registry_add _ _ "detect" _).2,hseq]
      dsimp only
      rw [hnext]
      rcases List.mem_cons.mp hid with heq|hin
      · omega
      · have hold := h.old id hin
        omega
  · have hsame : tokenStep cfg map s (.detect (.enable env type))=s := by
      dsimp only [tokenStep,effect,disposed,detectStep,onDetect]
      rw [if_neg hknown,if_neg hknown,onEnableDetect_unknown hknown]
      rfl
    rw [hsame]
    exact h

/-- Disabling leaves detection no handle. -/
theorem detectOwned_disable (hb : Balanced s.ledger) (h : DetectOwned s) (env : Surroundings) :
    DetectOwned (tokenStep cfg map s (.detect (.disable env))) := by
  have hstep := turnover_disable cfg map (s := s) env
  refine ⟨rfl,fun _ htoken => (nomatch htoken),fun id hid => ?_,fun id hid => ?_⟩
  · exact iff_of_false (other_not_detect hb h hid) (fun hin => (nomatch hin))
  · exact (h.old id hid).trans_le (cbSeq_le hstep)

variable (cfg map) in
/-- Only detection events touch what detection holds. -/
theorem tokenStep_frame (op : TokenOp) (hop : ∀ event,op≠.detect event) :
    (tokenStep cfg map s op).ctx.speedLimitToken=s.ctx.speedLimitToken ∧
      (tokenStep cfg map s op).detectIds=s.detectIds ∧
      (tokenStep cfg map s op).enabled=s.enabled := by
  cases op with
  | detect event => exact absurd rfl (hop event)
  | register env name => exact ⟨rfl,rfl,rfl⟩
  | moveConstruct source =>
    dsimp only [tokenStep,effect]
    split <;> exact ⟨rfl,rfl,rfl⟩
  | moveAssign env target source =>
    dsimp only [tokenStep,effect]
    split
    · split_ifs <;> exact ⟨rfl,rfl,rfl⟩
    · exact ⟨rfl,rfl,rfl⟩
  | release env position =>
    dsimp only [tokenStep,effect]
    split <;> exact ⟨rfl,rfl,rfl⟩
  | addFurther env name => exact ⟨rfl,rfl,rfl⟩
  | removeFurther env position =>
    dsimp only [tokenStep,effect]
    split <;> exact ⟨rfl,rfl,rfl⟩
  | removeStale env position =>
    dsimp only [tokenStep,effect]
    split <;> exact ⟨rfl,rfl,rfl⟩
  | track op => cases op <;> exact ⟨rfl,rfl,rfl⟩

/-- Every operation keeps the handle of detection. -/
theorem detectOwned_step (hb : Balanced s.ledger) (h : DetectOwned s) (op : TokenOp) :
    DetectOwned (tokenStep cfg map s op) := by
  by_cases hop : ∃ event,op=.detect event
  · obtain ⟨event,rfl⟩ := hop
    cases event with
    | enable env type => exact detectOwned_enable hb h env type
    | disable env => exact detectOwned_disable hb h env
  · obtain ⟨htoken,hids,henabled⟩ :=
      tokenStep_frame cfg map (s := s) op (fun event he => hop ⟨event,he⟩)
    exact detectOwned_keep hb h (turnover_step _ _ hb op) htoken hids henabled

/-- The callbacks registered by detection: one while it is enabled, otherwise none. -/
theorem detect_count (hb : Balanced s.ledger) (h : DetectOwned s) :
    (s.ctx.tracker.speedLimitCbs.filter fun c => decide (c.id∈s.detectIds)).length=
      if s.enabled=true then 1 else 0 := by
  have hmap : (s.ctx.tracker.speedLimitCbs.filter fun c => decide (c.id∈s.detectIds)).length=
      (registry s.ctx.tracker).countP fun id => decide (id∈s.detectIds) := by
    rw [←List.countP_eq_length_filter,registry,List.countP_map]
    rfl
  have hheld : (registry s.ctx.tracker).countP (fun id => decide (id∈s.detectIds))=
      s.held.countP fun id => decide (id∈s.detectIds) := hb.matched.countP_eq _
  have hown : s.held.countP (fun id => decide (id∈s.detectIds))=
      s.held.countP fun id => decide (id∈s.detectHeld) := by
    refine List.countP_congr fun id hid => ?_
    rw [decide_eq_true_iff,decide_eq_true_iff]
    exact h.own id hid
  rw [hmap,hheld,hown,h.enabled]
  cases htoken : s.ctx.speedLimitToken with
  | none =>
    have hnone : s.detectHeld=[] := by
      dsimp only [TokenState.detectHeld]
      rw [htoken]
      rfl
    rw [hnone,if_neg (by simp)]
    exact List.countP_eq_zero.mpr fun id _ => by simp
  | some token =>
    obtain ⟨own,hlive⟩ := Option.isSome_iff_exists.mp (h.live token htoken)
    have hone : s.detectHeld=[own] := by
      dsimp only [TokenState.detectHeld]
      rw [htoken,Option.bind_some,hlive]
      rfl
    have hin : own∈s.held := by
      refine List.mem_append_left _ ?_
      rw [hone]
      exact List.mem_singleton.mpr rfl
    have hcount : s.held.countP (fun id => decide (id∈s.detectHeld))=s.held.count own := by
      refine List.countP_congr fun id _ => ?_
      rw [hone,decide_eq_true_iff,List.mem_singleton,beq_iff_eq]
    rw [if_pos (by simp),hcount]
    exact List.count_eq_one_of_mem hb.distinct hin

end

/-- The limits in force: the waypoint's own, the configured cap and the present
values of the callbacks with the given handles. -/
def limitSources (cfg : TrackerConfig) (env : Surroundings) (own : Option ℝ) (ids : List ℕ) :
    Set ℝ :=
  { v | v=own.getD cfg.maxVelXy ∨ v=cfg.maxVelXy ∨ ∃ id∈ids,env.cbValue id=some v }

section

variable {cfg : TrackerConfig} {env : Surroundings}

variable (env) in
/-- The fold over the callbacks finds the least of the start and their values. -/
theorem foldl_isLeast (cbs : List LimitCb) (start : ℝ) :
    IsLeast { v | v=start ∨ ∃ c∈cbs,env.cbValue c.id=some v }
      (cbs.foldl (fun eff c => match env.cbValue c.id with
        | some lim => if lim<eff then lim else eff
        | .none => eff) start) := by
  induction cbs generalizing start with
  | nil => exact ⟨Or.inl rfl,fun v hv => (hv.resolve_right (by simp)).ge⟩
  | cons c rest ih =>
    rw [List.foldl_cons]
    cases hvalue : env.cbValue c.id with
    | none =>
      obtain ⟨hin,hleast⟩ := ih start
      refine ⟨?_,fun v hv => hleast ?_⟩
      · rcases hin with heq|⟨c',hc',hv'⟩
        · exact Or.inl heq
        · exact Or.inr ⟨c',List.mem_cons_of_mem _ hc',hv'⟩
      · rcases hv with heq|⟨c',hc',hv'⟩
        · exact Or.inl heq
        · rcases List.mem_cons.mp hc' with rfl|hc'
          · rw [hvalue] at hv'
            cases hv'
          · exact Or.inr ⟨c',hc',hv'⟩
    | some lim =>
      obtain ⟨hin,hleast⟩ := ih (if lim<start then lim else start)
      have hnew : (if lim<start then lim else start)=min lim start := by
        rcases lt_or_ge lim start with hlt|hge
        · rw [if_pos hlt,min_eq_left hlt.le]
        · rw [if_neg (not_lt.mpr hge),min_eq_right hge]
      dsimp only
      rw [hnew] at hin hleast ⊢
      have hbound := hleast (Or.inl rfl)
      refine ⟨?_,fun v hv => ?_⟩
      · rcases hin with heq|⟨c',hc',hv'⟩
        · rcases min_choice lim start with hmin|hmin
          · exact Or.inr ⟨c,List.mem_cons_self,by rw [hvalue,heq,hmin]⟩
          · exact Or.inl (heq.trans hmin)
        · exact Or.inr ⟨c',List.mem_cons_of_mem _ hc',hv'⟩
      · rcases hv with rfl|⟨c',hc',hv'⟩
        · exact hbound.trans (min_le_right _ _)
        · rcases List.mem_cons.mp hc' with rfl|hc'
          · rw [hvalue] at hv'
            obtain rfl := Option.some.inj hv'
            exact hbound.trans (min_le_left _ _)
          · exact hleast (Or.inr ⟨c',hc',hv'⟩)

/-- The effective limit is the least of the limits in force. -/
theorem effectiveLimit_isLeast {cbs : List LimitCb} {ids : List ℕ}
    (hids : ∀ id,id∈cbs.map LimitCb.id ↔ id∈ids) (own : Option ℝ) :
    IsLeast (limitSources cfg env own ids) (effectiveLimit cfg env cbs own) := by
  obtain ⟨hin,hleast⟩ := foldl_isLeast env cbs (min (own.getD cfg.maxVelXy) cfg.maxVelXy)
  constructor
  · rcases hin with heq|⟨c,hc,hv⟩
    · rcases min_choice (own.getD cfg.maxVelXy) cfg.maxVelXy with hmin|hmin
      · exact Or.inl (heq.trans hmin)
      · exact Or.inr (Or.inl (heq.trans hmin))
    · exact Or.inr (Or.inr ⟨c.id,(hids c.id).mp (List.mem_map.mpr ⟨c,hc,rfl⟩),hv⟩)
  · rintro v (rfl|rfl|⟨id,hid,hv⟩)
    · exact (hleast (Or.inl rfl)).trans (min_le_left _ _)
    · exact (hleast (Or.inl rfl)).trans (min_le_right _ _)
    · obtain ⟨c,hc,rfl⟩ := List.mem_map.mp ((hids id).mpr hid)
      exact hleast (Or.inr ⟨c,hc,hv⟩)

/-- Activating a waypoint puts the effective limit in force. -/
theorem activated_limit {cbs : List LimitCb} {g : Guidance} {wp : TrackerWaypoint}
    (h : g.currentWp?=some wp) :
    (applyCurrentWaypoint cfg env cbs g).fbVelLimitXy=
      effectiveLimit cfg env cbs wp.fbSpeedLimitXy := by
  dsimp only [applyCurrentWaypoint]
  rw [h]

/-- A change of the callbacks re-activated the current waypoint with those left. -/
def Refreshed (cfg : TrackerConfig) (env : Surroundings) (before after : TrackerState) : Prop :=
  after.speedLimitCbs=before.speedLimitCbs ∨
    ∃ g,after.guide=applyCurrentWaypoint cfg env after.speedLimitCbs g

/-- Registering re-activates the current waypoint. -/
theorem refreshed_add (name : String) (before s : TrackerState) :
    Refreshed cfg env before (addSpeedLimitCb cfg env name s) :=
  Or.inr ⟨s.guide,rfl⟩

/-- Removing re-activates the current waypoint, unless there is nothing to remove. -/
theorem refreshed_remove (id : ℕ) (s : TrackerState) :
    Refreshed cfg env s (removeSpeedLimitCb cfg env id s) := by
  dsimp only [removeSpeedLimitCb]
  split_ifs
  · exact Or.inr ⟨s.guide,rfl⟩
  · exact Or.inl rfl

/-- So does releasing a token. -/
theorem refreshed_release (token : SpeedLimitToken) (s : TrackerState) :
    Refreshed cfg env s (token.release cfg env s).2 := by
  dsimp only [SpeedLimitToken.release]
  split_ifs
  · exact refreshed_remove _ s
  · exact Or.inl rfl

variable (cfg) in
/-- Every operation that changes the callbacks re-activates the current waypoint. -/
theorem refreshed_step (map : DetectMap) (s : TokenState) {op : TokenOp}
    (henv : op.env?=some env) :
    Refreshed cfg env s.ctx.tracker (tokenStep cfg map s op).ctx.tracker := by
  cases op with
  | detect event =>
    cases event with
    | enable env' type =>
      obtain rfl := Option.some.inj henv
      dsimp only [tokenStep,effect,detectStep,onDetect]
      by_cases hknown : type∈map.entries.map Prod.fst
      · rw [if_pos hknown,onEnableDetect_known hknown]
        exact refreshed_add _ _ _
      · rw [if_neg hknown,onEnableDetect_unknown hknown]
        exact Or.inl rfl
    | disable env' =>
      obtain rfl := Option.some.inj henv
      dsimp only [tokenStep,effect,detectStep,onDetect,onDisableDetect]
      cases s.ctx.speedLimitToken with
      | none => exact Or.inl rfl
      | some token => exact refreshed_release token _
  | register env' name =>
    obtain rfl := Option.some.inj henv
    exact refreshed_add _ _ _
  | moveConstruct source => cases henv
  | moveAssign env' target source =>
    obtain rfl := Option.some.inj henv
    dsimp only [tokenStep,effect]
    split
    · split_ifs
      · exact Or.inl rfl
      · exact refreshed_release _ _
    · exact Or.inl rfl
  | release env' position =>
    obtain rfl := Option.some.inj henv
    dsimp only [tokenStep,effect]
    split
    · exact refreshed_release _ _
    · exact Or.inl rfl
  | addFurther env' name =>
    obtain rfl := Option.some.inj henv
    exact refreshed_add _ _ _
  | removeFurther env' position =>
    obtain rfl := Option.some.inj henv
    dsimp only [tokenStep,effect]
    split
    · exact refreshed_remove _ _
    · exact Or.inl rfl
  | removeStale env' position =>
    obtain rfl := Option.some.inj henv
    dsimp only [tokenStep,effect]
    split
    · exact refreshed_remove _ _
    · exact Or.inl rfl
  | track op => cases henv

end

/-- Tokens and callbacks of a state fit together. -/
structure TokensSound (cfg : TrackerConfig) (s : TokenState) : Prop where
  /-- Detection has one callback while it is enabled, otherwise none. -/
  detection : (s.ctx.tracker.speedLimitCbs.filter fun c => decide (c.id∈s.detectIds)).length=
    if s.enabled=true then 1 else 0
  /-- Live handles are pairwise distinct. -/
  distinct : (registry s.ctx.tracker).Nodup
  /-- Every callback has one owner, and every owner still has its callback. -/
  owners : (registry s.ctx.tracker).Perm s.held
  /-- Whenever a waypoint is activated, the limit is the least of the waypoint's own, the
  cap and the values of exactly the callbacks that somebody owns. -/
  limit : ∀ env g wp,g.currentWp?=some wp →
    IsLeast (limitSources cfg env wp.fbSpeedLimitXy s.held)
      (applyCurrentWaypoint cfg env s.ctx.tracker.speedLimitCbs g).fbVelLimitXy

/-- An operation takes from the tracker what its own owner gives up and nothing
else, and a changed set of callbacks takes effect at once. -/
structure StepSound (cfg : TrackerConfig) (map : DetectMap) (s : TokenState) (op : TokenOp) :
    Prop where
  /-- The callbacks of all other owners stay. -/
  kept : ∀ id∈s.held,id∉disposed map s op → id∈registry (tokenStep cfg map s op).ctx.tracker
  /-- What is given up is removed. -/
  gone : ∀ id∈disposed map s op,id∉registry (tokenStep cfg map s op).ctx.tracker
  /-- The limit in force is that of the callbacks that remain. -/
  refreshed : ∀ env,op.env?=some env →
    registry (tokenStep cfg map s op).ctx.tracker≠registry s.ctx.tracker →
    ∀ wp,(tokenStep cfg map s op).ctx.tracker.guide.currentWp?=some wp →
    IsLeast (limitSources cfg env wp.fbSpeedLimitXy (tokenStep cfg map s op).held)
      (tokenStep cfg map s op).ctx.tracker.guide.fbVelLimitXy

/-- The program when it starts: nothing registered, detection off. -/
noncomputable def started (t₀ : ℝ) : TokenState := { ctx := { tracker := fresh t₀ } }

section

variable {cfg : TrackerConfig} {map : DetectMap} {s : TokenState}

variable (cfg map) in
/-- Over every run the handles balance and detection keeps its own. -/
theorem run_balanced (t₀ : ℝ) (ops : List TokenOp) :
    Balanced (runFrom (tokenStep cfg map) (started t₀) ops).ledger ∧
      DetectOwned (runFrom (tokenStep cfg map) (started t₀) ops) := by
  refine run_invariant (P := fun s : TokenState => Balanced s.ledger ∧ DetectOwned s)
    (fun s op h => ?_) ops ⟨?_,?_⟩
  · exact ⟨h.1.turnover (turnover_step _ _ h.1 op),detectOwned_step h.1 h.2 op⟩
  · exact ⟨List.Perm.refl _,List.nodup_nil,fun _ h => (nomatch h),fun _ h => (nomatch h)⟩
  · exact ⟨rfl,fun _ h => (nomatch h),fun _ h => (nomatch h),fun _ h => (nomatch h)⟩

/-- Balanced handles fit together. -/
theorem tokensSound_of_balanced (hb : Balanced s.ledger) (h : DetectOwned s) :
    TokensSound cfg s where
  detection := detect_count hb h
  distinct := hb.matched.nodup_iff.mpr hb.distinct
  owners := hb.matched
  limit env g wp hwp := by
    rw [activated_limit hwp]
    exact effectiveLimit_isLeast (fun id => hb.matched.mem_iff) _

/-- Operations on balanced handles are sound. -/
theorem stepSound_of_balanced (hb : Balanced s.ledger) (op : TokenOp) :
    StepSound cfg map s op := by
  have hstep := turnover_step cfg map hb op
  have hafter := hb.turnover hstep
  refine ⟨fun id hid hkeep => hstep.kept hb hid hkeep,fun id hid => hstep.gone hb hid,
    fun env henv hchanged wp hwp => ?_⟩
  rcases refreshed_step cfg map s henv with hsame|⟨g,hg⟩
  · exact absurd (congrArg (List.map LimitCb.id) hsame) hchanged
  · rw [hg,applyCurrentWaypoint_currentWp] at hwp
    rw [hg,activated_limit hwp]
    exact effectiveLimit_isLeast (fun id => hafter.matched.mem_iff) _

end

/-- Tokens do not leak and limits compose to their minimum, in every run. -/
theorem tokens_sound (cfg : TrackerConfig) (map : DetectMap) (t₀ : ℝ) (ops : List TokenOp) :
    TokensSound cfg (runFrom (tokenStep cfg map) (started t₀) ops) ∧
      ∀ op,StepSound cfg map (runFrom (tokenStep cfg map) (started t₀) ops) op := by
  obtain ⟨hb,h⟩ := run_balanced cfg map t₀ ops
  exact ⟨tokensSound_of_balanced hb h,fun op => stepSound_of_balanced hb op⟩

end Dankong.SpeedLimitTokens

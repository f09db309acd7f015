import Mathlib.Data.List.Nodup
import Mathlib.Data.List.Infix
import Mathlib.Logic.Function.Basic
import Dankong.Runs

/-!
# Recording in a process of its own

`BagRecorder` starts a recorder as a child process, ends it with a signal to its process
group, and leaves the waiting to a thread of its own. The system gives the number of a
process to another one only after it has been waited for, so the signal reaches nobody
else. A recorder that ends by itself is still counted as recording until it is stopped.
-/

namespace Dankong.Recording

open Runs

/-- A recorder that was started. -/
structure Job where
  /-- Which one it is. -/
  serial : ℕ
  /-- The path of its file without the extension. -/
  base : String

/-- A process of the system: a recorder started here or somebody else's process. -/
structure Proc where
  /-- The recorder. -/
  job : Option Job
  /-- It has ended, and waits to be waited for. -/
  exited : Bool := false

/-- `StartRecordEvent` with the configuration it is handled under. -/
structure RecordRequest where
  /-- `bag_name`. -/
  bagName : String
  /-- `record_path`, made absolute. -/
  dirPath : String
  /-- `record_topics`. -/
  topics : List String
  /-- `record_compression`. -/
  compression : String
  /-- `record_split_mb`. -/
  splitMb : ℤ
  /-- `rosbag_record_bin` or what was found in its place, if anything. -/
  bin : Option String
  /-- `timestamp`. -/
  stamp : String

/-- What the system makes of a start. -/
inductive SpawnOutcome
  /-- The directory cannot be created. -/
  | noDirectory (message : String)
  /-- `posix_spawn` fails. -/
  | notStarted (message : String)
  /-- The process has ended within 200 ms. -/
  | diesAtOnce (status : ℤ)
  /-- The process lives. -/
  | lives (pid : ℕ)

/-- `base`. -/
def RecordRequest.base (r : RecordRequest) : String :=
  r.dirPath++"/"++(if r.bagName="" then "record" else r.bagName)++"_"++r.stamp

/-- The command line of the recorder. -/
def RecordRequest.args (r : RecordRequest) : List String :=
  (match r.bin with
    | none => ["rosrun","rosbag","record","-O",r.base]
    | some bin => [bin,"-O",r.base])++
  (if r.compression="lz4" then ["--lz4"] else if r.compression="bz2" then ["--bz2"] else [])++
  (if 0<r.splitMb then ["--split","--size",toString r.splitMb] else [])++r.topics

/-- The recorder, the listener's flag, the threads that wait, and the processes. -/
structure Recorder where
  /-- `rec_pid_`. -/
  recPid : Option ℕ := none
  /-- `bag_path_`. -/
  bagPath : String := ""
  /-- `recording`. -/
  recording : Bool := false
  /-- The threads that wait for a process, with the path they log. -/
  reapers : List (ℕ×String) := []
  /-- The processes of the system by number. -/
  table : ℕ → Option Proc := fun _ => none
  /-- The command lines of the recorders started, first one first. -/
  commands : List (List String) := []
  /-- The signals sent, latest first, with what they met. -/
  signals : List (ℕ×Option Proc) := []
  /-- The paths logged as saved, latest first, with the process that was waited for. -/
  saved : List (String×Option Proc) := []
  /-- The answers to requests, latest first. -/
  answers : List (Except String String) := []

/-- What can happen. -/
inductive Input
  /-- `StartRecordEvent`. -/
  | start (r : RecordRequest) (outcome : SpawnOutcome)
  /-- `StopRecordEvent`. -/
  | stop
  /-- A process ends, by itself or because of the signal. -/
  | exits (pid : ℕ)
  /-- The thread that waits for a process gets on. -/
  | reaps (pid : ℕ) (path : String)
  /-- Somebody else starts a process. -/
  | otherStarts (pid : ℕ)
  /-- Somebody else waits for a process. -/
  | otherReaps (pid : ℕ)

namespace Recorder

/-- Answer a request. -/
def answer (result : Except String String) (s : Recorder) : Recorder :=
  { s with answers := result::s.answers }

/-- `BagRecorder::start` with its listener. -/
def start (r : RecordRequest) (outcome : SpawnOutcome) (s : Recorder) : Recorder :=
  if s.recPid.isSome=true then s.answer (.error "已在录制中!")
  else if r.topics=[] then s.answer (.error "record_topics 未配置, 无法开始录制!")
  else match outcome with
    | .noDirectory message =>
      s.answer (.error ("创建录制目录 "++r.dirPath++" 失败: "++message))
    | .notStarted message => s.answer (.error ("启动 rosbag record 失败: "++message))
    | .diesAtOnce status => s.answer (.error ("rosbag record 启动即退出 (status="++
        toString status++"), 请检查话题列表与磁盘空间"))
    | .lives pid =>
      -- the system gives a new process a number that is free
      if (s.table pid).isSome=true then s
      else answer (.ok (r.base++".bag")) { s with
        recPid := some pid
        bagPath := r.base++".bag"
        recording := true
        table := Function.update s.table pid (some ⟨some ⟨s.commands.length,r.base⟩,false⟩)
        commands := s.commands++[r.args] }

/-- `BagRecorder::stop` with its listener. -/
def stop (s : Recorder) : Recorder :=
  match s.recPid with
  | none => s.answer (.error "当前没有在录制!")
  | some pid => answer (.ok "OK") { s with
      recPid := none
      recording := false
      signals := (pid,s.table pid)::s.signals
      reapers := (pid,s.bagPath)::s.reapers }

/-- The end of a process. -/
def exits (pid : ℕ) (s : Recorder) : Recorder :=
  match s.table pid with
  | none => s
  | some p => { s with table := Function.update s.table pid (some { p with exited := true }) }

/-- A waiting thread: `waitpid` returns once the process has ended, and at once if the
number is not that of a child. -/
def reaps (pid : ℕ) (path : String) (s : Recorder) : Recorder :=
  if (pid,path)∈s.reapers then
    match s.table pid with
    | some ⟨some job,true⟩ => { s with
        table := Function.update s.table pid none
        reapers := s.reapers.erase (pid,path)
        saved := (path,some ⟨some job,true⟩)::s.saved }
    | some ⟨some _,false⟩ => s
    | other => { s with
        reapers := s.reapers.erase (pid,path)
        saved := (path,other)::s.saved }
  else s

/-- Effect of one input. -/
def step (s : Recorder) : Input → Recorder
  | .start r outcome => s.start r outcome
  | .stop => s.stop
  | .exits pid => s.exits pid
  | .reaps pid path => s.reaps pid path
  | .otherStarts pid =>
    if (s.table pid).isSome=true then s
    else { s with table := Function.update s.table pid (some ⟨none,false⟩) }
  | .otherReaps pid =>
    match s.table pid with
    | some ⟨none,true⟩ => { s with table := Function.update s.table pid none }
    | _ => s

/-- A recorder that is still in the table. -/
def Holds (s : Recorder) (pid : ℕ) (job : Job) : Prop := ∃ exited,s.table pid=some ⟨some job,exited⟩

/-- The recorder that a process is. -/
def serial? (p : Option Proc) : Option ℕ := (p.bind Proc.job).map Job.serial

/-- The recorders that signals have met. -/
def met (signals : List (ℕ×Option Proc)) : List ℕ := signals.filterMap fun signal => serial? signal.2

/-- The recorders that were sent a signal, latest first. -/
def signalled (s : Recorder) : List ℕ := met s.signals

/-- The recorders that threads wait for. -/
def waited (s : Recorder) : List ℕ := s.reapers.filterMap fun w => serial? (s.table w.1)

/-- The recorders whose files were logged as saved. -/
def logged (s : Recorder) : List ℕ := s.saved.filterMap fun entry => serial? entry.2

/-- Run invariant of the recorder. -/
structure Kept (s : Recorder) : Prop where
  /-- The flag shows whether a recorder was started and not stopped. -/
  truthful : s.recording=s.recPid.isSome
  /-- It is in the table, was not sent a signal, and writes the file reported. -/
  current : ∀ pid,s.recPid=some pid →
    ∃ job,s.Holds pid job ∧ job.serial∉s.signalled ∧ s.bagPath=job.base++".bag"
  /-- A thread waits for a recorder that was sent a signal, and logs its file. -/
  waiting : ∀ pid path,(pid,path)∈s.reapers →
    ∃ job,s.Holds pid job ∧ job.serial∈s.signalled ∧ path=job.base++".bag"
  /-- One thread for each. -/
  apart : (s.reapers.map Prod.fst).Nodup
  /-- Every recorder in the table is the current one or waited for. -/
  complete : ∀ pid job,s.Holds pid job → s.recPid=some pid ∨ pid∈s.reapers.map Prod.fst
  /-- Recorders are told apart by their numbers. -/
  serials : ∀ pid job,s.Holds pid job → job.serial<s.commands.length ∧
    ∀ pid' job',s.Holds pid' job' → job'.serial=job.serial → pid'=pid
  /-- A recorder was started with the path of its file. -/
  started : ∀ pid job,s.Holds pid job →
    ∃ r : RecordRequest,s.commands[job.serial]?=some r.args ∧ job.base=r.base
  /-- Every signal has met a recorder. -/
  signals : ∀ signal∈s.signals,(signal.2.bind Proc.job).isSome=true
  /-- And each recorder at most once. -/
  once : s.signalled.Nodup
  /-- Signals go to recorders that were started. -/
  past : ∀ n∈s.signalled,n<s.commands.length
  /-- What was logged as saved was the file of the recorder waited for, which it was started
  with. -/
  saved : ∀ entry∈s.saved,∃ (job : Job) (r : RecordRequest),entry.2=some ⟨some job,true⟩ ∧
    s.commands[job.serial]?=some r.args ∧ entry.1=r.base++".bag"
  /-- Every recorder that was started was stopped or is the current one. -/
  stopped : ∀ n<s.commands.length,
    n∈s.signalled ∨ ∃ pid job,s.recPid=some pid ∧ s.Holds pid job ∧ job.serial=n
  /-- Every recorder that was sent a signal is waited for or was logged, and only once. -/
  settled : s.signalled.Perm (s.waited++s.logged)

theorem kept_initial : Kept {} where
  truthful := rfl
  current := fun pid h => by cases h
  waiting := fun pid path h => by cases h
  apart := List.nodup_nil
  complete := fun pid job ⟨_,h⟩ => by cases h
  serials := fun pid job ⟨_,h⟩ => by cases h
  started := fun pid job ⟨_,h⟩ => by cases h
  signals := fun signal h => by cases h
  once := List.nodup_nil
  past := fun n h => by cases h
  saved := fun entry h => by cases h
  stopped := fun n h => absurd h (Nat.not_lt_zero n)
  settled := List.Perm.nil

variable {s : Recorder}

theorem kept_answer (h : s.Kept) (result : Except String String) : (s.answer result).Kept :=
  ⟨h.truthful,h.current,h.waiting,h.apart,h.complete,h.serials,h.started,h.signals,h.once,h.past,
    h.saved,h.stopped,h.settled⟩

/-- A number holds a recorder exactly if its process is one. -/
theorem holds_iff {pid : ℕ} {job : Job} : s.Holds pid job ↔ (s.table pid).bind Proc.job=some job := by
  unfold Holds
  match s.table pid with
  | none => exact iff_of_false (fun ⟨_,h⟩ => by cases h) (fun h => by cases h)
  | some ⟨job',exited⟩ =>
    constructor
    · rintro ⟨_,h⟩
      cases h
      rfl
    · intro h
      obtain rfl : job'=some job := h
      exact ⟨exited,rfl⟩

/-- What threads wait for under numbers that hold the same recorders. -/
theorem waited_of_holds {t : Recorder} {reapers : List (ℕ×String)}
    (h : ∀ w∈reapers,∀ job,t.Holds w.1 job ↔ s.Holds w.1 job) :
    reapers.filterMap (fun w => serial? (t.table w.1))=
      reapers.filterMap fun w => serial? (s.table w.1) := by
  refine List.filterMap_congr fun w hw => congrArg (Option.map Job.serial) ?_
  refine Option.ext fun job => ?_
  exact holds_iff.symm.trans ((h w hw job).trans holds_iff)

/-- Changes of the table that concern no recorder. -/
theorem kept_table (h : s.Kept) {table : ℕ → Option Proc}
    (htable : ∀ pid job,Holds { s with table := table } pid job ↔ s.Holds pid job) :
    Kept { s with table := table } where
  truthful := h.truthful
  current := fun pid hpid => by
    obtain ⟨job,hjob,hrest⟩ := h.current pid hpid
    exact ⟨job,(htable pid job).mpr hjob,hrest⟩
  waiting := fun pid path hmem => by
    obtain ⟨job,hjob,hrest⟩ := h.waiting pid path hmem
    exact ⟨job,(htable pid job).mpr hjob,hrest⟩
  apart := h.apart
  complete := fun pid job hjob => h.complete pid job ((htable pid job).mp hjob)
  serials := fun pid job hjob => by
    obtain ⟨hlt,hunique⟩ := h.serials pid job ((htable pid job).mp hjob)
    exact ⟨hlt,fun pid' job' hjob' => hunique pid' job' ((htable pid' job').mp hjob')⟩
  started := fun pid job hjob => h.started pid job ((htable pid job).mp hjob)
  signals := h.signals
  once := h.once
  past := h.past
  saved := h.saved
  stopped := fun n hn => (h.stopped n hn).imp_right fun ⟨pid,job,hpid,hjob,hserial⟩ =>
    ⟨pid,job,hpid,(htable pid job).mpr hjob,hserial⟩
  settled := by
    have hwaited : waited { s with table := table }=s.waited :=
      waited_of_holds fun w _ job => htable w.1 job
    change s.signalled.Perm (waited { s with table := table }++s.logged)
    rw [hwaited]
    exact h.settled

/-- A number holds at most one recorder. -/
theorem holds_unique {pid : ℕ} {job job' : Job} (h : s.Holds pid job) (h' : s.Holds pid job') :
    job=job' := by
  obtain ⟨_,h⟩ := h
  obtain ⟨_,h'⟩ := h'
  cases h.symm.trans h'
  rfl

/-- Writing what is no recorder over what is none concerns no recorder. -/
theorem holds_update_other {pid : ℕ} {before after : Option Proc} (hbefore : s.table pid=before)
    (hsame : ∀ job,(∃ exited,after=some ⟨some job,exited⟩) ↔ ∃ exited,before=some ⟨some job,exited⟩)
    (q : ℕ) (job : Job) :
    Holds { s with table := Function.update s.table pid after } q job ↔ s.Holds q job := by
  unfold Holds
  dsimp only
  by_cases hq : q=pid
  · subst hq
    rw [Function.update_self,hbefore]
    exact hsame job
  · rw [Function.update_of_ne hq]

/-- A new recorder under a free number. -/
theorem holds_spawn {pid : ℕ} (hfree : s.table pid=none) (job : Job) (q : ℕ) (job' : Job) :
    Holds { s with table := Function.update s.table pid (some ⟨some job,false⟩) } q job' ↔
      q=pid ∧ job'=job ∨ s.Holds q job' := by
  unfold Holds
  dsimp only
  by_cases hq : q=pid
  · subst hq
    rw [Function.update_self,hfree]
    constructor
    · rintro ⟨_,heq⟩
      cases heq
      exact Or.inl ⟨rfl,rfl⟩
    · rintro (⟨_,rfl⟩|⟨_,heq⟩)
      · exact ⟨false,rfl⟩
      · cases heq
  · rw [Function.update_of_ne hq]
    exact (or_iff_right fun h => hq h.1).symm

/-- A new recorder under a free number is waited for by nobody. -/
theorem waited_spawn (h : s.Kept) {pid : ℕ} (hfree : s.table pid=none) (job : Job) :
    waited { s with table := Function.update s.table pid (some ⟨some job,false⟩) }=s.waited := by
  refine waited_of_holds fun w hw job' => ?_
  obtain ⟨old,⟨_,hold⟩,_⟩ := h.waiting w.1 w.2 hw
  refine (holds_spawn hfree job w.1 job').trans (or_iff_right fun hnew => ?_)
  rw [hnew.1,hfree] at hold
  cases hold

/-- It is the youngest recorder, and no two recorders are of one age. -/
theorem serials_spawn (h : s.Kept) {pid : ℕ} (hfree : s.table pid=none) (path : String) {q : ℕ}
    {job : Job} (hjob : Holds { s with
      table := Function.update s.table pid (some ⟨some ⟨s.commands.length,path⟩,false⟩) } q job) :
    job.serial<s.commands.length+1 ∧ ∀ q' job',Holds { s with
        table := Function.update s.table pid (some ⟨some ⟨s.commands.length,path⟩,false⟩) } q' job' →
      job'.serial=job.serial → q'=q := by
  have hholds := holds_spawn hfree ⟨s.commands.length,path⟩
  rcases (hholds q job).mp hjob with ⟨rfl,rfl⟩|hold
  · refine ⟨Nat.lt_succ_self _,fun q' job' hjob' hserial => ?_⟩
    rcases (hholds q' job').mp hjob' with ⟨rfl,_⟩|hold'
    · rfl
    · exact absurd (h.serials q' job' hold').1 (Nat.not_lt.mpr hserial.ge)
  · obtain ⟨hlt,hunique⟩ := h.serials q job hold
    refine ⟨Nat.lt_succ_of_lt hlt,fun q' job' hjob' hserial => ?_⟩
    rcases (hholds q' job').mp hjob' with ⟨rfl,rfl⟩|hold'
    · exact absurd hlt (Nat.not_lt.mpr hserial.le)
    · exact hunique q' job' hold' hserial

/-- A number that is free again. -/
theorem holds_clear (pid q : ℕ) (job : Job) :
    Holds { s with table := Function.update s.table pid none } q job ↔ q≠pid ∧ s.Holds q job := by
  unfold Holds
  dsimp only
  by_cases hq : q=pid
  · subst hq
    rw [Function.update_self]
    constructor
    · rintro ⟨_,heq⟩
      cases heq
    · exact fun h => absurd rfl h.1
  · rw [Function.update_of_ne hq]
    exact (and_iff_right hq).symm

theorem kept_exits (h : s.Kept) (pid : ℕ) : (s.exits pid).Kept := by
  unfold exits
  cases hp : s.table pid with
  | none => exact h
  | some p =>
    obtain ⟨job',exited⟩ := p
    refine kept_table h (holds_update_other hp fun job => ?_)
    constructor
    · rintro ⟨_,heq⟩
      cases heq
      exact ⟨_,rfl⟩
    · rintro ⟨_,heq⟩
      cases heq
      exact ⟨_,rfl⟩

theorem kept_otherStarts (h : s.Kept) (pid : ℕ) : (step s (.otherStarts pid)).Kept := by
  unfold step
  dsimp only
  split
  · exact h
  · rename_i hfree
    refine kept_table h (holds_update_other (Option.not_isSome_iff_eq_none.mp hfree) fun job => ?_)
    constructor
    · rintro ⟨_,heq⟩
      cases heq
    · rintro ⟨_,heq⟩
      cases heq

theorem kept_otherReaps (h : s.Kept) (pid : ℕ) : (step s (.otherReaps pid)).Kept := by
  unfold step
  dsimp only
  split
  · rename_i hp
    refine kept_table h (holds_update_other hp fun job => ?_)
    constructor
    · rintro ⟨_,heq⟩
      cases heq
    · rintro ⟨_,heq⟩
      cases heq
  · exact h

/-- A stop sends the signal to the recorder and nobody else. -/
theorem kept_stop (h : s.Kept) : s.stop.Kept := by
  unfold stop
  cases hpid : s.recPid with
  | none => exact kept_answer h _
  | some pid =>
    obtain ⟨job,hjob,hfresh,hpath⟩ := h.current pid hpid
    have hfree : pid∉s.reapers.map Prod.fst := by
      intro hmem
      obtain ⟨⟨pid',path⟩,hreaper,rfl⟩ := List.mem_map.mp hmem
      obtain ⟨job',hjob',hsent,_⟩ := h.waiting pid' path hreaper
      exact hfresh (holds_unique hjob hjob' ▸ hsent)
    obtain ⟨exited,htable⟩ := hjob
    have hmet : met ((pid,s.table pid)::s.signals)=job.serial::s.signalled := by
      rw [met,List.filterMap_cons,htable]
      rfl
    have hkept : Kept { s with
        recPid := none
        recording := false
        signals := (pid,s.table pid)::s.signals
        reapers := (pid,s.bagPath)::s.reapers } := by
      constructor
      case truthful => rfl
      case current => exact fun pid' h' => by cases h'
      case apart => exact List.nodup_cons.mpr ⟨hfree,h.apart⟩
      case serials => exact h.serials
      case started => exact h.started
      case saved => exact h.saved
      case waiting =>
        intro pid' path hmem
        change ∃ job,s.Holds pid' job ∧ job.serial∈met ((pid,s.table pid)::s.signals) ∧ _
        rw [hmet]
        rcases List.mem_cons.mp hmem with heq|hold
        · cases heq
          exact ⟨job,⟨exited,htable⟩,List.mem_cons_self,hpath⟩
        · obtain ⟨job',hjob',hsent,hpath'⟩ := h.waiting pid' path hold
          exact ⟨job',hjob',List.mem_cons_of_mem _ hsent,hpath'⟩
      case complete =>
        intro pid' job' hjob'
        refine Or.inr ?_
        rcases h.complete pid' job' hjob' with hcurrent|hwaited
        · cases hpid.symm.trans hcurrent
          exact List.mem_cons_self
        · exact List.mem_cons_of_mem _ hwaited
      case signals =>
        intro signal hmem
        rcases List.mem_cons.mp hmem with rfl|hold
        · dsimp only
          rw [htable]
          rfl
        · exact h.signals signal hold
      case once =>
        change (met ((pid,s.table pid)::s.signals)).Nodup
        rw [hmet]
        exact List.nodup_cons.mpr ⟨hfresh,h.once⟩
      case past =>
        intro n hn
        change n∈met ((pid,s.table pid)::s.signals) at hn
        rw [hmet] at hn
        rcases List.mem_cons.mp hn with rfl|hold
        · exact (h.serials pid job ⟨exited,htable⟩).1
        · exact h.past n hold
      case stopped =>
        intro n hn
        refine Or.inl ?_
        change n∈met ((pid,s.table pid)::s.signals)
        rw [hmet]
        rcases h.stopped n hn with hold|⟨pid',job',hpid',hjob',rfl⟩
        · exact List.mem_cons_of_mem _ hold
        · cases hpid.symm.trans hpid'
          rw [holds_unique hjob' ⟨exited,htable⟩]
          exact List.mem_cons_self
      case settled =>
        have hwaited : ((pid,s.bagPath)::s.reapers).filterMap (fun w => serial? (s.table w.1))=
            job.serial::s.waited := by
          rw [List.filterMap_cons,htable]
          rfl
        change (met ((pid,s.table pid)::s.signals)).Perm (_++s.logged)
        rw [hmet,waited,hwaited]
        exact h.settled.cons job.serial
    exact kept_answer hkept _

/-- A start enters the recorder under a free number. -/
theorem kept_start (h : s.Kept) (r : RecordRequest) (outcome : SpawnOutcome) :
    (s.start r outcome).Kept := by
  unfold start
  split
  · exact kept_answer h _
  rename_i hidle
  split
  · exact kept_answer h _
  cases outcome with
  | noDirectory message => exact kept_answer h _
  | notStarted message => exact kept_answer h _
  | diesAtOnce status => exact kept_answer h _
  | lives pid =>
    dsimp only
    split
    · exact h
    rename_i hfree
    have hnone : s.table pid=none := Option.not_isSome_iff_eq_none.mp hfree
    have hidle : s.recPid=none := Option.not_isSome_iff_eq_none.mp hidle
    have hkept : Kept { s with
        recPid := some pid
        bagPath := r.base++".bag"
        recording := true
        table := Function.update s.table pid (some ⟨some ⟨s.commands.length,r.base⟩,false⟩)
        commands := s.commands++[r.args] } := by
      have hholds := holds_spawn hnone ⟨s.commands.length,r.base⟩
      have hlength : (s.commands++[r.args]).length=s.commands.length+1 := by
        rw [List.length_append,List.length_singleton]
      constructor
      case truthful => rfl
      case apart => exact h.apart
      case signals => exact h.signals
      case once => exact h.once
      case current =>
        intro pid' heq
        cases heq
        refine ⟨_,(hholds pid _).mpr (Or.inl ⟨rfl,rfl⟩),fun hsent => ?_,rfl⟩
        exact absurd (h.past _ hsent) (Nat.lt_irrefl _)
      case waiting =>
        intro pid' path hmem
        obtain ⟨job,hjob,hrest⟩ := h.waiting pid' path hmem
        exact ⟨job,(hholds pid' job).mpr (Or.inr hjob),hrest⟩
      case complete =>
        intro pid' job hjob
        rcases (hholds pid' job).mp hjob with ⟨rfl,_⟩|hold
        · exact Or.inl rfl
        · exact Or.inr ((h.complete pid' job hold).resolve_left fun hsome => by
            cases hidle.symm.trans hsome)
      case serials =>
        rw [hlength]
        exact fun pid' job hjob => serials_spawn h hnone r.base hjob
      case started =>
        intro pid' job hjob
        rcases (hholds pid' job).mp hjob with ⟨_,rfl⟩|hold
        · exact ⟨r,List.getElem?_concat_length,rfl⟩
        · obtain ⟨r',hargs,hbase⟩ := h.started pid' job hold
          exact ⟨r',(List.getElem?_append_left (h.serials pid' job hold).1).trans hargs,hbase⟩
      case past =>
        intro n hn
        rw [hlength]
        exact Nat.lt_succ_of_lt (h.past n hn)
      case saved =>
        intro entry hentry
        obtain ⟨job,r',hproc,hargs,hpath⟩ := h.saved entry hentry
        obtain ⟨hlt,_⟩ := List.getElem?_eq_some_iff.mp hargs
        exact ⟨job,r',hproc,(List.getElem?_append_left hlt).trans hargs,hpath⟩
      case stopped =>
        intro n hn
        rw [hlength] at hn
        rcases Nat.lt_succ_iff_lt_or_eq.mp hn with hold|rfl
        · refine Or.inl ((h.stopped n hold).resolve_right ?_)
          rintro ⟨_,_,hsome,_⟩
          cases hidle.symm.trans hsome
        · exact Or.inr ⟨pid,_,rfl,(hholds pid _).mpr (Or.inl ⟨rfl,rfl⟩),rfl⟩
      case settled =>
        have hsettled := h.settled
        rw [←waited_spawn h hnone ⟨s.commands.length,r.base⟩] at hsettled
        exact hsettled
    exact kept_answer hkept _

/-- A thread that gets on has waited for the recorder it was started for. -/
theorem kept_reaps (h : s.Kept) (pid : ℕ) (path : String) : (s.reaps pid path).Kept := by
  unfold reaps
  split
  · rename_i hmem
    obtain ⟨job,⟨exited,htable⟩,hsent,hpath⟩ := h.waiting pid path hmem
    rw [htable]
    cases exited with
    | false => exact h
    | true =>
      dsimp only
      have hholds := holds_clear (s := s) pid
      have hone : ∀ pid' path',(pid',path')∈s.reapers → pid'=pid → path'=path := by
        intro pid' path' hmem' heq
        cases List.inj_on_of_nodup_map h.apart hmem' hmem heq
        rfl
      have herase : ∀ entry,entry∈s.reapers.erase (pid,path) ↔
          entry≠(pid,path) ∧ entry∈s.reapers := fun entry =>
        (List.Nodup.of_map Prod.fst h.apart).mem_erase_iff
      constructor
      case truthful => exact h.truthful
      case signals => exact h.signals
      case once => exact h.once
      case past => exact h.past
      case apart => exact (List.erase_sublist.map Prod.fst).nodup h.apart
      case started =>
        exact fun pid' job' hjob' => h.started pid' job' ((hholds pid' job').mp hjob').2
      case current =>
        intro pid' heq
        obtain ⟨job',hjob',hfresh,hpath'⟩ := h.current pid' heq
        refine ⟨job',(hholds pid' job').mpr ⟨?_,hjob'⟩,hfresh,hpath'⟩
        rintro rfl
        exact hfresh (holds_unique hjob' ⟨true,htable⟩ ▸ hsent)
      case waiting =>
        intro pid' path' hmem'
        obtain ⟨hne,hold⟩ := (herase _).mp hmem'
        obtain ⟨job',hjob',hrest⟩ := h.waiting pid' path' hold
        refine ⟨job',(hholds pid' job').mpr ⟨?_,hjob'⟩,hrest⟩
        rintro rfl
        exact hne (by rw [hone pid' path' hold rfl])
      case complete =>
        intro pid' job' hjob'
        obtain ⟨hne,hold⟩ := (hholds pid' job').mp hjob'
        refine (h.complete pid' job' hold).imp_right fun hwaited => ?_
        obtain ⟨entry,hentry,rfl⟩ := List.mem_map.mp hwaited
        exact List.mem_map_of_mem ((herase entry).mpr ⟨fun heq => hne (by rw [heq]),hentry⟩)
      case serials =>
        intro pid' job' hjob'
        obtain ⟨_,hold⟩ := (hholds pid' job').mp hjob'
        obtain ⟨hlt,hunique⟩ := h.serials pid' job' hold
        exact ⟨hlt,fun q other hother => hunique q other ((hholds q other).mp hother).2⟩
      case saved =>
        intro entry hentry
        rcases List.mem_cons.mp hentry with rfl|hold
        · obtain ⟨r,hargs,hbase⟩ := h.started pid job ⟨true,htable⟩
          exact ⟨job,r,rfl,hargs,by rw [hpath,hbase]⟩
        · exact h.saved entry hold
      case stopped =>
        refine fun n hn => (h.stopped n hn).imp_right fun ⟨pid',job',hpid',hjob',hserial⟩ => ?_
        refine ⟨pid',job',hpid',(hholds pid' job').mpr ⟨?_,hjob'⟩,hserial⟩
        rintro rfl
        obtain ⟨current,hcurrent,hfresh,_⟩ := h.current pid' hpid'
        exact hfresh (holds_unique hcurrent ⟨true,htable⟩ ▸ hsent)
      case settled =>
        have hkept : (s.reapers.erase (pid,path)).filterMap
            (fun w => serial? (Function.update s.table pid none w.1))=
              (s.reapers.erase (pid,path)).filterMap fun w => serial? (s.table w.1) := by
          refine waited_of_holds (t := { s with table := Function.update s.table pid none })
            fun w hw job' => (hholds w.1 job').trans (and_iff_right ?_)
          rintro rfl
          obtain ⟨hne,hold⟩ := (herase w).mp hw
          exact hne (by rw [←hone w.1 w.2 hold rfl])
        have hmoved : s.waited.Perm (job.serial::
            (s.reapers.erase (pid,path)).filterMap fun w => serial? (s.table w.1)) := by
          have hperm := (List.perm_cons_erase hmem).filterMap fun w => serial? (s.table w.1)
          rw [List.filterMap_cons,htable] at hperm
          exact hperm
        change s.signalled.Perm (_++job.serial::s.logged)
        rw [waited,hkept]
        exact h.settled.trans ((hmoved.append_right s.logged).trans List.perm_middle.symm)
  · exact h

theorem kept_step (s : Recorder) (i : Input) (h : s.Kept) : (step s i).Kept := by
  cases i with
  | start r outcome => exact kept_start h r outcome
  | stop => exact kept_stop h
  | exits pid => exact kept_exits h pid
  | reaps pid path => exact kept_reaps h pid path
  | otherStarts pid => exact kept_otherStarts h pid
  | otherReaps pid => exact kept_otherReaps h pid

/-- In every run the recorder keeps its books. -/
theorem run_kept (inputs : List Input) : (runFrom step {} inputs).Kept :=
  run_invariant kept_step inputs kept_initial

end Recorder

end Dankong.Recording

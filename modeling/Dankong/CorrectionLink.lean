import Dankong.TextLines
import Dankong.NtripStream
import Dankong.BasicAuth
import Dankong.GgaSentence
import Dankong.RtcmRelay

/-!
# The link to the correction service

Once the receiver has a fix and enough satellites, the listener starts the client with a
copy of the configuration and of the position. The client connects, authenticates, tells
the caster where it is, and hands what it receives to the flight controller in pieces.
It connects again whenever the connection is lost, with what was copied at the start.
While it runs, the listener tells the caster the position from time to time.
-/

namespace Dankong.Ntrip

open Runs Base64 TextLines

/-- The configuration. -/
structure Config where
  /-- `ntrip_enable`. -/
  enable : Bool
  /-- `ntrip_nstats`. -/
  nstats : ℤ
  /-- `ntrip_mountpoint`. -/
  mountpoint : List UInt8
  /-- `ntrip_username`. -/
  username : List UInt8
  /-- `ntrip_password`. -/
  password : List UInt8

/-- A position on the globe. -/
structure Position where
  /-- Latitude in degrees. -/
  lat : ℚ
  /-- Longitude in degrees. -/
  lon : ℚ
  /-- No farther than a pole. -/
  lat_le : |lat|≤90
  /-- No farther than halfway round. -/
  lon_le : |lon|≤180

/-- What the receiver of the vehicle reports. -/
structure Fix where
  /-- `gps_fix_type`. -/
  fixType : ℤ
  /-- `gps_nsats`. -/
  nsats : ℤ
  /-- Latitude and longitude of `lon_lat_alt`. -/
  position : Position

/-- The bytes of an ASCII text. -/
def ascii (text : List Char) : List UInt8 := text.map fun c => UInt8.ofNat c.toNat

/-- The request of `connect_and_auth`. -/
def request (c : Config) : List UInt8 :=
  ascii "GET /".toList++c.mountpoint++
    ascii " HTTP/1.0\r\nUser-Agent: NTRIP MyMavsdkClient/1.0\r\nAuthorization: Basic ".toList++
    base64Encode (c.username++ascii [':']++c.password)++
    ascii "\r\nAccept: */*\r\nConnection: close\r\n\r\n".toList

/-- What `send_location_update` sends. -/
def locationUpdate (p : Position) : List UInt8 := ascii (generateGga p.lat p.lon)

/-- A connection on which the request was sent. -/
structure Session where
  /-- Everything the caster sends on it. -/
  answer : List UInt8
  /-- The payloads of the calls of `send`, first one first; each is taken to be sent whole. -/
  writes : List (List UInt8)
  /-- What the callback was given on it. -/
  heard : List UInt8 := []

/-- The byte stream the caster receives. -/
def Session.stream (s : Session) : List UInt8 := s.writes.flatten

/-- The listener, the client and what left them. -/
structure Link where
  /-- The configuration at the moment. -/
  config : Config
  /-- The report of the receiver at the moment. -/
  fix : Fix
  /-- What `run` has copied, once the client runs. -/
  start : Option (Config×Fix) := none
  /-- The client. -/
  client : NtripClient := {}
  /-- The connections, latest first. -/
  sessions : List Session := []
  /-- The messages to the flight controller. -/
  toFcu : List Rtcm.RtcmData := []

/-- What can happen. -/
inductive LinkInput
  /-- The configuration is changed. -/
  | config (c : Config)
  /-- The receiver reports. -/
  | fix (f : Fix)
  /-- `on_tick` of the listener, at which an update may be due. -/
  | tick (due : Bool)
  /-- `on_step` of the client, with what the caster would send on a new connection. -/
  | step (answer : List UInt8) (io : SocketStep)

namespace Link

/-- The receiver is good enough to start. -/
def ready (c : Config) (f : Fix) : Bool :=
  c.enable && decide (3≤f.fixType) && decide (c.nstats≤f.nsats)

/-- `on_tick` of `NtripEventListener`. -/
def onTick (due : Bool) (t : Link) : Link :=
  match t.start with
  | none => if ready t.config t.fix=true then { t with start := some (t.config,t.fix) } else t
  | some _ =>
    if due=true ∧ t.client.isConnected=true then
      match t.sessions with
      | [] => t
      | s::rest => { t with
          sessions := { s with writes := s.writes++[locationUpdate t.fix.position] }::rest }
    else t

/-- The connections after `on_step`: a new one, or what was read on the open one. -/
def sessionsAfter (c : Config) (f : Fix) (answer : List UInt8) (io : SocketStep)
    (block : List UInt8) (t : Link) : List Session :=
  if t.client.isConnected=true then
    match t.sessions with
    | [] => []
    | s::rest => { s with heard := s.heard++block }::rest
  else if io.connects=false then t.sessions
  else if (connectAndAuth answer io).isSome=true then
    ⟨answer,[request c,locationUpdate f.position],block⟩::t.sessions
  else ⟨answer,[request c],block⟩::t.sessions

/-- `on_step` of the client with its callback. -/
def onStep (answer : List UInt8) (io : SocketStep) (t : Link) : Link :=
  match t.start with
  | none => t
  | some (c,f) =>
    let client := Ntrip.onStep answer t.client io
    -- what the callback is given is what the client has delivered in this step
    let block := client.delivered.drop t.client.delivered.length
    { t with
      client := client
      sessions := t.sessionsAfter c f answer io block
      toFcu := t.toFcu++Rtcm.sendRtcmData block }

/-- Effect of one input. -/
def step (t : Link) : LinkInput → Link
  | .config c => { t with config := c }
  | .fix f => { t with fix := f }
  | .tick due => t.onTick due
  | .step answer io => t.onStep answer io

end Link

/-- A read hands over a piece of what waits, and what stays waits after it. -/
theorem receive_block (found : Recv) (c : NtripClient) : ∃ block,
    (receive found c).delivered=c.delivered++block ∧ block<+:c.incoming ∧
      ((receive found c).isConnected=true →
        block++(receive found c).incoming=c.incoming) := by
  cases found with
  | bytes n =>
    exact ⟨c.incoming.take (min n 2048),rfl,List.take_prefix _ _,
      fun _ => List.take_append_drop _ _⟩
  | wouldBlock => exact ⟨[],(List.append_nil _).symm,List.nil_prefix,fun _ => rfl⟩
  | closed => exact ⟨[],(List.append_nil _).symm,List.nil_prefix,fun h => by cases h⟩
  | failed => exact ⟨[],(List.append_nil _).symm,List.nil_prefix,fun h => by cases h⟩

/-- Authentication drops what it has read, which accepts the request. -/
theorem connectAndAuth_eq_some {server rest : List UInt8} {io : SocketStep}
    (h : connectAndAuth server io=some rest) :
    io.connects=true ∧ ∃ first,first≤511 ∧ rest=server.drop first ∧
      okText<:+:cString (server.take first) := by
  unfold connectAndAuth at h
  split at h
  · cases h
  · rename_i hconnects
    refine ⟨eq_true_of_ne_false hconnects,?_⟩
    split at h
    · rename_i n _
      dsimp only at h
      split at h
      · rename_i hok
        exact ⟨min n 511,Nat.min_le_right n 511,(Option.some.inj h).symm,hok.2⟩
      · cases h
    · cases h

/-- The messages hold at least one and at most 180 bytes. -/
theorem size_of_mem_sendFrom {data : List UInt8} {i : ℕ} {m : Rtcm.RtcmData}
    (hm : m∈Rtcm.sendFrom data i) : m.dataBase64≠[] ∧ m.dataBase64.length≤180 := by
  induction i using Rtcm.sendFrom.induct data with
  | case1 i hlt ih =>
    rw [Rtcm.sendFrom,if_pos hlt] at hm
    rcases List.mem_cons.mp hm with rfl|hrest
    · have hlength : ((data.drop i).take (min Rtcm.maxChunk (data.length-i))).length=
          min 180 (data.length-i) := by
        rw [List.length_take,List.length_drop,Nat.min_assoc,Nat.min_self]
        rfl
      refine ⟨fun hnil => ?_,hlength.trans_le (Nat.min_le_left ..)⟩
      rw [show (data.drop i).take (min Rtcm.maxChunk (data.length-i))=[] from hnil,
        List.length_nil] at hlength
      omega
    · exact ih hrest
  | case2 i hlt =>
    rw [Rtcm.sendFrom,if_neg hlt] at hm
    cases hm

/-- What becomes of a connection: the request as it was at the start, the position of the
start and later ones once the caster has accepted, and what the caster has sent after its
first piece. -/
def Session.Proper (c : Config) (f : Fix) (s : Session) : Prop :=
  ∃ (first : ℕ) (positions : List Position),first≤511 ∧
    s.stream=request c++positions.flatMap locationUpdate ∧
    s.heard<+:s.answer.drop first ∧
    (okText<:+:cString (s.answer.take first) ∧ positions.head?=some f.position ∨
      positions=[] ∧ s.heard=[])

/-- An open connection, with what waits to be read. -/
def Session.Open (c : Config) (f : Fix) (s : Session) (incoming : List UInt8) : Prop :=
  ∃ (first : ℕ) (positions : List Position),first≤511 ∧
    s.stream=request c++positions.flatMap locationUpdate ∧
    s.heard++incoming=s.answer.drop first ∧
    okText<:+:cString (s.answer.take first) ∧ positions.head?=some f.position

section

variable {c : Config} {f : Fix} {s : Session} {incoming : List UInt8}

/-- Reading keeps a connection proper. -/
theorem Session.Open.proper {block : List UInt8} (h : s.Open c f incoming)
    (hblock : block<+:incoming) : Session.Proper c f { s with heard := s.heard++block } := by
  obtain ⟨first,positions,hfirst,hstream,hheard,hok,hhead⟩ := h
  refine ⟨first,positions,hfirst,hstream,?_,Or.inl ⟨hok,hhead⟩⟩
  obtain ⟨more,rfl⟩ := hblock
  exact ⟨more,by rw [← hheard,List.append_assoc]⟩

/-- Reading keeps it open as long as the client stays connected. -/
theorem Session.Open.read {block rest : List UInt8} (h : s.Open c f incoming)
    (hrest : block++rest=incoming) :
    Session.Open c f { s with heard := s.heard++block } rest := by
  obtain ⟨first,positions,hfirst,hstream,hheard,hok,hhead⟩ := h
  refine ⟨first,positions,hfirst,hstream,?_,hok,hhead⟩
  rw [List.append_assoc,hrest,hheard]

/-- An open connection is proper. -/
theorem Session.Open.proper_of_open (h : s.Open c f incoming) : s.Proper c f := by
  obtain ⟨first,positions,hfirst,hstream,hheard,hok,hhead⟩ := h
  exact ⟨first,positions,hfirst,hstream,⟨incoming,hheard⟩,Or.inl ⟨hok,hhead⟩⟩

/-- An update keeps it open. -/
theorem Session.Open.update (h : s.Open c f incoming) (p : Position) :
    Session.Open c f { s with writes := s.writes++[locationUpdate p] } incoming := by
  obtain ⟨first,positions,hfirst,hstream,hheard,hok,hhead⟩ := h
  refine ⟨first,positions++[p],hfirst,?_,hheard,hok,?_⟩
  · change (s.writes++[locationUpdate p]).flatten=_
    rw [List.flatten_append,show s.writes.flatten=_ from hstream,List.flatMap_append,
      List.append_assoc]
    rfl
  · rw [List.head?_append,hhead]
    rfl

end

namespace Link

/-- Run invariant of the link. -/
structure Kept (t : Link) : Prop where
  /-- Before the start nothing happens. -/
  idle : t.start=none → t.sessions=[] ∧ t.client={} ∧ t.toFcu=[]
  /-- The start waits for the receiver. -/
  ready : ∀ c f,t.start=some (c,f) → Link.ready c f=true
  /-- Connections are proper. -/
  proper : ∀ c f,t.start=some (c,f) → ∀ s∈t.sessions,s.Proper c f
  /-- A connected client has an open connection. -/
  connected : ∀ c f,t.start=some (c,f) → t.client.isConnected=true →
    ∃ s rest,t.sessions=s::rest ∧ s.Open c f t.client.incoming
  /-- What was read was delivered, connection by connection. -/
  delivered : t.client.delivered=(t.sessions.reverse.map Session.heard).flatten
  /-- What was delivered was relayed. -/
  relayed : (t.toFcu.map Rtcm.RtcmData.dataBase64).flatten=t.client.delivered
  /-- In pieces of limited size. -/
  pieces : ∀ m∈t.toFcu,m.dataBase64≠[] ∧ m.dataBase64.length≤180

theorem kept_initial (config : Config) (fix : Fix) : Kept { config := config, fix := fix } where
  idle := fun _ => ⟨rfl,rfl,rfl⟩
  ready := fun c f h => by cases h
  proper := fun c f h => by cases h
  connected := fun c f h => by cases h
  delivered := rfl
  relayed := rfl
  pieces := fun m hm => by cases hm

theorem kept_onTick {t : Link} (h : t.Kept) (due : Bool) : (t.onTick due).Kept := by
  unfold onTick
  cases hstart : t.start with
  | none =>
    obtain ⟨hsessions,hclient,hfcu⟩ := h.idle hstart
    dsimp only
    split
    · rename_i hready
      refine ⟨fun hnone => (by cases hnone),fun c f hcf => ?_,fun c f _ s hs => ?_,
        fun c f _ hon => ?_,h.delivered,h.relayed,h.pieces⟩
      · cases hcf
        exact hready
      · rw [show t.sessions=[] from hsessions] at hs
        cases hs
      · rw [show t.client={} from hclient] at hon
        cases hon
    · exact h
  | some cf =>
    dsimp only
    split
    · rename_i hdue
      obtain ⟨s,rest,hsessions,hopen⟩ := h.connected cf.1 cf.2 hstart hdue.2
      have hupdated := hopen.update t.fix.position
      rw [hsessions]
      refine ⟨fun hnone => (by cases hnone),fun c f hcf => h.ready c f (hstart.trans hcf),
        fun c f hcf s' hs' => ?_,fun c f hcf _ => ?_,?_,h.relayed,h.pieces⟩
      · cases hcf
        rcases List.mem_cons.mp hs' with rfl|hrest
        · exact hupdated.proper_of_open
        · exact h.proper c f hstart s' (hsessions ▸ List.mem_cons_of_mem s hrest)
      · cases hcf
        exact ⟨_,rest,rfl,hupdated⟩
      · rw [h.delivered,hsessions,List.reverse_cons,List.reverse_cons,List.map_append,
          List.map_append]
        rfl
    · exact h

/-- What is delivered on a connection is relayed at once. -/
theorem kept_relay {t : Link} (h : t.Kept) {c : Config} {f : Fix} (hstart : t.start=some (c,f))
    {client : NtripClient} {sessions : List Session} {block : List UInt8}
    (hblock : client.delivered=t.client.delivered++block)
    (hproper : ∀ s∈sessions,s.Proper c f)
    (hopen : client.isConnected=true → ∃ s rest,sessions=s::rest ∧ s.Open c f client.incoming)
    (hheard : (sessions.reverse.map Session.heard).flatten=
      (t.sessions.reverse.map Session.heard).flatten++block) :
    Kept { t with
      client := client
      sessions := sessions
      toFcu := t.toFcu++Rtcm.sendRtcmData block } where
  idle := fun hnone => by cases hstart.symm.trans hnone
  ready := h.ready
  proper := fun c' f' hcf => by
    cases hstart.symm.trans hcf
    exact hproper
  connected := fun c' f' hcf => by
    cases hstart.symm.trans hcf
    exact hopen
  delivered := by rw [hheard,hblock,h.delivered]
  relayed := by
    rw [List.map_append,List.flatten_append,h.relayed,Rtcm.sendRtcmData,Rtcm.flatten_sendFrom,
      List.drop_zero,hblock]
  pieces := fun m hm => by
    rcases List.mem_append.mp hm with hold|hnew
    · exact h.pieces m hold
    · exact size_of_mem_sendFrom hnew

/-- A step of the client reads an open connection, opens a new one or fails to. -/
theorem kept_onStep {t : Link} (h : t.Kept) (answer : List UInt8) (io : SocketStep) :
    (t.onStep answer io).Kept := by
  obtain ⟨config,fix,start,client,sessions,toFcu⟩ := t
  cases start with
  | none => exact h
  | some cf =>
    obtain ⟨c,f⟩ := cf
    have hdrop : ∀ block : List UInt8,
        (client.delivered++block).drop client.delivered.length=block := fun _ => List.drop_left
    unfold onStep sessionsAfter Ntrip.onStep
    dsimp only
    by_cases hon : client.isConnected=true
    · obtain ⟨block,hblock,hpart,hrest⟩ := receive_block io.data client
      obtain ⟨s,rest,rfl,hopen⟩ := h.connected c f rfl hon
      rw [if_pos hon,if_pos hon,hblock,hdrop]
      refine kept_relay h rfl hblock (fun s' hs' => ?_)
        (fun hstill => ⟨_,rest,rfl,hopen.read (hrest hstill)⟩) ?_
      · rcases List.mem_cons.mp hs' with rfl|hold
        · exact hopen.proper hpart
        · exact h.proper c f rfl s' (List.mem_cons_of_mem s hold)
      · simp only [List.reverse_cons,List.map_append,List.flatten_append,List.map_cons,List.map_nil,
          List.flatten_cons,List.flatten_nil,List.append_nil,List.append_assoc]
    · rw [if_neg hon,if_neg hon]
      cases hauth : connectAndAuth answer io with
      | some rest =>
        obtain ⟨hconnects,first,hfirst,rfl,hok⟩ := connectAndAuth_eq_some hauth
        obtain ⟨block,hblock,hpart,hrest⟩ := receive_block io.data
          { client with isConnected := true, incoming := answer.drop first }
        have hopen : Session.Open c f ⟨answer,[request c,locationUpdate f.position],[]⟩
            (answer.drop first) :=
          ⟨first,[f.position],hfirst,rfl,rfl,hok,rfl⟩
        rw [if_neg (ne_false_of_eq_true hconnects),if_pos Option.isSome_some]
        dsimp only
        rw [hblock,hdrop]
        refine kept_relay h rfl hblock (fun s' hs' => ?_)
          (fun hstill => ⟨_,sessions,rfl,hopen.read (hrest hstill)⟩) ?_
        · rcases List.mem_cons.mp hs' with rfl|hold
          · exact hopen.proper hpart
          · exact h.proper c f rfl s' hold
        · simp only [List.reverse_cons,List.map_append,List.flatten_append,List.map_cons,
            List.map_nil,List.flatten_cons,List.flatten_nil,List.append_nil]
      | none =>
        have hnothing : client.delivered=client.delivered++[] := (List.append_nil _).symm
        rw [Option.isSome_none,if_neg Bool.false_ne_true]
        dsimp only
        rw [List.drop_length]
        refine kept_relay h rfl hnothing (fun s' hs' => ?_) (fun hstill => absurd hstill hon) ?_
        · split at hs'
          · exact h.proper c f rfl s' hs'
          · rcases List.mem_cons.mp hs' with rfl|hold
            · exact ⟨0,[],Nat.zero_le _,rfl,List.nil_prefix,Or.inr ⟨rfl,rfl⟩⟩
            · exact h.proper c f rfl s' hold
        · split
          · rw [List.append_nil]
          · simp only [List.reverse_cons,List.map_append,List.flatten_append,List.map_cons,
              List.map_nil,List.flatten_cons,List.flatten_nil,List.append_nil]

theorem kept_step (t : Link) (i : LinkInput) (h : t.Kept) : (t.step i).Kept := by
  cases i with
  | config c => exact ⟨h.idle,h.ready,h.proper,h.connected,h.delivered,h.relayed,h.pieces⟩
  | fix f => exact ⟨h.idle,h.ready,h.proper,h.connected,h.delivered,h.relayed,h.pieces⟩
  | tick due => exact kept_onTick h due
  | step answer io => exact kept_onStep h answer io

end Link

/-- What a caster makes of a request. -/
structure Login where
  /-- The correction stream asked for. -/
  mountpoint : List UInt8
  /-- Who asks. -/
  username : List UInt8
  /-- The password. -/
  password : List UInt8

/-- What follows a known beginning. -/
def afterHead (head text : List UInt8) : Option (List UInt8) :=
  if head<+:text then some (text.drop head.length) else none

/-- What precedes a known end. -/
def beforeTail (tail text : List UInt8) : Option (List UInt8) :=
  if tail<:+text then some (text.take (text.length-tail.length)) else none

/-- The caster reads the request line, and the credentials from the field
`Authorization`. -/
def readRequest (header : List (List UInt8)) : Option Login :=
  (header.head?.bind fun line => (afterHead (ascii "GET /".toList) line).bind
    (beforeTail (ascii " HTTP/1.0\r".toList))).bind fun mountpoint =>
  (header.tail.findSome? (afterHead (ascii "Authorization: Basic ".toList))).bind fun field =>
  ((beforeTail (ascii ['\r']) field).bind decode).map fun credentials =>
    ⟨mountpoint,credentials.takeWhile (· ≠ 58),(credentials.dropWhile (· ≠ 58)).tail⟩

/-- The caster reads a request up to an empty line and takes every further line as a
sentence. -/
def caster (stream : List UInt8) : Option (Login×List (List UInt8)) :=
  let lines := (readLines 10 stream).1
  match lines.dropWhile (· ≠ [13]) with
  | [] => none
  | _::sentences => (readRequest (lines.takeWhile (· ≠ [13]))).map fun login =>
      (login,sentences.map (·++[10]))

section

variable {head text tail : List UInt8}

theorem afterHead_append (head text : List UInt8) : afterHead head (head++text)=some text := by
  rw [afterHead,if_pos (List.prefix_append head text),List.drop_left]

theorem beforeTail_append (tail text : List UInt8) :
    beforeTail tail (text++tail)=some text := by
  rw [beforeTail,if_pos (List.suffix_append text tail),List.length_append,Nat.add_sub_cancel,
    List.take_left]

end

/-- The lines of the request before the empty one. -/
def headerLines (c : Config) : List (List UInt8) :=
  [ascii "GET /".toList++c.mountpoint++ascii " HTTP/1.0\r".toList,
    ascii "User-Agent: NTRIP MyMavsdkClient/1.0\r".toList,
    ascii "Authorization: Basic ".toList++base64Encode (c.username++ascii [':']++c.password)++
      ascii ['\r'],
    ascii "Accept: */*\r".toList,ascii "Connection: close\r".toList]

/-- The request is made of its lines. -/
theorem request_eq (c : Config) : request c=terminated 10 (headerLines c++[[13]]) := by
  have hmiddle : ascii
      " HTTP/1.0\r\nUser-Agent: NTRIP MyMavsdkClient/1.0\r\nAuthorization: Basic ".toList=
      ascii " HTTP/1.0\r".toList++10::(ascii "User-Agent: NTRIP MyMavsdkClient/1.0\r".toList++
        10::ascii "Authorization: Basic ".toList) := by decide
  have hend : ascii "\r\nAccept: */*\r\nConnection: close\r\n\r\n".toList=
      ascii ['\r']++10::(ascii "Accept: */*\r".toList++
        10::(ascii "Connection: close\r".toList++10::[13,10])) := by decide
  rw [request,hmiddle,hend]
  simp only [headerLines,terminated,List.flatMap_cons,List.flatMap_nil,List.append_assoc,
    List.cons_append,List.nil_append,List.append_nil]

/-- A sentence without its last character. -/
def sentence (p : Position) : List Char :=
  ggaBody p.lat p.lon++ '*'::(hexByte (checksum (ggaBody p.lat p.lon).tail)++['\r'])

/-- The characters of a sentence before its end are no line ends. -/
theorem code_ne_of_mem_sentence {p : Position} {c : Char} (hc : c∈sentence p) :
    UInt8.ofNat c.toNat≠10 := by
  have hdigit : ∀ c : Char,c.isDigit=true → UInt8.ofNat c.toNat≠10 := by
    intro c hc hten
    obtain ⟨hlow,hhigh⟩ := Numerals.toNat_digit hc
    have hcode := congrArg UInt8.toNat hten
    rw [UInt8.toNat_ofNat',show (10 : UInt8).toNat=10 from rfl] at hcode
    omega
  have hcoordinate : ∀ digits x,∀ c∈coordinate digits x,UInt8.ofNat c.toNat≠10 := by
    intro digits x c hc
    rcases isDigit_of_mem_coordinate x hc with h|rfl
    · exact hdigit c h
    · decide
  have hhexDigit : ∀ n,UInt8.ofNat ("0123456789ABCDEF".toList.getD n '0').toNat≠10 := by
    have hsmall : ∀ n<16,UInt8.ofNat ("0123456789ABCDEF".toList.getD n '0').toNat≠10 := by decide
    intro n
    rcases Nat.lt_or_ge n 16 with hlt|hge
    · exact hsmall n hlt
    · rw [List.getD_eq_default _ _ hge]
      decide
  have hhead : 10∉ascii ggaHead := by decide
  have htail : 10∉ascii ggaTail := by decide
  have hlatitude : UInt8.ofNat (if 0≤p.lat then 'N' else 'S').toNat≠10 := by split <;> decide
  have hlongitude : UInt8.ofNat (if 0≤p.lon then 'E' else 'W').toNat≠10 := by split <;> decide
  simp only [sentence,ggaBody,hexByte,List.mem_append,List.mem_cons,List.not_mem_nil,or_false] at hc
  rcases hc with (h|h|rfl|rfl|rfl|h|rfl|rfl|h)|rfl|(rfl|rfl)|rfl
  · exact fun hten => hhead (List.mem_map.mpr ⟨c,h,hten⟩)
  · exact hcoordinate 2 p.lat c h
  · decide
  · exact hlatitude
  · decide
  · exact hcoordinate 3 p.lon c h
  · decide
  · exact hlongitude
  · exact fun hten => htail (List.mem_map.mpr ⟨c,h,hten⟩)
  · decide
  · exact hhexDigit _
  · exact hhexDigit _
  · decide

/-- A sentence is one line. -/
theorem locationUpdate_eq (p : Position) : locationUpdate p=ascii (sentence p)++[10] := by
  rw [locationUpdate,generateGga_eq p.lat_le p.lon_le,sentence,ascii,ascii,List.map_append,
    List.map_append,List.map_cons,List.map_cons,List.map_append,List.map_append]
  simp only [List.append_assoc,List.cons_append]
  rfl

theorem notMem_sentence (p : Position) : 10∉ascii (sentence p) := by
  intro hmem
  obtain ⟨c,hc,hcode⟩ := List.mem_map.mp hmem
  exact code_ne_of_mem_sentence hc hcode

/-- What precedes a symbol is read up to it. -/
theorem takeWhile_ne_append {α : Type*} [DecidableEq α] {a : α} {before : List α} (h : a∉before)
    (rest : List α) : (before++a::rest).takeWhile (· ≠ a)=before ∧
      (before++a::rest).dropWhile (· ≠ a)=a::rest := by
  have hbefore : ∀ x∈before,decide (x≠a)=true := fun x hx =>
    decide_eq_true fun heq => h (heq ▸ hx)
  rw [List.takeWhile_append_of_pos hbefore,List.dropWhile_append_of_pos hbefore]
  simp

/-- The caster understands the request. -/
theorem readRequest_headerLines (c : Config) (huser : 58∉c.username) :
    readRequest (headerLines c)=some ⟨c.mountpoint,c.username,c.password⟩ := by
  have hagent : afterHead (ascii "Authorization: Basic ".toList)
      (ascii "User-Agent: NTRIP MyMavsdkClient/1.0\r".toList)=none := by decide
  have hdecode := (base64Encode_standard (c.username++ascii [':']++c.password)).1
  have hcolon : c.username++ascii [':']++c.password=c.username++58::c.password :=
    List.append_assoc ..
  obtain ⟨huserEnd,hpassword⟩ := takeWhile_ne_append huser c.password
  unfold readRequest headerLines
  rw [List.head?_cons,List.tail_cons,List.findSome?_cons,hagent]
  dsimp only
  rw [List.findSome?_cons,List.append_assoc (ascii "Authorization: Basic ".toList),
    afterHead_append,List.append_assoc (ascii "GET /".toList)]
  dsimp only [Option.bind]
  rw [afterHead_append]
  dsimp only
  rw [beforeTail_append]
  dsimp only
  rw [beforeTail_append]
  dsimp only
  rw [hdecode]
  dsimp only [Option.map]
  rw [hcolon,huserEnd,hpassword]
  rfl

/-- No line of the request is empty, and none contains a line end if the mount point
does not. -/
theorem headerLines_lines (c : Config) : (∀ line∈headerLines c,line≠[13]) ∧
    (10∉c.mountpoint → ∀ line∈headerLines c,10∉line) := by
  have hauth : 10∉base64Encode (c.username++ascii [':']++c.password) := by
    rw [base64Encode,encodeWith_eq int32_lawful]
    exact fun h => absurd (mem_encode h) (by decide)
  have hget : 10∉ascii "GET /".toList ∧ 10∉ascii " HTTP/1.0\r".toList := by decide
  have hbasic : 10∉ascii "Authorization: Basic ".toList ∧ 10∉ascii ['\r'] := by decide
  simp only [headerLines,List.forall_mem_cons,List.mem_append,not_or]
  refine ⟨⟨fun h => ?_,by decide,fun h => ?_,by decide,by decide,fun _ h => by cases h⟩,
    fun hmount => ⟨⟨⟨hget.1,hmount⟩,hget.2⟩,by decide,⟨⟨hbasic.1,hauth⟩,hbasic.2⟩,by decide,
      by decide,fun _ h => by cases h⟩⟩
  · have hhead := congrArg List.head? h
    cases hhead
  · have hhead := congrArg List.head? h
    cases hhead

/-- The lines of everything sent on a connection. -/
def sessionLines (c : Config) (positions : List Position) : List (List UInt8) :=
  headerLines c++[13]::positions.map fun p => ascii (sentence p)

theorem readLines_stream (c : Config) (hmount : 10∉c.mountpoint) (positions : List Position) :
    (readLines 10 (request c++positions.flatMap locationUpdate)).1=sessionLines c positions := by
  have hupdates : positions.flatMap locationUpdate=
      terminated 10 (positions.map fun p => ascii (sentence p)) := by
    rw [terminated,List.flatMap_map]
    exact List.flatMap_congr fun p _ => locationUpdate_eq p
  have hfree : ∀ line∈sessionLines c positions,10∉line := by
    intro line hline
    rcases List.mem_append.mp hline with hheader|hrest
    · exact (headerLines_lines c).2 hmount line hheader
    · rcases List.mem_cons.mp hrest with rfl|hsentence
      · decide
      · obtain ⟨p,_,rfl⟩ := List.mem_map.mp hsentence
        exact notMem_sentence p
  have hstream : request c++positions.flatMap locationUpdate=
      terminated 10 (sessionLines c positions)++[] := by
    rw [request_eq,hupdates,← terminated_append,List.append_nil,List.append_assoc]
    rfl
  rw [hstream,readLines_terminated hfree]
  exact List.append_nil _

/-- The caster reads the request as it was meant and every position sent. -/
theorem caster_of_lines {stream : List UInt8} (c : Config) (huser : 58∉c.username)
    (positions : List Position) (hread : (readLines 10 stream).1=sessionLines c positions) :
    caster stream=
      some (⟨c.mountpoint,c.username,c.password⟩,positions.map locationUpdate) := by
  have hheader : ∀ line∈headerLines c,decide (line≠[13])=true := fun line hline =>
    decide_eq_true ((headerLines_lines c).1 line hline)
  have hsentences : (positions.map fun p => ascii (sentence p)).map (·++[10])=
      positions.map locationUpdate := by
    rw [List.map_map]
    exact List.map_congr_left fun p _ => (locationUpdate_eq p).symm
  unfold caster
  rw [hread,sessionLines]
  dsimp only
  rw [List.dropWhile_append_of_pos hheader,
    List.takeWhile_append_of_pos hheader,List.dropWhile_cons_of_neg (by decide),
    List.takeWhile_cons_of_neg (by decide),List.append_nil,readRequest_headerLines c huser]
  exact congrArg (fun updates => some (_,updates)) hsentences

/-- As much of a stream as has arrived gives nothing yet, or the request and the first
positions. -/
theorem caster_of_prefix (c : Config) (hmount : 10∉c.mountpoint) (huser : 58∉c.username)
    (positions : List Position) {arrived : List UInt8}
    (h : arrived<+:request c++positions.flatMap locationUpdate) :
    caster arrived=none ∨ ∃ k,caster arrived=
      some (⟨c.mountpoint,c.username,c.password⟩,(positions.take k).map locationUpdate) := by
  have hlines : (readLines 10 arrived).1<+:sessionLines c positions :=
    readLines_stream c hmount positions ▸ readLines_prefix h
  have htake := List.prefix_iff_eq_take.mp hlines
  rw [sessionLines,List.take_append] at htake
  cases hrest : (readLines 10 arrived).1.length-(headerLines c).length with
  | zero =>
    -- the header has not arrived in full
    rw [hrest,List.take_zero,List.append_nil] at htake
    refine Or.inl ?_
    have hdrop : (readLines 10 arrived).1.dropWhile (· ≠ [13])=[] := by
      rw [htake,List.dropWhile_eq_nil_iff]
      intro line hline
      exact decide_eq_true ((headerLines_lines c).1 line (List.mem_of_mem_take hline))
    unfold caster
    dsimp only
    rw [hdrop]
  | succ k =>
    rw [hrest,List.take_of_length_le (by omega),List.take_succ_cons,← List.map_take] at htake
    exact Or.inr ⟨k,caster_of_lines c huser (positions.take k) htake⟩

/-- A caster that knows how to read a request and lines finds the credentials and the
mount point of the copy and the positions, as far as they have arrived. -/
def Understood (c : Config) (stream : List UInt8) (positions : List Position) : Prop :=
  10∉c.mountpoint → 58∉c.username →
    caster stream=some (⟨c.mountpoint,c.username,c.password⟩,positions.map locationUpdate) ∧
      ∀ arrived,arrived<+:stream → caster arrived=none ∨ ∃ k,caster arrived=
        some (⟨c.mountpoint,c.username,c.password⟩,(positions.take k).map locationUpdate)

namespace Link

/-- What the caster, the flight controller and the vehicle see of the link. -/
structure Sound (t : Link) : Prop where
  /-- The client was started by a good receiver. -/
  started : ∀ c f,t.start=some (c,f) → Link.ready c f=true
  /-- Every connection asks for what was configured at the start. The position of the start
  and later ones follow once a first piece of the answer has accepted the request, and what
  follows this piece is what is heard. -/
  connections : ∀ c f,t.start=some (c,f) → ∀ s∈t.sessions,∃ (first : ℕ)
    (positions : List Position),first≤511 ∧ Understood c s.stream positions ∧
      s.heard<+:s.answer.drop first ∧
      (okText<:+:cString (s.answer.take first) ∧ positions.head?=some f.position ∨
        positions=[] ∧ s.heard=[])
  /-- The flight controller gets what was heard, connection by connection. -/
  relayed : (t.toFcu.map Rtcm.RtcmData.dataBase64).flatten=
    (t.sessions.reverse.map Session.heard).flatten
  /-- In messages of at least one and at most 180 bytes. -/
  pieces : ∀ m∈t.toFcu,m.dataBase64≠[] ∧ m.dataBase64.length≤180

/-- The link is sound after every run. -/
theorem run_sound (config : Config) (fix : Fix) (inputs : List LinkInput) :
    (runFrom step { config := config, fix := fix } inputs).Sound := by
  have h : (runFrom step { config := config, fix := fix } inputs).Kept :=
    run_invariant kept_step inputs (kept_initial config fix)
  refine ⟨h.ready,fun c f hstart s hs => ?_,h.relayed.trans h.delivered,h.pieces⟩
  obtain ⟨first,positions,hfirst,hstream,hheard,hfate⟩ := h.proper c f hstart s hs
  refine ⟨first,positions,hfirst,fun hmount huser => ?_,hheard,hfate⟩
  rw [hstream]
  refine ⟨?_,fun arrived harrived => caster_of_prefix c hmount huser positions harrived⟩
  exact caster_of_lines c huser positions (readLines_stream c hmount positions)

end Link

end Dankong.Ntrip

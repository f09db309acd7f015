import Mathlib.Data.List.Infix
import Dankong.Runs

/-!
# The correction stream of the NTRIP client

`NtripClient` opens a connection, reads the beginning of the answer once to
authenticate, and from then on hands everything it receives to a callback. The
answer is a header followed by the correction data in one byte stream, which TCP
may cut anywhere. The data reach the callback complete and alone exactly when the
first read happens to return the header and nothing else.
-/

namespace Dankong.Ntrip

open Runs

/-- What a `recv` call finds. -/
inductive Recv
  /-- Up to so many bytes are there. -/
  | bytes (n : ℕ)
  /-- `EAGAIN`: nothing is there yet. -/
  | wouldBlock
  /-- The server has closed the connection. -/
  | closed
  /-- Another socket error. -/
  | failed

/-- What one `on_step` meets: whether a connection can be opened and the request
sent, and what the two reads find. -/
structure SocketStep where
  /-- `socket`, `connect` and `send` succeed. -/
  connects : Bool := true
  /-- The blocking read of the authentication. -/
  auth : Recv
  /-- The non-blocking read of the data. -/
  data : Recv

/-- `NtripClient`, with the bytes of the open connection that wait to be read and
everything handed to the callback. -/
structure NtripClient where
  /-- `is_connected_`. -/
  isConnected : Bool := false
  /-- Bytes sent by the server and not read yet. -/
  incoming : List UInt8 := []
  /-- Concatenation of the blocks given to the callback. -/
  delivered : List UInt8 := []
  /-- Number of failed attempts to connect and authenticate. -/
  rejected : ℕ := 0

/-- `200 OK`. -/
def okText : List UInt8 := [50,48,48,32,79,75]

/-- Two line ends: the empty line after a header. -/
def emptyLine : List UInt8 := [13,10,13,10]

/-- The part of a buffer that `std::string` takes over: up to the first zero byte. -/
def cString (buffer : List UInt8) : List UInt8 := buffer.takeWhile (· ≠ 0)

/-- `connect_and_auth`: one read of at most 511 bytes must contain `200 OK`. The
result is what remains to be read of the connection. -/
def connectAndAuth (server : List UInt8) (io : SocketStep) : Option (List UInt8) :=
  if io.connects=false then none
  else match io.auth with
    | .bytes n =>
      let response := server.take (min n 511)
      if response≠[] ∧ okText<:+:cString response then some (server.drop (min n 511)) else none
    | _ => none

/-- The reading part of `on_step`, with a buffer of 2048 bytes. -/
def receive (found : Recv) (c : NtripClient) : NtripClient :=
  match found with
  | .bytes n => { c with
      incoming := c.incoming.drop (min n 2048)
      delivered := c.delivered++c.incoming.take (min n 2048) }
  | .wouldBlock => c
  | .closed => { c with isConnected := false, incoming := [] }
  | .failed => { c with isConnected := false, incoming := [] }

/-- `on_step`, given what the server sends on a new connection. -/
def onStep (server : List UInt8) (c : NtripClient) (io : SocketStep) : NtripClient :=
  if c.isConnected=true then receive io.data c
  else match connectAndAuth server io with
    | some rest => receive io.data { c with isConnected := true, incoming := rest }
    | none => { c with rejected := c.rejected+1 }

/-- An accepting answer of the server. -/
structure Response where
  /-- Status line and header fields. -/
  header : List UInt8
  /-- The correction data. -/
  rtcm : List UInt8
  /-- The header accepts the request. -/
  accepts : okText<:+:header
  /-- The header ends with an empty line. -/
  ends : emptyLine<:+header

/-- The answer as one byte stream. -/
def Response.bytes (r : Response) : List UInt8 := r.header++r.rtcm

/-- The connection stays open: the blocking read returns something, the others
return something or nothing yet. -/
def StaysOpen (io : SocketStep) : Prop :=
  io.connects=true ∧ (∃ n,io.auth=.bytes (n+1)) ∧ (io.data=.wouldBlock ∨ ∃ n,io.data=.bytes n)

/-- Number of bytes the data read of a step takes at most. -/
def SocketStep.room (io : SocketStep) : ℕ :=
  match io.data with
  | .bytes n => min n 2048
  | _ => 0

/-- What the authentication read of a step returns. -/
def SocketStep.firstRecv (io : SocketStep) (server : List UInt8) : List UInt8 :=
  match io.auth with
  | .bytes n => server.take (min n 511)
  | _ => []

/-- Number of bytes taken at most by all reads of a run. -/
def roomOf : List SocketStep → ℕ
  | [] => 0
  | io::rest => io.room+roomOf rest

/-- The client has authenticated at once and delivered exactly the data. -/
def DeliversData (r : Response) (ios : List SocketStep) : Prop :=
  (runFrom (onStep r.bytes) {} ios).rejected=0 ∧
    (runFrom (onStep r.bytes) {} ios).isConnected=true ∧
    (runFrom (onStep r.bytes) {} ios).delivered=r.rtcm

/-- A read of an open connection moves bytes from the socket to the callback. -/
theorem receive_open {io : SocketStep} (h : StaysOpen io) (c : NtripClient) :
    receive io.data c={ c with
      incoming := c.incoming.drop io.room
      delivered := c.delivered++c.incoming.take io.room } := by
  obtain ⟨_,_,hdata|⟨n,hdata⟩⟩ := h
  · simp only [receive,SocketStep.room,hdata,List.drop_zero,List.take_zero,List.append_nil]
  · simp only [receive,SocketStep.room,hdata]

/-- A connected client hands over the bytes in the order they come, however the
reads cut them. -/
theorem run_connected (server : List UInt8) (ios : List SocketStep) (hopen : ∀ io∈ios,StaysOpen io)
    {c : NtripClient} (hc : c.isConnected=true) :
    runFrom (onStep server) c ios={ c with
      incoming := c.incoming.drop (roomOf ios)
      delivered := c.delivered++c.incoming.take (roomOf ios) } := by
  induction ios generalizing c with
  | nil => simp [roomOf]
  | cons io rest ih =>
    have hio : StaysOpen io := hopen io List.mem_cons_self
    have hstep : onStep server c io={ c with
        incoming := c.incoming.drop io.room
        delivered := c.delivered++c.incoming.take io.room } := by
      dsimp only [onStep]
      rw [if_pos hc,receive_open hio]
    have hroom : roomOf (io::rest)=io.room+roomOf rest := rfl
    have hrest := ih (fun io' h => hopen io' (List.mem_cons_of_mem _ h)) (c := onStep server c io)
      (by rw [hstep]; exact hc)
    rw [runFrom_cons,hrest,hstep,hroom]
    simp only [List.drop_drop,List.append_assoc,List.take_add]

/-- Failed attempts are never forgotten. -/
theorem run_rejected (server : List UInt8) (ios : List SocketStep) {c : NtripClient}
    (hc : 0<c.rejected) : 0<(runFrom (onStep server) c ios).rejected := by
  refine run_invariant (P := fun c : NtripClient => 0<c.rejected) (fun c io h => ?_) ios hc
  have hreceive : ∀ d : NtripClient,0<d.rejected → 0<(receive io.data d).rejected := by
    intro d hd
    cases io.data <;> exact hd
  dsimp only [onStep]
  split
  · exact hreceive c h
  · split
    · exact hreceive _ h
    · exact Nat.succ_pos _

/-- Authentication succeeds exactly when the first read shows `200 OK`, and loses
what that read returned. -/
theorem connectAndAuth_open {server : List UInt8} {io : SocketStep} (h : StaysOpen io) :
    connectAndAuth server io=
      if okText<:+:cString (io.firstRecv server) then
        some (server.drop (io.firstRecv server).length)
      else none := by
  obtain ⟨hconnects,⟨n,hauth⟩,_⟩ := h
  have hdrop : server.drop (server.take (min (n+1) 511)).length=server.drop (min (n+1) 511) := by
    rw [List.length_take]
    rcases le_total (min (n+1) 511) server.length with hle|hle
    · rw [min_eq_left hle]
    · rw [min_eq_right hle,List.drop_length,List.drop_eq_nil_of_le hle]
  have hrecv : io.firstRecv server=server.take (min (n+1) 511) := by
    simp only [SocketStep.firstRecv,hauth]
  rw [hrecv,hdrop]
  dsimp only [connectAndAuth]
  rw [hconnects,hauth]
  dsimp only
  by_cases hok : okText<:+:cString (server.take (min (n+1) 511))
  · have hsome : server.take (min (n+1) 511)≠[] := by
      intro hnil
      rw [hnil] at hok
      exact absurd hok (by decide)
    rw [if_pos hok,if_neg (by decide),if_pos ⟨hsome,hok⟩]
  · rw [if_neg hok,if_neg (by decide),if_neg (fun hboth => hok hboth.2)]

/-- A run that authenticates delivers what follows the first read. -/
theorem run_accepted {r : Response} {first : SocketStep} {rest : List SocketStep}
    (hopen : ∀ io∈first::rest,StaysOpen io)
    (hok : okText<:+:cString (first.firstRecv r.bytes)) :
    runFrom (onStep r.bytes) {} (first::rest)=
      { isConnected := true
        incoming := (r.bytes.drop (first.firstRecv r.bytes).length).drop (roomOf (first::rest))
        delivered := (r.bytes.drop (first.firstRecv r.bytes).length).take
          (roomOf (first::rest)) } := by
  have hfirst : StaysOpen first := hopen first List.mem_cons_self
  have hauth : onStep r.bytes {} first=onStep r.bytes
      { isConnected := true, incoming := r.bytes.drop (first.firstRecv r.bytes).length } first := by
    dsimp only [onStep]
    rw [connectAndAuth_open hfirst,if_pos hok]
    rfl
  rw [runFrom_cons,hauth,←runFrom_cons]
  exact run_connected r.bytes (first::rest) hopen rfl

/-- A run whose first read does not show `200 OK` counts a rejection. -/
theorem run_refused {r : Response} {first : SocketStep} {rest : List SocketStep}
    (hopen : ∀ io∈first::rest,StaysOpen io)
    (hok : ¬okText<:+:cString (first.firstRecv r.bytes)) :
    0<(runFrom (onStep r.bytes) {} (first::rest)).rejected := by
  have hfirst : StaysOpen first := hopen first List.mem_cons_self
  have hstep : onStep r.bytes {} first={ rejected := 1 } := by
    dsimp only [onStep]
    rw [connectAndAuth_open hfirst,if_neg hok]
    rfl
  rw [runFrom_cons,hstep]
  exact run_rejected r.bytes rest Nat.one_pos

/-- The data are delivered exactly when the first read returns the header and
nothing else, and `200 OK` stands in it before any zero byte. -/
theorem delivers_iff_first_is_header (r : Response) (first : SocketStep) (rest : List SocketStep)
    (hopen : ∀ io∈first::rest,StaysOpen io)
    (hall : r.bytes.length≤(first.firstRecv r.bytes).length+roomOf (first::rest)) :
    DeliversData r (first::rest) ↔
      first.firstRecv r.bytes=r.header ∧ okText<:+:cString r.header := by
  have hprefix : first.firstRecv r.bytes<+:r.bytes := by
    obtain ⟨_,⟨n,hauth⟩,_⟩ := hopen first List.mem_cons_self
    simp only [SocketStep.firstRecv,hauth]
    exact List.take_prefix _ _
  have hsplit : first.firstRecv r.bytes++r.bytes.drop (first.firstRecv r.bytes).length=r.bytes :=
    List.prefix_iff_eq_append.mp hprefix
  have hrest : (r.bytes.drop (first.firstRecv r.bytes).length).take (roomOf (first::rest))=
      r.bytes.drop (first.firstRecv r.bytes).length := by
    apply List.take_of_length_le
    rw [List.length_drop]
    omega
  constructor
  · rintro ⟨hrejected,_,hdelivered⟩
    have hok : okText<:+:cString (first.firstRecv r.bytes) := by
      by_contra hok
      exact absurd hrejected (Nat.ne_of_gt (run_refused hopen hok))
    rw [run_accepted hopen hok] at hdelivered
    have hdata : r.bytes.drop (first.firstRecv r.bytes).length=r.rtcm := hrest.symm.trans hdelivered
    rw [hdata] at hsplit
    have hheader : first.firstRecv r.bytes=r.header := List.append_cancel_right hsplit
    rw [hheader] at hok
    exact ⟨hheader,hok⟩
  · rintro ⟨hheader,hok⟩
    rw [hheader] at hsplit hrest
    have hdata : r.bytes.drop r.header.length=r.rtcm := List.append_cancel_left hsplit
    have hrun := run_accepted hopen (by rw [hheader]; exact hok)
    rw [hheader] at hrun
    refine ⟨by rw [hrun],by rw [hrun],?_⟩
    rw [hrun]
    exact hrest.trans hdata

/-- A short header with one byte of correction data behind it. -/
def icyResponse : Response where
  header := [73,67,89,32,50,48,48,32,79,75,13,10,13,10]
  rtcm := [211]
  accepts := ⟨[73,67,89,32],[13,10,13,10],rfl⟩
  ends := ⟨[73,67,89,32,50,48,48,32,79,75],rfl⟩

/-- A first read that ends with the header delivers the data. -/
theorem headerFirst_delivers :
    DeliversData icyResponse [⟨true,.bytes 14,.wouldBlock⟩,⟨true,.bytes 1,.bytes 5⟩] := by
  refine (delivers_iff_first_is_header icyResponse _ _ (fun io hio => ?_) (by decide)).mpr
    ⟨by decide,by decide⟩
  rcases List.mem_cons.mp hio with rfl|hio
  · exact ⟨rfl,⟨13,rfl⟩,Or.inl rfl⟩
  · obtain rfl := List.mem_singleton.mp hio
    exact ⟨rfl,⟨0,rfl⟩,Or.inr ⟨5,rfl⟩⟩

/-- A first read that returns header and data loses the data: the stream handed
over depends on how the bytes are cut. -/
theorem coalescedRead_loses :
    ¬∀ (r : Response) (first : SocketStep) (rest : List SocketStep),
      (∀ io∈first::rest,StaysOpen io) →
      r.bytes.length≤(first.firstRecv r.bytes).length+roomOf (first::rest) →
      DeliversData r (first::rest) := by
  intro h
  obtain ⟨_,_,hdelivered⟩ := h icyResponse ⟨true,.bytes 15,.wouldBlock⟩ [] (fun io hio => by
    obtain rfl := List.mem_singleton.mp hio
    exact ⟨rfl,⟨14,rfl⟩,Or.inl rfl⟩) (by decide)
  exact absurd hdelivered (by decide)

end Dankong.Ntrip

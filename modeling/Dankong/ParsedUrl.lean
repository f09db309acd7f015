import Dankong.TextSearch

/-!
# Splitting URLs

`parse_url` cuts a text at the first `://`, then at the first slash, then at the first
colon. Composing the parts of a URL and parsing the text gives the parts back, except
where no scheme is written and the path or query contains `://`: what precedes it there
is taken for the scheme.
-/

namespace Dankong.Request

open TextSearch

/-- `ParsedUrl`. -/
structure ParsedUrl where
  /-- `protocol`. -/
  protocol : List Char
  /-- `host`. -/
  host : List Char
  /-- `port`. -/
  port : List Char
  /-- `path`, with the query. -/
  path : List Char
  deriving DecidableEq

/-- What separates the protocol from the rest. -/
def schemeEnd : List Char := [':','/','/']

/-- First step of `parse_url`: the protocol and the rest. -/
def splitProtocol (fullUrl : List Char) : List Char×List Char :=
  match find schemeEnd fullUrl with
  | some pos => (fullUrl.take pos,fullUrl.drop (pos+3))
  | none => ("http".toList,fullUrl)

/-- Second step: the path, and what precedes it. -/
def splitPath (remaining : List Char) : List Char×List Char :=
  match find ['/'] remaining with
  | some pos => (remaining.drop pos,remaining.take pos)
  | none => (['/'],remaining)

/-- The port that a protocol implies. -/
def defaultPort (protocol : List Char) : List Char :=
  if protocol="https".toList then "443".toList else "80".toList

/-- Third step: the host and the port. -/
def splitPort (protocol remaining : List Char) : List Char×List Char :=
  match find [':'] remaining with
  | some pos => (remaining.take pos,remaining.drop (pos+1))
  | none => (remaining,defaultPort protocol)

/-- `parse_url`. -/
def parseUrl (fullUrl : List Char) : ParsedUrl :=
  let start := splitProtocol fullUrl
  let parts := splitPath start.2
  let authority := splitPort start.1 parts.2
  ⟨start.1,authority.1,authority.2,parts.1⟩

/-- The schemes of the URLs that are requested. -/
inductive Scheme
  /-- Plain. -/
  | http
  /-- Over TLS. -/
  | https
  deriving DecidableEq

/-- How a scheme is written. -/
def Scheme.text : Scheme → List Char
  | .http => "http".toList
  | .https => "https".toList

/-- The parts of a URL. -/
structure UrlParts where
  /-- The scheme, if it is written. -/
  scheme : Option Scheme
  /-- The host. -/
  host : List Char
  /-- The port, if it is written. -/
  port : Option (List Char)
  /-- The path with its query. -/
  path : List Char
  /-- There is a host. -/
  host_ne : host≠[]
  /-- A host contains no separator. -/
  host_plain : '/'∉host ∧ ':'∉host
  /-- Nor does a port, and it is not empty. -/
  port_plain : ∀ text∈port,text≠[] ∧ '/'∉text ∧ ':'∉text
  /-- A path begins with a slash, if it is not empty. -/
  path_rooted : path=[] ∨ ∃ rest,path= '/'::rest

namespace UrlParts

/-- Host and port, as they are written. -/
def authority (u : UrlParts) : List Char := u.host++(u.port.map (':'::·)).getD []

/-- The text of a URL. -/
def compose (u : UrlParts) : List Char :=
  (u.scheme.map fun scheme => scheme.text++schemeEnd).getD []++(u.authority++u.path)

/-- The parts as a parsed URL: a missing scheme is `http`, a missing port that of the
scheme, and an empty path a slash. -/
def parsed (u : UrlParts) : ParsedUrl :=
  let protocol := (u.scheme.getD .http).text
  ⟨protocol,u.host,u.port.getD (defaultPort protocol),if u.path=[] then ['/'] else u.path⟩

end UrlParts

variable (u : UrlParts)

/-- The path begins at the first slash. -/
theorem splitPath_authority :
    splitPath (u.authority++u.path)=(if u.path=[] then ['/'] else u.path,u.authority) := by
  have hplain : '/'∉u.authority := by
    rw [UrlParts.authority,List.mem_append,not_or]
    refine ⟨u.host_plain.1,?_⟩
    cases hport : u.port with
    | none => exact List.not_mem_nil
    | some text =>
      rw [Option.map_some,Option.getD_some,List.mem_cons,not_or]
      exact ⟨by decide,(u.port_plain text hport).2.1⟩
  unfold splitPath
  rcases u.path_rooted with hnil|⟨rest,hrest⟩
  · rw [hnil,List.append_nil,find_of_notMem hplain]
    rfl
  · rw [hrest]
    have hfind : find ['/'] (u.authority++ '/'::rest)=some u.authority.length :=
      find_first hplain rest
    rw [hfind]
    dsimp only
    rw [List.drop_left,List.take_left,if_neg (List.cons_ne_nil _ _)]

/-- The port begins behind the first colon. -/
theorem splitPort_authority (protocol : List Char) :
    splitPort protocol u.authority=(u.host,u.port.getD (defaultPort protocol)) := by
  unfold splitPort UrlParts.authority
  cases u.port with
  | none =>
    rw [Option.map_none,Option.getD_none,List.append_nil,find_of_notMem u.host_plain.2]
    rfl
  | some text =>
    rw [Option.map_some,Option.getD_some]
    have hfind : find [':'] (u.host++ ':'::text)=some u.host.length :=
      find_first u.host_plain.2 text
    rw [hfind]
    dsimp only
    rw [List.take_left,List.drop_length_add_append]
    rfl

/-- The end of a scheme is found in the path only. -/
theorem find_schemeEnd :
    find schemeEnd (u.authority++u.path)=(find schemeEnd u.path).map (u.authority.length+·) := by
  have hhost := u.host_plain.2
  unfold UrlParts.authority
  cases hport : u.port with
  | none =>
    rw [Option.map_none,Option.getD_none,List.append_nil]
    exact find_append hhost
  | some text =>
    obtain ⟨hne,hslash,hcolon⟩ := u.port_plain text hport
    obtain ⟨c,rest,rfl⟩ := List.exists_cons_of_ne_nil hne
    rw [List.mem_cons,not_or] at hslash
    -- the colon before the port begins no end of a scheme
    have hhere : ¬schemeEnd<+: ':'::(c::rest++u.path) := by
      intro hp
      exact hslash.1 (List.cons_prefix_cons.mp (List.cons_prefix_cons.mp hp).2).1
    have hport : find schemeEnd (':'::(c::rest++u.path))=
        (find schemeEnd u.path).map ((c::rest).length+1+·) := by
      rw [find,if_neg hhere,schemeEnd,find_append hcolon,Option.map_map]
      congr 1
      funext pos
      rw [Function.comp]
      omega
    rw [Option.map_some,Option.getD_some,List.append_assoc,List.cons_append,schemeEnd,
      find_append hhost,←schemeEnd,hport,Option.map_map]
    congr 1
    funext pos
    rw [Function.comp,List.length_append,List.length_cons (a:= ':')]
    omega

/-- A written scheme is what precedes the first end of a scheme. -/
theorem splitProtocol_scheme (scheme : Scheme) (rest : List Char) :
    splitProtocol (scheme.text++schemeEnd++rest)=(scheme.text,rest) := by
  have hcolon : ':'∉scheme.text := by cases scheme <;> decide
  have hfind : find schemeEnd (scheme.text++(schemeEnd++rest))=some scheme.text.length :=
    find_first hcolon rest
  rw [List.append_assoc,splitProtocol,hfind]
  dsimp only
  rw [List.take_left,List.drop_length_add_append]
  rfl

/-- Without a written scheme there is none, unless the path contains the end of one. -/
theorem splitProtocol_plain (h : ¬schemeEnd<:+:u.path) :
    splitProtocol (u.authority++u.path)=("http".toList,u.authority++u.path) := by
  rw [splitProtocol,find_schemeEnd,find_eq_none_iff.mpr h]
  rfl

/-- Otherwise the beginning of the path is taken for a part of the protocol. -/
theorem slash_mem_protocol (h : schemeEnd<:+:u.path) :
    '/'∈(splitProtocol (u.authority++u.path)).1 := by
  have hne : u.path≠[] := by
    intro hnil
    rw [hnil,List.infix_nil] at h
    cases h
  obtain ⟨rest,hrest⟩ := u.path_rooted.resolve_left hne
  -- the path begins with a slash, so the end of a scheme comes later
  have hlater : find schemeEnd u.path=(find schemeEnd rest).map (1+·) := by
    rw [hrest]
    exact find_append (by decide : ':'∉['/'])
  cases hfind : find schemeEnd rest with
  | none =>
    rw [hfind] at hlater
    exact absurd h (find_eq_none_iff.mp hlater)
  | some pos =>
    rw [splitProtocol,find_schemeEnd,hlater,hfind,hrest]
    dsimp only [Option.map_some]
    rw [List.take_length_add_append,Nat.add_comm 1 pos,List.take_succ_cons]
    exact List.mem_append_right _ List.mem_cons_self

/-- Once the protocol is split off, the other parts are found. -/
theorem parseUrl_of_splitProtocol {text protocol : List Char}
    (h : splitProtocol text=(protocol,u.authority++u.path)) :
    parseUrl text=⟨protocol,u.host,u.port.getD (defaultPort protocol),
      if u.path=[] then ['/'] else u.path⟩ := by
  unfold parseUrl
  rw [h]
  dsimp only
  rw [splitPath_authority,splitPort_authority]

/-- Parsing the composed text gives the parts back exactly if a scheme is written or the
path does not contain the end of one. -/
theorem parseUrl_compose_iff :
    parseUrl u.compose=u.parsed ↔ u.scheme.isSome=true ∨ ¬schemeEnd<:+:u.path := by
  unfold UrlParts.compose UrlParts.parsed
  cases u.scheme with
  | some scheme =>
    refine iff_of_true ?_ (Or.inl rfl)
    exact parseUrl_of_splitProtocol u (splitProtocol_scheme scheme _)
  | none =>
    rw [Option.map_none,Option.getD_none,Option.getD_none,List.nil_append]
    by_cases hpath : schemeEnd<:+:u.path
    · refine iff_of_false (fun h => ?_) (by simpa using hpath)
      have hslash := slash_mem_protocol u hpath
      have hhttp : (splitProtocol (u.authority++u.path)).1="http".toList :=
        congrArg ParsedUrl.protocol h
      rw [hhttp] at hslash
      exact absurd hslash (by decide)
    · exact iff_of_true (parseUrl_of_splitProtocol u (splitProtocol_plain u hpath)) (Or.inr hpath)

/-- A request to a host without a scheme, with a link in its query. -/
def linkInQuery : UrlParts where
  scheme := none
  host := "10.0.0.2".toList
  port := some "8080".toList
  path := "/open?link=http://10.0.0.3/a".toList
  host_ne := by decide
  host_plain := by decide
  port_plain := by
    intro text htext
    obtain rfl := Option.mem_some.mp htext
    decide
  path_rooted := Or.inr ⟨"open?link=http://10.0.0.3/a".toList,rfl⟩

/-- Host, port and query up to the link become the protocol. -/
theorem linkInQuery_misread : ¬∀ u : UrlParts,parseUrl u.compose=u.parsed := by
  intro hall
  have hprotocol := congrArg ParsedUrl.protocol (hall linkInQuery)
  exact absurd hprotocol (by decide)

end Dankong.Request

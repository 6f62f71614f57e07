import MinimaxProxy.Net.Http
import MinimaxProxy.Text.Strings

/-!
# The guard of outgoing requests

`netguard/url.go`: URLs are checked before a request and at every redirect, and names are looked
up again for every connection. The parts of Go's library that read and write URLs and addresses
are parameters, and so is the network, which may answer differently each time.
-/

namespace MinimaxProxy.Netguard
open Net

/-! ## Protected addresses -/

/-- `protectedPrefixes` (url.go:137). -/
def protectedPrefixes : List Net.Prefix :=
  [⟨.bytes 0 0 0 0, 8⟩, ⟨.bytes 100 64 0 0, 10⟩, ⟨.bytes 192 0 0 0, 24⟩, ⟨.bytes 192 0 2 0, 24⟩, ⟨.bytes 198 18 0 0, 15⟩,
   ⟨.bytes 198 51 100 0, 24⟩, ⟨.bytes 203 0 113 0, 24⟩, ⟨.bytes 192 88 99 0, 24⟩, ⟨.bytes 240 0 0 0, 4⟩,
   ⟨.groups 0x64 0xff9b 0 0 0 0 0 0, 96⟩, ⟨.groups 0x64 0xff9b 1 0 0 0 0 0, 48⟩, ⟨.groups 0x100 0 0 0 0 0 0 0, 64⟩,
   ⟨.groups 0x2001 0 0 0 0 0 0 0, 23⟩, ⟨.groups 0x2001 0xdb8 0 0 0 0 0 0, 32⟩, ⟨.groups 0x2002 0 0 0 0 0 0 0, 16⟩,
   ⟨.groups 0xfec0 0 0 0 0 0 0 0, 10⟩]

/-- `IsProtectedAddress` (url.go:121). -/
def isProtectedAddress (address : Addr) : Bool :=
  !address.isValid || !address.isGlobalUnicast || address.isPrivate || address.isLoopback || address.isLinkLocalUnicast
    || address.isLinkLocalMulticast || address.isInterfaceLocalMulticast || address.isUnspecified || address.isMulticast
    || protectedPrefixes.any (·.contains address)

/-- The address, without its zone, is one of the public internet. -/
structure Public (address : Addr) : Prop where
  global : address.withoutZone.isGlobalUnicast = true
  shared : address.withoutZone.isPrivate = false
  unlisted : ∀ p ∈ protectedPrefixes, p.contains address.withoutZone = false

theorem public_of_unprotected {a : Addr} (unprotected : isProtectedAddress a = false) (noZone : a.zone = "") : Public a := by
  simp only [isProtectedAddress, Bool.or_eq_false_iff, Bool.not_eq_false', List.any_eq_false, Bool.not_eq_true] at unprotected
  obtain ⟨⟨⟨⟨⟨⟨⟨⟨⟨-, global⟩, shared⟩, -⟩, -⟩, -⟩, -⟩, -⟩, -⟩, unlisted⟩ := unprotected
  rw [← Addr.withoutZone_of_zone noZone] at global shared unlisted
  exact ⟨global, shared, unlisted⟩

/-! ## Lookup and validation -/

/-- What is used of Go's library. -/
structure Library where
  parse : String → Option URL
  render : URL → String
  parseAddr : String → Option Addr
  splitHostPort : String → Option (String × String)
  /-- The address that the transport asks to dial for a URL. -/
  canonicalAddr : URL → String
  trimSpace : String → String
  toLower : String → String

/-- The network at one moment: what the resolver answers, and who accepts connections. -/
structure Network where
  resolve : String → Option (List Addr)
  connects : Addr → Bool

/-- The reasons for `ErrUnsafeURL`. -/
inductive UrlError
  | format
  | scheme
  | parts
  | badPort
  | portNotAllowed
  | localhost
  | literal
  | resolution
  | answer
  deriving DecidableEq

def UrlError.message : UrlError → String
  | .format => "目标 URL 不安全: URL 格式无效"
  | .scheme => "目标 URL 不安全: 仅允许 HTTP/HTTPS"
  | .parts => "目标 URL 不安全: 主机、用户信息或片段无效"
  | .badPort => "目标 URL 不安全: 端口无效"
  | .portNotAllowed => "目标 URL 不安全: 端口不在允许列表"
  | .localhost => "目标 URL 不安全: localhost 保留域不可访问"
  | .literal => "目标 URL 不安全: 地址属于受保护网络"
  | .resolution => "目标 URL 不安全: DNS 解析失败"
  | .answer => "目标 URL 不安全: DNS 包含受保护网络地址"

/-- `normalizePort` (url.go:270). -/
def normalizePort (scheme port : String) : Except UrlError String :=
  if port = "" then .ok (if scheme = "https" then "443" else "80")
  else match Text.decimal port.toList with
    | none => .error .badPort
    | some value => if value = 0 ∨ 2 ^ 16 ≤ value then .error .badPort else .ok (toString value)

/-- An address that was looked up, if it is not protected. -/
def permit (e : UrlError) (address : Addr) : Except UrlError Addr :=
  if isProtectedAddress address.unmap then .error e else .ok address.unmap

/-- The host without the brackets around it. -/
def bare (host : String) : String := .ofList (Text.trim ['[', ']'] host.toList)

section
variable (lib : Library) (ports : List String) (net : Network)

/-- `Guard.lookup` (url.go:92). -/
def lookup (host : String) : Except UrlError (List Addr) :=
  let normalizedHost := Text.trimSuffix ['.'] (lib.toLower (lib.trimSpace host)).toList
  if normalizedHost = "localhost".toList ∨ ".localhost".toList.isSuffixOf normalizedHost = true then .error .localhost
  else match lib.parseAddr (bare host) with
    | some literal => (permit .literal literal).map ([·])
    | none => match net.resolve host with
      | none | some [] => .error .resolution
      | some addresses => addresses.mapM (permit .answer)

structure Target where
  url : URL
  addresses : List Addr

/-- `Guard.Validate` (url.go:63). -/
def validate (rawURL : String) : Except UrlError Target :=
  match lib.parse (lib.trimSpace rawURL) with
  | none => .error .format
  | some parsed =>
    if parsed.scheme ≠ "http" ∧ parsed.scheme ≠ "https" then .error .scheme
    else if parsed.hostname = "" ∨ parsed.user = true ∨ parsed.fragment ≠ "" then .error .parts
    else do
      let port ← normalizePort parsed.scheme parsed.port
      if port ∉ ports then .error .portNotAllowed
      else do
        let addresses ← lookup lib net parsed.hostname
        .ok ⟨parsed, addresses⟩

inductive DialError
  | address
  | refused (e : UrlError)
  | connect
  deriving DecidableEq

/-- A call of the dialer: the addresses it tried, and the one it is connected to. -/
structure Dialing where
  tried : List Addr
  conn : Except DialError Addr

/-- `Guard.dialContext` (url.go:194). -/
def dialContext (address : String) : Dialing :=
  match lib.splitHostPort address with
  | none => ⟨[], .error .address⟩
  | some (host, port) =>
    if port ∉ ports then ⟨[], .error (.refused .portNotAllowed)⟩
    else match lookup lib net host with
      | .error e => ⟨[], .error (.refused e)⟩
      | .ok addresses => ⟨dialEach net.connects addresses, (addresses.find? net.connects).elim (.error .connect) .ok⟩

end

/-- `New` (url.go:45): the ports of a guard. -/
def newPorts (lib : Library) (allowedPorts : List String) : List String :=
  "80" :: "443" :: (allowedPorts.map lib.trimSpace).filter (· ≠ "")

/-- `Guard.Client` (url.go:154): its transport validates every request, and it validates redirects. -/
def client (lib : Library) (ports : List String) (maxRedirects : Int) : Hooks Network where
  send net u := (validate lib ports net (lib.render u)).toBool
  follow net via u := via ≤ maxRedirects && (validate lib ports net (lib.render u)).toBool
  dial net u := (dialContext lib ports net (lib.canonicalAddr u)).tried

/-! ## Connections of the client -/

section
variable {lib : Library} {ports : List String} {net : Network}

theorem permit_ok {e : UrlError} {address a : Addr} (h : permit e address = .ok a) :
    isProtectedAddress a = false ∧ a = address.unmap := by
  rw [permit] at h
  split at h
  · cases h
  · rename_i unprotected
    obtain rfl := Except.ok.inj h
    exact ⟨Bool.eq_false_of_not_eq_true unprotected, rfl⟩

theorem permit_mapM {e : UrlError} {addresses as : List Addr} (h : addresses.mapM (permit e) = .ok as) :
    (∀ a ∈ as, isProtectedAddress a = false) ∧ as = addresses.map (·.unmap) := by
  induction addresses generalizing as with
  | nil =>
    obtain rfl : [] = as := Except.ok.inj h
    exact ⟨nofun, rfl⟩
  | cons b rest ih =>
    rw [List.mapM_cons] at h
    cases first : permit e b with
    | error e' =>
      rw [first] at h
      cases h
    | ok a =>
      cases others : rest.mapM (permit e) with
      | error e' =>
        rw [first, others] at h
        cases h
      | ok as' =>
        rw [first, others] at h
        obtain rfl : a :: as' = as := Except.ok.inj h
        obtain ⟨unprotected, rfl⟩ := permit_ok first
        obtain ⟨later, rfl⟩ := ih others
        exact ⟨List.forall_mem_cons.mpr ⟨unprotected, later⟩, rfl⟩

variable (lib net) in
/-- The addresses of a host: the one it is written as, or the answer of the resolver. -/
def hostAddresses (host : String) : List Addr :=
  (lib.parseAddr (bare host)).elim ((net.resolve host).getD []) ([·])

/-- The addresses found for a host are its own without the mapped form, and none is protected. -/
theorem lookup_ok {host : String} {as : List Addr} (h : lookup lib net host = .ok as) :
    (∀ a ∈ as, isProtectedAddress a = false) ∧ as = (hostAddresses lib net host).map (·.unmap) := by
  simp only [lookup] at h
  split at h
  · cases h
  · split at h
    · rename_i literal parsed
      cases admitted : permit .literal literal with
      | error e =>
        rw [admitted] at h
        cases h
      | ok b =>
        rw [admitted] at h
        obtain rfl : [b] = as := Except.ok.inj h
        obtain ⟨unprotected, rfl⟩ := permit_ok admitted
        exact ⟨List.forall_mem_singleton.mpr unprotected, by rw [hostAddresses, parsed]; rfl⟩
    · rename_i parsed
      split at h
      · cases h
      · cases h
      · rename_i answered
        rw [hostAddresses, parsed, answered]
        exact permit_mapM h

variable (lib net) in
/-- The addresses of a host up to the first that takes a connection. -/
def reached (host : String) : List Addr :=
  (hostAddresses lib net host).take ((hostAddresses lib net host).findIdx (net.connects ·.unmap) + 1)

theorem dialContext_tried {address : String} {a : Addr} (mem : a ∈ (dialContext lib ports net address).tried) :
    isProtectedAddress a = false ∧ ∃ host port, lib.splitHostPort address = some (host, port) ∧
      ∃ b ∈ reached lib net host, a = b.unmap := by
  rw [dialContext] at mem
  split at mem
  · cases mem
  · rename_i host port parts
    split at mem
    · cases mem
    · split at mem
      · cases mem
      · rename_i as found
        obtain ⟨unprotected, rfl⟩ := lookup_ok found
        rw [dialEach_eq, List.findIdx_map, ← List.map_take] at mem
        obtain ⟨b, isTried, rfl⟩ := List.mem_map.mp mem
        exact ⟨unprotected _ (List.mem_map_of_mem (List.mem_of_mem_take isTried)), host, port, parts, b, isTried, rfl⟩

end

/-- No address that a connection gets to carries a zone. -/
def zoneless (lib : Library) (s : Session) : Exchange Network → Bool
  | .dial net => (lib.splitHostPort (lib.canonicalAddr s.current)).all fun (host, _) => (reached lib net host).all (·.zone == "")
  | _ => true

/-- The client never dials an address that is not public, as long as no zones come up. -/
theorem client_dials_public {lib : Library} {ports : List String} {maxRedirects : Int} {u : URL} {t : Session}
    (run : Sim.Run (Session.Step (client lib ports maxRedirects)) (fun s e => zoneless lib s e = true) { current := u } t) :
    ∀ a ∈ t.dialed, Public a := by
  refine Session.dialed_of_run (fun s net met a mem => ?_) (fun _ mem => absurd mem List.not_mem_nil) run
  obtain ⟨unprotected, host, port, parts, b, isTried, rfl⟩ := dialContext_tried mem
  simp only [zoneless, parts, Option.all_some, List.all_eq_true, beq_iff_eq] at met
  exact public_of_unprotected unprotected (Addr.zone_unmap (met b isTried))

/-- Go's library on the URL `raw` of `host`, which is dialed as `address`. -/
def libraryFor (raw host address : String) (literal : Option Addr) : Library where
  parse s := if s = raw then some { scheme := "http", hostname := host, path := "/" } else none
  render _ := raw
  parseAddr s := if s = host then literal else none
  splitHostPort s := if s = address then some (host, "80") else none
  canonicalAddr _ := address
  trimSpace := id
  toLower := id

def publicLibrary : Library := libraryFor "http://cdn.example.com/" "cdn.example.com" "cdn.example.com:80" none

/-- The name has two addresses, and the first does not answer. -/
def publicNetwork : Network where
  resolve host := if host = "cdn.example.com" then some [.bytes 93 184 216 34, .bytes 93 184 216 35] else none
  connects a := a == .bytes 93 184 216 35

/-- The request of `u`, after its URL was validated and a connection was asked for. -/
def connected (lib : Library) (net : Network) (u : URL) : Session :=
  Sim.after (Session.next (client lib (newPorts lib []) 3)) { current := u } [.send net, .dial net]

/-- A request to a public host: both of its addresses are dialed. -/
theorem client_dials_public_host : (connected publicLibrary publicNetwork
    { scheme := "http", hostname := "cdn.example.com", path := "/" }).dialed =
        [.bytes 93 184 216 34, .bytes 93 184 216 35] ∧
      ∀ a ∈ (connected publicLibrary publicNetwork { scheme := "http", hostname := "cdn.example.com", path := "/" }).dialed, Public a :=
  ⟨by decide +kernel, client_dials_public (Sim.run_after (fun _ _ _ => id) (by decide +kernel))⟩

/-- The NAT64 form of 127.0.0.1 with a zone. -/
def zoned : Addr := .v6 0x0064ff9b00000000000000007f000001 "eth0"

def zonedLibrary : Library :=
  libraryFor "http://[64:ff9b::7f00:1%25eth0]/" "64:ff9b::7f00:1%eth0" "[64:ff9b::7f00:1%eth0]:80" (some zoned)

/-- The address passes the guard and is dialed, although its prefix is listed. -/
theorem zoned_address_dialed : ∃ u t,
    Sim.Run (Session.Step (client zonedLibrary (newPorts zonedLibrary []) 3)) (fun _ _ => True) { current := u } t ∧
      t.dialed = [zoned] ∧ ¬ Public zoned := by
  refine ⟨{ scheme := "http", hostname := "64:ff9b::7f00:1%eth0", path := "/" },
    connected zonedLibrary publicNetwork _, Sim.run_after (fun _ _ _ => id) ⟨trivial, trivial, trivial⟩, by decide +kernel, fun h => ?_⟩
  have listed : ⟨.groups 0x64 0xff9b 0 0 0 0 0 0, 96⟩ ∈ protectedPrefixes := by simp [protectedPrefixes]
  exact absurd (h.unlisted _ listed) (by decide +kernel)

end MinimaxProxy.Netguard

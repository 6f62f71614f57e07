import MinimaxProxy.Net.Guard

/-!
# The downloader of results

`resultdelivery/downloader.go` with its own client: it has an address test of its own, which is
made before the first request, at every redirect and for every connection.
-/

namespace MinimaxProxy.ResultDelivery
open Net Netguard

/-- `unsafeIP` (downloader.go:141). -/
def unsafeIP (ip : IP) : Bool :=
  ip == .nil || ip.addr.isLoopback || ip.addr.isPrivate || ip.addr.isLinkLocalUnicast || ip.addr.isLinkLocalMulticast
    || ip.addr.isUnspecified || ip.addr.isMulticast

/-- The network at one moment. -/
structure Network where
  resolve : String → Option (List IPAddr)
  connects : Addr → Bool

inductive DownloadError
  | notHTTPS
  | resolution
  | network
  | format
  deriving DecidableEq

def DownloadError.message : DownloadError → String
  | .notHTTPS => "结果地址必须是无凭据的 HTTPS URL"
  | .resolution => "结果地址 DNS 解析失败"
  | .network => "结果地址指向不允许的网络"
  | .format => "结果地址无效"

/-- The `validate` of `Download` (downloader.go:38). -/
def validate (net : Network) (target : URL) : Except DownloadError Unit :=
  if target.scheme ≠ "https" ∨ target.hostname = "" ∨ target.user = true then .error .notHTTPS
  else match net.resolve target.hostname with
    | none | some [] => .error .resolution
    | some addresses => if addresses.any (unsafeIP ·.ip) then .error .network else .ok ()

/-- The loop of its dialer (downloader.go:73): the addresses that are dialed. -/
def dialSafe (connects : Addr → Bool) : List IPAddr → List Addr
  | [] => []
  | resolved :: rest =>
    if unsafeIP resolved.ip then []
    else if connects resolved.ip.addr then [resolved.ip.addr]
    else resolved.ip.addr :: dialSafe connects rest

/-- Its `DialContext`: the zones of the answers are left out. -/
def dialContext (lib : Library) (net : Network) (address : String) : List Addr :=
  match lib.splitHostPort address with
  | none => []
  | some (host, _) => match net.resolve host with
    | none => []
    | some addresses => dialSafe net.connects addresses

/-- The default client of `Download`, without a proxy. -/
def client (lib : Library) : Hooks Network where
  send _ _ := true
  follow net via u := via ≤ 3 && (validate net u).toBool
  dial net u := dialContext lib net (lib.canonicalAddr u)

/-- `Download` up to its first request, which has the URL read once more. -/
def download (lib : Library) (net : Network) (rawURL : String) : Except DownloadError Session := do
  let target ← (lib.parse rawURL).elim (.error .format) .ok
  validate net target
  let u ← (lib.parse (lib.render target)).elim (.error .format) .ok
  .ok { current := u }

/-! ## The test of the guard -/

theorem isGlobalUnicast_of_form {a : Addr} (form : a.unmap = a) (valid : a.isValid = true) (narrow : a ≠ .v4 0xffffffff) :
    a.isGlobalUnicast = (!a.isUnspecified && !a.isLoopback && !a.isMulticast && !a.isLinkLocalUnicast) := by
  have differs : (a == .v4 0xffffffff) = false := beq_eq_false_iff_ne.mpr narrow
  simp only [Addr.isGlobalUnicast, Addr.isUnspecified, form, valid, bne, differs, Bool.not_false, Bool.true_and, Bool.and_true, Bool.not_or]

/-- The guard forbids what the downloader forbids, and the listed prefixes. -/
theorem isProtectedAddress_addr {ip : IP} :
    isProtectedAddress ip.addr = (unsafeIP ip || protectedPrefixes.any (·.contains ip.addr)) := by
  by_cases isNil : ip = .nil
  · subst isNil
    rfl
  have valid := IP.addr_isValid isNil
  by_cases broadcast : ip.addr = .v4 0xffffffff
  · -- the broadcast address lies in the last of the listed IPv4 prefixes
    have listed : protectedPrefixes.any (·.contains ip.addr) = true := by
      rw [broadcast]
      decide +kernel
    rw [isProtectedAddress, listed, Bool.or_true, Bool.or_true]
  · have multicast := Addr.isMulticast_of_interfaceLocal (a := ip.addr)
    rw [isProtectedAddress, unsafeIP, isGlobalUnicast_of_form (IP.unmap_addr ip) valid broadcast, valid, beq_eq_false_iff_ne.mpr isNil]
    revert multicast
    generalize ip.addr.isPrivate = isPrivate
    generalize ip.addr.isLoopback = isLoopback
    generalize ip.addr.isLinkLocalUnicast = isLinkLocalUnicast
    generalize ip.addr.isLinkLocalMulticast = isLinkLocalMulticast
    generalize ip.addr.isInterfaceLocalMulticast = isInterfaceLocalMulticast
    generalize ip.addr.isUnspecified = isUnspecified
    generalize ip.addr.isMulticast = isMulticast
    generalize protectedPrefixes.any (·.contains ip.addr) = listed
    revert isPrivate isLoopback isLinkLocalUnicast isLinkLocalMulticast isInterfaceLocalMulticast isUnspecified isMulticast listed
    decide

/-- The answers of the resolver up to the first that takes a connection or is not safe. -/
def reached (connects : Addr → Bool) (addresses : List IPAddr) : List IPAddr :=
  addresses.take (addresses.findIdx (fun x => unsafeIP x.ip || connects x.ip.addr) + 1)

theorem mem_of_dialSafe {connects : Addr → Bool} {addresses : List IPAddr} {a : Addr} (mem : a ∈ dialSafe connects addresses) :
    ∃ x ∈ reached connects addresses, unsafeIP x.ip = false ∧ a = x.ip.addr := by
  induction addresses with
  | nil => cases mem
  | cons x rest ih =>
    rw [dialSafe] at mem
    rw [reached, List.take_succ_cons, List.findIdx_cons]
    split at mem
    · cases mem
    · rename_i isSafe
      have safe := Bool.eq_false_of_not_eq_true isSafe
      split at mem
      · exact ⟨x, List.mem_cons_self, safe, List.mem_singleton.mp mem⟩
      · rename_i refused
        rcases List.mem_cons.mp mem with same | later
        · exact ⟨x, List.mem_cons_self, safe, same⟩
        · obtain ⟨y, isIt, found⟩ := ih later
          rw [safe, Bool.eq_false_of_not_eq_true refused]
          exact ⟨y, List.mem_cons_of_mem _ isIt, found⟩

/-- No safe address that a connection gets to lies in a listed prefix. -/
def unlisted (lib : Library) (s : Session) : Exchange Network → Bool
  | .dial net => (lib.splitHostPort (lib.canonicalAddr s.current)).all fun (host, _) =>
      (net.resolve host).all fun addresses => (reached net.connects addresses).all fun x =>
        unsafeIP x.ip || !protectedPrefixes.any (·.contains x.ip.addr)
  | _ => true

/-- A download never opens a connection to a protected address, as long as it gets to none that
lies in a listed prefix. -/
theorem download_stays_public {lib : Library} {net : Network} {rawURL : String} {s t : Session} (started : download lib net rawURL = .ok s)
    (run : Sim.Run (Session.Step (client lib)) (fun s e => unlisted lib s e = true) s t) :
    ∀ a ∈ t.dialed, isProtectedAddress a = false := by
  have fresh : s.dialed = [] := by
    simp only [download, bind, Except.bind] at started
    split at started
    · cases started
    · split at started
      · cases started
      · split at started
        · cases started
        · cases started
          rfl
  refine Session.dialed_of_run (fun s net met a mem => ?_) (fun _ mem => absurd (fresh ▸ mem) List.not_mem_nil) run
  simp only [client, dialContext] at mem
  split at mem
  · cases mem
  · rename_i parts
    split at mem
    · cases mem
    · rename_i answered
      obtain ⟨x, isIt, safe, rfl⟩ := mem_of_dialSafe mem
      simp only [unlisted, parts, answered, Option.all_some, List.all_eq_true] at met
      simpa only [isProtectedAddress_addr, safe, Bool.false_or, Bool.not_eq_true'] using met x isIt

/-- Go's library on the URL of a result. -/
def resultLibrary : Library where
  parse s := if s = "https://cdn.example.com/v.mp4" then some
    { scheme := "https", hostname := "cdn.example.com", path := "/v.mp4" } else none
  render _ := "https://cdn.example.com/v.mp4"
  parseAddr _ := none
  splitHostPort s := if s = "cdn.example.com:443" then some ("cdn.example.com", "443") else none
  canonicalAddr _ := "cdn.example.com:443"
  trimSpace := id
  toLower := id

/-- The host resolves to one address. -/
def resolvingTo (ip : IP) : Network where
  resolve host := if host = "cdn.example.com" then some [{ ip := ip }] else none
  connects _ := true

/-- The download of the result from a host with this address, up to its connection. -/
def downloading (ip : IP) : Session :=
  Sim.after (Session.next (client resultLibrary)) { current := { scheme := "https", hostname := "cdn.example.com", path := "/v.mp4" } }
    [.send (resolvingTo ip), .dial (resolvingTo ip)]

theorem download_from_public_host : (downloading (.four 0x5db8d822)).dialed = [.bytes 93 184 216 34] ∧
      ∀ a ∈ (downloading (.four 0x5db8d822)).dialed, isProtectedAddress a = false :=
  ⟨by decide +kernel, download_stays_public
    (show download resultLibrary (resolvingTo (.four 0x5db8d822)) "https://cdn.example.com/v.mp4" = .ok _ from rfl)
    (Sim.run_after (fun _ _ _ => id) (by decide +kernel))⟩

/-- A host with an address of the shared address space 100.64.0.0/10 is connected to. -/
theorem download_from_shared_address : ∃ s t,
    download resultLibrary (resolvingTo (.four 0x64400001)) "https://cdn.example.com/v.mp4" = .ok s ∧
      Sim.Run (Session.Step (client resultLibrary)) (fun _ _ => True) s t ∧ t.dialed = [.bytes 100 64 0 1] ∧
      isProtectedAddress (.bytes 100 64 0 1) = true :=
  ⟨_, downloading (.four 0x64400001), rfl, Sim.run_after (fun _ _ _ => id)
    ⟨trivial, trivial, trivial⟩, by decide +kernel, by decide +kernel⟩

end MinimaxProxy.ResultDelivery
